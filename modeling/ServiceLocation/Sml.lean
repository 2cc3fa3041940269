import ServiceLocation.Json.Value
import ServiceLocation.Text.Ending
import ServiceLocation.Url.Parser
import ServiceLocation.Zone

/-!
**Service metadata locators.**

A service metadata locator owns the zone in which participants get their names, and a service by
which the zone is managed.

* `Sml.make`: a locator from its parts, the zone in canonical form and the management URL without
  a slash at its end;
* `Sml.text`, `Sml.json`: a locator in words, and as a JSON object;
* `metadataEndpoint`, `participantEndpoint`: the two endpoints of the management service;
* `Sml.Known`: the predefined locators, and finding them by their ids.
-/

namespace ServiceLocation

/-- A service metadata locator. -/
structure Sml where
  id : String
  displayName : String
  /-- The zone in which participants get their names. -/
  zone : String
  /-- The URL of the management service, without a slash at its end. -/
  managementUrl : String
  /-- Whether the management service asks for a client certificate. -/
  requiresClientCertificate : Bool
  deriving Repr, DecidableEq

namespace Sml

open ServiceLocation.Text

/-- A management URL without a slash at its end, if it is a URL. -/
def readManagementUrl (url : String) : Except LocationError String :=
  let inner := dropFinal '/' url.toList
  if inner.isEmpty then .error (.invalidInput .emptyManagementUrl)
  else match Url.parse inner with
    | .ok _ => .ok (String.ofList inner)
    | .error fault => .error (.malformedUrl (String.ofList inner) (.malformed fault))

/-- The locator with the given parts. -/
def make (id displayName zone managementUrl : String) (requiresClientCertificate : Bool) :
    Except LocationError Sml := do
  if (trim id.toList).isEmpty then .error (.invalidInput .emptySmlId)
  else if (trim displayName.toList).isEmpty then .error (.invalidInput .emptySmlName)
  else
    let zone ← Zone.canonical zone
    let managementUrl ← readManagementUrl managementUrl
    .ok { id, displayName, zone, managementUrl, requiresClientCertificate }

/-- The zone of the publishers. -/
def publisherZone (sml : Sml) : String := "publisher." ++ sml.zone

/-- The normal form of a URL under the management URL. -/
def endpoint (sml : Sml) (path : String) : Except LocationError String :=
  let raw := sml.managementUrl ++ path
  match Url.parse raw.toList with
  | .ok url => .ok (String.ofList url.text)
  | .error fault => .error (.malformedUrl raw (.malformed fault))

/-- Where service metadata is managed. -/
def metadataEndpoint (sml : Sml) : Except LocationError String :=
  sml.endpoint "/manageservicemetadata"

/-- Where participants are managed. -/
def participantEndpoint (sml : Sml) : Except LocationError String :=
  sml.endpoint "/manageparticipantidentifier"

/-- A locator as text: its name, and its zone in parentheses. -/
def text (sml : Sml) : String := sml.displayName ++ " (" ++ sml.zone ++ ")"

/-- A locator as a JSON object without blanks. -/
def json (sml : Sml) : String :=
  .ofList (Json.Value.text (.ofMembers
    [("id", .ofText sml.id), ("display_name", .ofText sml.displayName),
     ("dns_zone", .ofText sml.zone), ("management_service_url", .ofText sml.managementUrl),
     ("requires_client_certificate", .boolean sml.requiresClientCertificate)]))

/-- The predefined locators. -/
inductive Known where
  | production
  | test
  | development
  deriving Repr, DecidableEq

namespace Known

/-- The predefined locators, in their order. -/
def all : List Known := [production, test, development]

/-- The parts of a predefined locator. -/
def sml : Known → Sml
  | production =>
    { id := "digitprod", displayName := "SML", zone := "edelivery.tech.ec.europa.eu."
      managementUrl := "https://edelivery.tech.ec.europa.eu/edelivery-sml"
      requiresClientCertificate := true }
  | test =>
    { id := "digittest", displayName := "SMK", zone := "acc.edelivery.tech.ec.europa.eu."
      managementUrl := "https://acc.edelivery.tech.ec.europa.eu/edelivery-sml"
      requiresClientCertificate := true }
  | development =>
    { id := "local", displayName := "Development", zone := "smj.peppolcentral.org."
      managementUrl := "http://localhost:8080", requiresClientCertificate := false }

/-- The id of a predefined locator. -/
def id (known : Known) : String := known.sml.id

/-- The predefined locator with an id. -/
def ofId? (id : String) : Option Known := all.find? (·.id == id)

/-- The predefined locator with an id, or `fallback` if there is none. -/
def ofIdD (id : String) (fallback : Known) : Known := (ofId? id).getD fallback

/-- Every predefined locator is found by its id. -/
@[simp] theorem ofId?_id (known : Known) : ofId? known.id = some known := by
  cases known <;> rfl

end Known

end Sml

end ServiceLocation
