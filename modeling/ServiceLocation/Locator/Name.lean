import ServiceLocation.Locator.Basic
import ServiceLocation.Naming
import ServiceLocation.Participant
import ServiceLocation.Text.AsciiCase
import ServiceLocation.Url.Parser
import ServiceLocation.Zone

/-!
**Names of participants.**

* `Locator.checkHost`: a name is accepted if it is the whole host of the URL made of it;
* `Locator.dnsName`: the name of a participant in a zone.
-/

namespace ServiceLocation.Locator

open ServiceLocation.Text

/-- The URL of a host. -/
def hostUrl (name : String) : String := "http://" ++ name

/-- Accepts a name that is the whole host of its URL, up to the case of ASCII letters. -/
def checkHost (name : String) : Except LocationError Unit :=
  let url := hostUrl name
  match Url.parse url.toList with
  | .error fault => .error (.malformedUrl url (.malformed fault))
  | .ok parsed =>
    match parsed.hostText? with
    | none => .error (.malformedUrl url .noHost)
    | some host =>
      if eqIgnoreCase host name.toList then .ok ()
      else .error (.malformedUrl url (.otherHost (String.ofList host)))

/-- The name of a participant in a zone. -/
def dnsName (locator : Locator) (participant : Participant) (zone : String) :
    Except LocationError String := do
  let zone ← Zone.bare zone
  let label := Naming.label locator.lowercase participant.value
  let scheme := if locator.addScheme then some participant.scheme else none
  let name := Naming.dnsName locator.labelPrefix label scheme zone
  checkHost name
  .ok name

end ServiceLocation.Locator
