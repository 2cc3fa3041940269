import ServiceLocation.Address.Endpoint
import ServiceLocation.Error
import ServiceLocation.RetryPolicy

/-!
**Locators.**

A locator says how the names of participants are made and how they are resolved.

* `Locator`: the settings of a locator;
* `Preset`: the settings used in known networks, by name (`Preset.ofName?_name`);
* `Locator.readServer`, `Locator.addServer`: servers from their texts.
-/

namespace ServiceLocation

open ServiceLocation.Address ServiceLocation.Text

/-- How the names of participants are made and resolved. -/
structure Locator where
  /-- The service that names are resolved for. Without one, names are not resolved. -/
  service : Option String
  /-- Whether the value of a participant is lower-cased before it is hashed. -/
  lowercase : Bool
  /-- Whether the scheme of a participant is a part of its name. -/
  addScheme : Bool
  /-- Whether resolutions are remembered. -/
  useCache : Bool
  /-- What stands in front of the hash. -/
  labelPrefix : String
  /-- The servers that are asked, in their order. -/
  servers : List Endpoint
  policy : RetryPolicy
  deriving DecidableEq

/-- The settings of a known network. -/
inductive Preset where
  /-- Names are not resolved. -/
  | peppol
  /-- Names are resolved for the service of metadata publishers. -/
  | esens
  /-- The same as `esens`. -/
  | bdxl
  /-- Names without a scheme are resolved for version 2, and nothing is remembered. -/
  | bpcSmp2
  deriving Repr, DecidableEq

namespace Preset

/-- The presets, in their order. -/
def all : List Preset := [peppol, esens, bdxl, bpcSmp2]

/-- The preset that is taken if none is named. -/
def standard : Preset := esens

/-- The name of a preset. -/
def name : Preset → String
  | peppol => "peppol"
  | esens => "esens"
  | bdxl => "bdxl"
  | bpcSmp2 => "bpc-smp2"

/-- The preset with a name. -/
def ofName? (name : String) : Option Preset := all.find? (·.name == name)

/-- Every preset is found by its name. -/
@[simp] theorem ofName?_name (preset : Preset) : ofName? preset.name = some preset := by
  cases preset <;> rfl

end Preset

namespace Locator

/-- The service of metadata publishers. -/
def metadataService : String := "Meta:SMP"

/-- The service of metadata publishers of version 2. -/
def metadataService2 : String := "oasis-bdxr-smp-2"

/-- A locator for a service, with the usual settings. -/
def ofService (service : Option String) : Locator :=
  { service, lowercase := true, addScheme := true, useCache := true, labelPrefix := ""
    servers := [], policy := .standard }

/-- The locator of a preset. -/
def ofPreset : Preset → Locator
  | .peppol => ofService none
  | .esens => ofService (some metadataService)
  | .bdxl => ofService (some metadataService)
  | .bpcSmp2 => { ofService (some metadataService2) with addScheme := false, useCache := false }

/-- The server that a text writes. -/
def readServer (text : String) : Except LocationError Endpoint :=
  match Endpoint.ofText? text with
  | some server => .ok server
  | none => .error (.invalidInput (.invalidServer (trimmed text)))

/-- The servers that texts write, or the error of the first that writes none. -/
def readServers (texts : List String) : Except LocationError (List Endpoint) :=
  texts.mapM readServer

/-- The locator with one more server, asked after the others. -/
def addServer (locator : Locator) (text : String) : Except LocationError Locator := do
  .ok { locator with servers := locator.servers ++ [← readServer text] }

end Locator

end ServiceLocation
