import ServiceLocation.Locator.Session
import ServiceLocation.Sml
import ServiceLocation.Text.Utf8
import ServiceLocation.Toml.Reader

/-!
**Configurations.**

A configuration names a preset and what differs from it. It is written in TOML.

* `Config`, `Config.standard`: a configuration, and the one that says nothing;
* `Config.ofTable?`, `Config.ofToml`: the configuration of a text. Other keys do not count;
* `Config.toToml?`: the text of a configuration, which its numbers may be too large for;
* `Config.settings`: how a configuration differs from its preset;
* `Config.locator`, `Config.sml`: what a configuration describes;
* `Config.load`: the configuration in a file.
-/

namespace ServiceLocation

open ServiceLocation.Address ServiceLocation.Toml

/-- A configuration. -/
structure Config where
  preset : Preset
  /-- Whether values are lower-cased, if that is not as in the preset. -/
  lowercase : Option Bool
  /-- Whether schemes are a part of names, if that is not as in the preset. -/
  addScheme : Option Bool
  /-- Whether resolutions are remembered, if that is not as in the preset. -/
  useCache : Option Bool
  /-- The servers to ask, in their order. -/
  servers : List String
  /-- What stands in front of hashes. -/
  labelPrefix : String
  /-- The id of a predefined locator of metadata. -/
  smlId : Option String
  /-- The time that one server is given. -/
  queryTimeoutMillis : UInt64
  /-- How often a query is repeated. -/
  maxTryAgain : UInt32
  deriving Repr, DecidableEq

/-- How long queries may take and how often they are repeated. -/
structure ResolverBounds where
  queryTimeoutMillis : UInt64
  maxTryAgain : UInt32
  deriving Repr, DecidableEq

/-- Five seconds, and three repetitions. -/
def ResolverBounds.standard : ResolverBounds := { queryTimeoutMillis := 5000, maxTryAgain := 3 }

namespace Config

/-- The configuration that says nothing. -/
def standard : Config :=
  { preset := .standard, lowercase := none, addScheme := none, useCache := none, servers := []
    labelPrefix := "", smlId := none
    queryTimeoutMillis := ResolverBounds.standard.queryTimeoutMillis
    maxTryAgain := ResolverBounds.standard.maxTryAgain }

/-! ### Keys -/

/-- The key of the preset. -/
def presetKey : String := "preset"

/-- The key of the flag for lower-casing. -/
def lowercaseKey : String := "lowercase_value_before_hashing"

/-- The key of the flag for schemes. -/
def addSchemeKey : String := "add_identifier_scheme_to_zone"

/-- The key of the flag for the cache. -/
def useCacheKey : String := "use_dns_cache"

/-- The key of the servers. -/
def serversKey : String := "custom_dns_servers"

/-- The key of the text in front of hashes. -/
def labelPrefixKey : String := "label_prefix"

/-- The key of the predefined locator of metadata. -/
def smlKey : String := "sml"

/-- The key of the bounds for queries. -/
def resolverKey : String := "resolver"

/-- The key of the time that one server is given. -/
def queryTimeoutKey : String := "query_timeout_ms"

/-- The key of the number of repetitions. -/
def maxTryAgainKey : String := "max_try_again"

/-! ### Reading -/

/-- The value under a key as `read` takes it, `fallback` if there is none. -/
def field {α : Type} (entries : List (String × Value)) (key : String) (fallback : α)
    (read : Value → Option α) : Option α :=
  match entries.lookup key with
  | none => some fallback
  | some value => read value

/-- A truth value. -/
def readFlag : Value → Option (Option Bool)
  | .boolean value => some (some value)
  | _ => none

/-- A string. -/
def readText : Value → Option String
  | .string text => some text
  | _ => none

/-- An array of strings. -/
def readTexts : Value → Option (List String)
  | .array items => items.mapM readText
  | _ => none

/-- A number that is not below zero and below `limit`. -/
def readNatural (limit : Nat) : Value → Option Nat
  | .integer value =>
    if 0 ≤ value.toInt ∧ value.toInt < limit then some value.toInt.toNat else none
  | _ => none

/-- Whether a value is a table or an array without members. -/
def isEmptyGroup : Value → Bool
  | .array items => items.isEmpty
  | .table entries => entries.isEmpty
  | _ => false

/-- A preset: its name, or a table with an empty group under its name. -/
def readPreset : Value → Option Preset
  | .string name => Preset.ofName? name
  | .table [(name, inside)] => if isEmptyGroup inside then Preset.ofName? name else none
  | _ => none

/-- A number of milliseconds. -/
def readMillis (value : Value) : Option UInt64 := (readNatural UInt64.size value).map UInt64.ofNat

/-- A number of repetitions. -/
def readRepetitions (value : Value) : Option UInt32 :=
  (readNatural UInt32.size value).map UInt32.ofNat

/-- The item at a place as `read` takes it, `fallback` if there is none. -/
def item {α : Type} (items : List Value) (place : Nat) (fallback : α)
    (read : Value → Option α) : Option α :=
  match items[place]? with
  | none => some fallback
  | some value => read value

/-- The bounds for queries: a table, or an array in the order of the fields. -/
def readBounds : Value → Option ResolverBounds
  | .table entries => do
    some { queryTimeoutMillis :=
             ← field entries queryTimeoutKey ResolverBounds.standard.queryTimeoutMillis readMillis
           maxTryAgain :=
             ← field entries maxTryAgainKey ResolverBounds.standard.maxTryAgain readRepetitions }
  | .array items => do
    some { queryTimeoutMillis :=
             ← item items 0 ResolverBounds.standard.queryTimeoutMillis readMillis
           maxTryAgain := ← item items 1 ResolverBounds.standard.maxTryAgain readRepetitions }
  | _ => none

/-- The configuration that the entries of a table give. -/
def ofTable? (entries : List (String × Value)) : Option Config := do
  let bounds ← field entries resolverKey ResolverBounds.standard readBounds
  some { preset := ← field entries presetKey .standard readPreset
         lowercase := ← field entries lowercaseKey none readFlag
         addScheme := ← field entries addSchemeKey none readFlag
         useCache := ← field entries useCacheKey none readFlag
         servers := ← field entries serversKey [] readTexts
         labelPrefix := ← field entries labelPrefixKey "" readText
         smlId := ← field entries smlKey none fun value => (readText value).map some
         queryTimeoutMillis := bounds.queryTimeoutMillis
         maxTryAgain := bounds.maxTryAgain }

/-- The configuration that a text gives. -/
def ofToml (text : String) : Except LocationError Config :=
  match (Toml.read? text.toList).bind ofTable? with
  | some config => .ok config
  | none => .error (.config .unreadable)

/-! ### Writing -/

/-- A line with a key and a value. -/
def line (key : String) (value : List Char) : List Char :=
  key.toList ++ " = ".toList ++ value ++ ['\n']

/-- A line with a key and a value, if there is one. -/
def optionalLine {α : Type} (key : String) (write : α → List Char) (value : Option α) :
    List Char :=
  (value.map fun value => line key (write value)).getD []

/-- A truth value as text. -/
def writeFlag (value : Bool) : List Char := if value then "true".toList else "false".toList

/-- A string as text. -/
def writeText (text : String) : List Char := Toml.writeString text.toList

/-- Several strings as text. -/
def writeTexts (texts : List String) : List Char :=
  '[' :: (", ".toList.intercalate (texts.map writeText) ++ [']'])

/-- A number as text. -/
def writeNatural (number : Nat) : List Char := (toString number).toList

/-- The text of a configuration. What is as in the preset is left out. -/
def toToml (config : Config) : String :=
  .ofList (line presetKey (writeText config.preset.name) ++
    optionalLine lowercaseKey writeFlag config.lowercase ++
    optionalLine addSchemeKey writeFlag config.addScheme ++
    optionalLine useCacheKey writeFlag config.useCache ++
    line serversKey (writeTexts config.servers) ++
    line labelPrefixKey (writeText config.labelPrefix) ++
    optionalLine smlKey writeText config.smlId ++
    ['\n', '['] ++ resolverKey.toList ++ [']', '\n'] ++
    line queryTimeoutKey (writeNatural config.queryTimeoutMillis.toNat) ++
    line maxTryAgainKey (writeNatural config.maxTryAgain.toNat))

/-- The text of a configuration, unless a number of it is too large for an integer of TOML. -/
def toToml? (config : Config) : Option String :=
  if (int64? config.queryTimeoutMillis.toNat).isSome ∧ (int64? config.maxTryAgain.toNat).isSome then
    some config.toToml
  else none

/-! ### Use -/

/-- The policy for queries. -/
def policy (config : Config) : RetryPolicy :=
  { queryTimeout := .ofMillis config.queryTimeoutMillis.toNat, maxTryAgain := config.maxTryAgain }

/-- The changes that a configuration makes to its preset, with its servers read. A flag that is as in the
preset is not changed. -/
def settings (config : Config) (servers : List Endpoint) : List Setting :=
  [.labelPrefix config.labelPrefix, .policy config.policy] ++
    (config.lowercase.map .lowercase).toList ++ (config.addScheme.map .addScheme).toList ++
    (config.useCache.map .useCache).toList ++ [.servers servers]

/-- The locator that a configuration describes, if its servers are addresses. -/
def locator (config : Config) : Except LocationError Locator := do
  let servers ← Locator.readServers config.servers
  (Locator.ofPreset config.preset).withSettings (config.settings servers)

/-- The predefined locator of metadata that a configuration names, if it names one. -/
def sml (config : Config) : Except LocationError (Option Sml) :=
  match config.smlId with
  | none => .ok none
  | some id =>
    match Sml.Known.ofId? id with
    | some known => .ok (some known.sml)
    | none => .error (.config (.unknownSml id))

/-- What is found where a file is looked for. -/
inductive FileState where
  | absent
  | directory
  | content (bytes : List UInt8)
  deriving Repr, DecidableEq

/-- The configuration in a file; without a file, the one that says nothing. -/
def load : FileState → Except LocationError Config
  | .absent => .ok standard
  | .directory => .error (.file .isDirectory)
  | .content bytes =>
    match Text.Utf8.decode? bytes with
    | none => .error (.file .notUtf8)
    | some text => ofToml (.ofList text)

end Config

end ServiceLocation
