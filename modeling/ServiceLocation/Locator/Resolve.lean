import ServiceLocation.Cache
import ServiceLocation.Locator.BaseUrl
import ServiceLocation.Locator.Name
import ServiceLocation.Naptr.Resolver

/-!
**Locating participants.**

* `Memory`: what a locator remembers, and the queries it has made;
* `Locator.resolveWith`: a participant's name, resolved to a URL if the locator has a service. The
  name is made first, then the servers are read, then the cache is looked up, and only then queries
  are made;
* `Locator.resolveBlocking`: the same for callers that wait, who may not where nothing may block;
* `Locator.serviceUrl`: the base URL of the service.
-/

namespace ServiceLocation

open ServiceLocation.Address ServiceLocation.Naptr ServiceLocation.Text

/-- What a locator remembers between calls. -/
structure Memory where
  /-- The resolutions that succeeded. -/
  cache : Cache
  /-- The queries made so far, in their order. -/
  asked : List Query

/-- Nothing remembered. -/
def Memory.empty : Memory := { cache := .empty, asked := [] }

/-- What a call may choose. -/
structure ResolveOptions where
  /-- Whether the name is resolved. -/
  useNaptr : Bool
  /-- A server that is asked before all others; a blank text stands for none. -/
  primary : Option String
  deriving Repr, DecidableEq

/-- Names are resolved, and no server is asked before the others. -/
def ResolveOptions.standard : ResolveOptions := { useNaptr := true, primary := none }

/-- The server that is asked first, without blanks around it, unless there is none. -/
def ResolveOptions.primaryText (options : ResolveOptions) : Option String :=
  (options.primary.map trimmed).filter (!·.isEmpty)

namespace Locator

/-- The service that a call resolves names for, if it does. -/
def target? (locator : Locator) (options : ResolveOptions) : Option String :=
  if options.useNaptr then locator.service else none

/-- A list without the repetitions of members. -/
def distinct (servers : List Endpoint) : List Endpoint :=
  servers.foldl (fun kept server => if server ∈ kept then kept else kept ++ [server]) []

/-- The servers of a call: the one that is asked first, then the others, each of them once. -/
def serverList (locator : Locator) (primary : Option String) :
    Except LocationError (List Endpoint) := do
  match primary with
  | none => .ok (distinct locator.servers)
  | some text => .ok (distinct ((← readServer text) :: locator.servers))

/-- Resolves a name unless the cache knows it, and remembers the result if the locator does so. -/
def lookUp (locator : Locator) (network : Network) (name service key : String)
    (servers : List Endpoint) (memory : Memory) : Except LocationError String × Memory :=
  match (if locator.useCache then memory.cache.get? key else none) with
  | some url => (.ok url, memory)
  | none =>
    let (result, asked) :=
      Naptr.resolve locator.policy network { domain := name, servers } service memory.asked
    match result with
    | .error error => (.error (.resolution error), { memory with asked })
    | .ok url =>
      let cache := if locator.useCache then memory.cache.insert key url else memory.cache
      (.ok url, { cache, asked })

/-- Locates a participant in a zone: its name, or what the name is resolved to. -/
def resolveWith (locator : Locator) (network : Network) (participant : Participant)
    (zone : String) (options : ResolveOptions) (memory : Memory) :
    Except LocationError String × Memory :=
  match locator.dnsName participant zone with
  | .error error => (.error error, memory)
  | .ok name =>
    match locator.target? options with
    | none => (.ok name, memory)
    | some service =>
      let primary := options.primaryText
      match locator.serverList primary with
      | .error error => (.error error, memory)
      | .ok servers =>
        locator.lookUp network name service (Cache.key name service primary) servers memory

/-- Locates a participant with the standard options. -/
def resolve (locator : Locator) (network : Network) (participant : Participant) (zone : String)
    (memory : Memory) : Except LocationError String × Memory :=
  locator.resolveWith network participant zone .standard memory

/--
Locates a participant for a caller who waits. Where nothing may block, a call that would resolve a
name is refused before anything else is looked at.
-/
def resolveBlocking (locator : Locator) (mayBlock : Bool) (network : Network)
    (participant : Participant) (zone : String) (options : ResolveOptions) (memory : Memory) :
    Except LocationError String × Memory :=
  if (locator.target? options).isNone then (locator.dnsName participant zone, memory)
  else if !mayBlock then (.error (.runtime .blockingInsideRuntime), memory)
  else locator.resolveWith network participant zone options memory

/-- The base URL of a participant's service. -/
def serviceUrl (locator : Locator) (network : Network) (participant : Participant)
    (zone : String) (memory : Memory) : Except LocationError String × Memory :=
  let (resolved, memory) := locator.resolve network participant zone memory
  (resolved.bind baseUrl, memory)

/-- The base URL of a participant's service for a caller who waits. -/
def serviceUrlBlocking (locator : Locator) (mayBlock : Bool) (network : Network)
    (participant : Participant) (zone : String) (memory : Memory) :
    Except LocationError String × Memory :=
  let (resolved, memory) :=
    locator.resolveBlocking mayBlock network participant zone .standard memory
  (resolved.bind baseUrl, memory)

end Locator

end ServiceLocation
