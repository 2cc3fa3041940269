import ServiceLocation.Locator.Resolve

/-!
**Locators in use.**

* `Setting`: a change of one setting, `Setting.apply`: the locator after it, and
  `Locator.withSettings`: after several;
* `Session`: a locator, the network that its queries go to, and what it remembers;
* `Session.call`: a participant is located;
* `Session.next`, `Session.run`: a session after a step, and after a list of them.
-/

namespace ServiceLocation

open ServiceLocation.Address ServiceLocation.Naptr

/-- A change of one setting of a locator. -/
inductive Setting where
  | service (name : Option String)
  | lowercase (enabled : Bool)
  | addScheme (enabled : Bool)
  | useCache (enabled : Bool)
  | labelPrefix (text : String)
  | policy (new : RetryPolicy)
  | servers (new : List Endpoint)
  /-- One more server, given as a text. -/
  | addServer (text : String)
  deriving DecidableEq

/-- The locator after a change, which is refused if its text writes no server. -/
def Setting.apply : Setting → Locator → Except LocationError Locator
  | .service name, locator => .ok { locator with service := name }
  | .lowercase enabled, locator => .ok { locator with lowercase := enabled }
  | .addScheme enabled, locator => .ok { locator with addScheme := enabled }
  | .useCache enabled, locator => .ok { locator with useCache := enabled }
  | .labelPrefix text, locator => .ok { locator with labelPrefix := text }
  | .policy new, locator => .ok { locator with policy := new }
  | .servers new, locator => .ok { locator with servers := new }
  | .addServer text, locator => locator.addServer text

/-- The locator after several changes, one after the other. -/
def Locator.withSettings (locator : Locator) (settings : List Setting) :
    Except LocationError Locator :=
  settings.foldlM (fun locator setting => setting.apply locator) locator

/-- A locator in use. -/
structure Session where
  locator : Locator
  /-- Who answers the queries. -/
  network : Network
  memory : Memory

namespace Session

/-- What is done with a locator in use. -/
inductive Step where
  /-- A participant is located. -/
  | locate (participant : Participant) (zone : String) (options : ResolveOptions)
  /-- The remembered resolutions are forgotten. -/
  | clear
  /-- A setting is changed. -/
  | change (setting : Setting)
  /-- Queries go to another network from now on. -/
  | connect (network : Network)

/-- A locator that has not been used yet. -/
def opened (locator : Locator) (network : Network) : Session :=
  { locator, network, memory := .empty }

/-- What a call answers, and what the locator remembers afterwards. -/
def call (session : Session) (participant : Participant) (zone : String)
    (options : ResolveOptions) : Except LocationError String × Memory :=
  session.locator.resolveWith session.network participant zone options session.memory

/-- The session after a step. A change that is refused takes the locator with it. -/
def next (session : Session) : Step → Except LocationError Session
  | .locate participant zone options =>
    .ok { session with memory := (session.call participant zone options).2 }
  | .clear => .ok { session with memory := { session.memory with cache := .empty } }
  | .change setting => do .ok { session with locator := ← setting.apply session.locator }
  | .connect network => .ok { session with network }

/-- The session after a list of steps. -/
def run (session : Session) (steps : List Step) : Except LocationError Session :=
  steps.foldlM next session

end Session

end ServiceLocation
