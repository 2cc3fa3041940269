import ServiceLocation.Address.Endpoint
import ServiceLocation.Error
import ServiceLocation.Naptr.Record
import ServiceLocation.Naptr.Substitution
import ServiceLocation.RetryPolicy
import ServiceLocation.Url.Parser

/-!
**Resolving a name to a URL.**

The name is asked for until an answer comes that asking again would not change, as often as the
policy allows. Of the records answered, the first candidate whose substitution turns the name into a
URL gives the result.

* `Query`, `Reply`, `Network`: what is asked, what comes back and when, and who answers;
* `attempt`: a query that is given up when its time is over;
* `retry`, `ask`: attempts until one is final, and the records they bring;
* `usableUrl?`, `choose`: the URL of a record, and of the first usable record;
* `resolve`: the whole.
-/

namespace ServiceLocation.Naptr

open ServiceLocation.Address

/-- A query for the records of a name, to the given servers in their order. -/
structure Query where
  domain : String
  servers : List Endpoint
  deriving Repr, DecidableEq

/-- What comes back from a query. -/
abbrev Outcome := Except Failure (List Record)

/-- What a query brings, if anything, and after which time. -/
structure Reply where
  /-- What comes back; nothing ever if there is none. -/
  outcome : Option Outcome
  delay : Span

/-- Who answers queries: a reply for every query, which may depend on those before it. -/
abbrev Network := List Query → Query → Reply

namespace Network

/-- A network on which no name exists. -/
def empty : Network := fun _ _ => { outcome := some (.error .hostNotFound), delay := .ofNanos 0 }

/-- A network that answers a query the same at any time, and at once. -/
def fixed (answer : Query → Outcome) : Network :=
  fun _ query => { outcome := some (answer query), delay := .ofNanos 0 }

/-- A network that knows the outcomes of some names, the last one given for a name, and no other. -/
def ofNames (known : List (String × Outcome)) : Network :=
  fixed fun query => (known.reverse.lookup query.domain).getD (.error .hostNotFound)

/-- A network that gives the listed replies one after the other, and then the last one again. -/
def ofReplies (replies : List Reply) : Network :=
  fun asked query => ((replies[asked.length]?).or replies.getLast?).getD (empty asked query)

end Network

/-- The outcome of a query that is given up after `budget`. -/
def attempt (budget : Span) (reply : Reply) : Outcome :=
  match reply.outcome with
  | some outcome =>
    if reply.delay ≤ budget then outcome
    else .error (.tryAgain ("no answer within " ++ budget.text))
  | none => .error (.tryAgain ("no answer within " ++ budget.text))

/-- Attempts until one is final or none is left, and all queries asked. When none is left, the
outcome is the failure `last` of the attempt before. -/
def retry (network : Network) (budget : Span) (query : Query) :
    Nat → Failure → List Query → Outcome × List Query
  | 0, last, asked => (.error last, asked)
  | left + 1, _, asked =>
    match attempt budget (network asked query) with
    | .ok records => (.ok records, asked ++ [query])
    | .error failure =>
      if failure.isTransient then retry network budget query left failure (asked ++ [query])
      else (.error failure, asked ++ [query])

/-- What stands for the failure of the attempt before the first one. -/
def noAttempt : Failure := .tryAgain "no attempt made"

/-- The error of a query that brought no records. -/
def transportError (domain : String) (failure : Failure) : ResolutionError :=
  { domain, kind := .transport, detail := failure.message, cause := some failure }

/-- The records that a query brings, asked as often as the policy allows. Answers all queries asked,
too. -/
def ask (policy : RetryPolicy) (network : Network) (query : Query) (asked : List Query) :
    Except ResolutionError (List Record) × List Query :=
  let budget := policy.attemptBudget query.servers.length
  let (outcome, asked) := retry network budget query policy.maxAttempts noAttempt asked
  (outcome.mapError (transportError query.domain), asked)

/-- The fewest bytes in which a substitution expression has its delimiters and a body. -/
def leastExpressionBytes : Nat := 4

/-- The URL into which a record turns a name, if it does. -/
def usableUrl? (domain : String) (record : Record) : Option String :=
  if record.regexp.utf8ByteSize < leastExpressionBytes then none
  else match substitute record.regexp domain with
    | .ok url => if Url.isUrl url.toList then some url else none
    | .error _ => none

/-- The URL of the first usable candidate for a service. -/
def choose (domain service : String) (records : List Record) : Except ResolutionError String :=
  match candidates records service with
  | [] =>
    .error { domain, kind := .noMatchingRecord, cause := none
             detail := "no matching NAPTR records for service '" ++ service ++ "'" }
  | tried =>
    match tried.findSome? (usableUrl? domain) with
    | some url => .ok url
    | none =>
      .error { domain, kind := .noUsableRecord, cause := none
               detail := "no candidate had a valid regular expression: " ++
                 "; ".intercalate (tried.map (·.text)) }

/-- Resolves a name to the URL of a service. Answers all queries asked, too. -/
def resolve (policy : RetryPolicy) (network : Network) (query : Query) (service : String)
    (asked : List Query) : Except ResolutionError String × List Query :=
  let (answer, asked) := ask policy network query asked
  (answer.bind (choose query.domain service), asked)

end ServiceLocation.Naptr
