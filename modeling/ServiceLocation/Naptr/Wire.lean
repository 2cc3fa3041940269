import ServiceLocation.Naptr.Resolver
import ServiceLocation.Text.AsciiCase
import ServiceLocation.Text.Blank
import ServiceLocation.Text.RunLength
import ServiceLocation.Text.Utf8

/-!
**Asking name servers.**

* `isAskable`: the names that can be asked for;
* `Response`, `Verdict`: what a server sends, and what that means for a name;
* `askServers`: servers asked in turn, until one has records of the name;
* `lookUp`: a query made to servers over a network that may be down.
-/

namespace ServiceLocation.Naptr.Wire

open ServiceLocation.Text

/-! ### Names -/

/-- A name without the dot that ends it, in small letters, as names are compared. -/
def comparable (name : String) : List Char :=
  let letters := lowerAscii name.toList
  if letters.getLast? = some '.' then letters.dropLast else letters

/-- The labels of a name; the root has none. -/
def labels (name : String) : List (List Char) :=
  let whole := comparable name
  if whole.isEmpty then [] else whole.splitOn '.'

/-- The number of bytes of a text. -/
def byteCount (text : List Char) : Nat := (Utf8.encode text).length

/-- Whether a name can be asked for: it has no blank, no empty or long label, and is not long. -/
def isAskable (name : String) : Bool :=
  let parts := labels name
  !name.toList.any isBlank && parts.all (fun part => !part.isEmpty && byteCount part ≤ 63) &&
    parts.foldl (fun length part => length + byteCount part + 1) 1 ≤ 255

/-! ### Responses -/

/-- The data of a record that a server sends. -/
inductive Data where
  | naptr (order preference : UInt16) (flags service regexp : List UInt8) (replacement : String)
  /-- The owner is another name of the target. -/
  | canonicalName (target : String)
  | other

/-- A record that a server sends; without an owner of its own it is owned by the name asked for. -/
structure ResourceRecord where
  owner : Option String
  data : Data

/-- What a server sends. -/
structure Response where
  /-- The response code, below 16. -/
  code : Nat
  answers : List ResourceRecord

/-- What a response means for a name. -/
inductive Verdict where
  /-- It holds records of the name; those of the wanted kind are listed. -/
  | records (found : List Record)
  /-- It holds none; the code tells why. -/
  | without (code : Nat)
  /-- There is no response, or none that can be read. -/
  | silence

/-- Whether a record is owned by a name. -/
def ResourceRecord.isOwnedBy (record : ResourceRecord) (asked name : String) : Bool :=
  comparable (record.owner.getD asked) == comparable name

/-- The text of bytes. -/
def textOf (bytes : List UInt8) : String := .ofList (Utf8.decodeLossy bytes)

/-- The record of data of the wanted kind. -/
def Data.record? : Data → Option Record
  | naptr order preference flags service regexp replacement =>
    some { order, preference, flags := textOf flags, service := textOf service
           regexp := textOf regexp, replacement }
  | _ => none

/-- The name that the owner stands for. -/
def Data.target? : Data → Option String
  | canonicalName target => some target
  | _ => none

/-- Whether data can be read: flags are ASCII letters and digits. -/
def Data.isReadable : Data → Bool
  | naptr _ _ flags _ _ _ => flags.all fun flag => flag < 0x80 && (Char.ofUInt8 flag).isAlphanum
  | _ => true

/-- The codes with which a response may hold records. -/
def mayHoldRecords (code : Nat) : Bool := code == 0 || code == 3 || 11 ≤ code

/-- What a response means for a name. -/
def Response.verdict (response : Response) (name : String) : Verdict :=
  if !response.answers.all (·.data.isReadable) then .silence
  else
    let own := response.answers.filter (·.isOwnedBy name name)
    let aliases := own.filterMap (·.data.target?)
    let behind := response.answers.filter fun record =>
      record.owner.isSome && aliases.any (record.isOwnedBy name)
    if mayHoldRecords response.code && !own.isEmpty then
      .records ((own ++ behind).filterMap (·.data.record?))
    else .without response.code

/-- The name of a response code. -/
def codeName (code : Nat) : String :=
  match code with
  | 0 => "No Error"
  | 1 => "Form Error"
  | 2 => "Server Failure"
  | 3 => "Non-Existent Domain"
  | 4 => "Not Implemented"
  | 5 => "Query Refused"
  | 6 => "Name should not exist"
  | 7 => "RR Set should not exist"
  | 8 => "RR Set does not exist"
  | 9 => "Not authorized"
  | 10 => "Name not in zone"
  | _ => "Unknown response code"

/-! ### Queries -/

/-- Why a query brings no records. -/
inductive Fault where
  /-- The name cannot be asked for. -/
  | badName
  /-- No server can be reached. -/
  | unreachable
  | silence
  /-- The code of a response without records. -/
  | code (code : Nat)
  deriving Repr, DecidableEq

/-- The failure of a query. -/
def Fault.failure : Fault → Failure
  | badName => .unrecoverable "malformed domain name"
  | unreachable => .unrecoverable "io error: Network is unreachable (os error 101)"
  | silence => .tryAgain "request timed out"
  | code 2 => .tryAgain ("server answered " ++ codeName 2)
  | code 3 => .hostNotFound
  | code other => .unrecoverable ("server answered " ++ codeName other)

/-- Whether the fault is told by a server, or by its silence. -/
def Fault.isFromServer : Fault → Bool
  | badName => false
  | unreachable => false
  | silence => true
  | code _ => true

/-- Servers asked in turn: the records of the first that has some, or the first code sent, and which
servers are asked. -/
def askServers (name : String) :
    Option Nat → List (Option Response) → Except Fault (List Record) × List Bool
  | code, [] =>
    match code with
    | none => (.error .silence, [])
    | some 0 => (.ok [], [])
    | some code => (.error (.code code), [])
  | code, server :: rest =>
    match (server.map (·.verdict name)).getD .silence with
    | .records found => (.ok found, true :: rest.map fun _ => false)
    | .without next =>
      let (outcome, asked) := askServers name (code.or (some next)) rest
      (outcome, true :: asked)
    | .silence =>
      let (outcome, asked) := askServers name code rest
      (outcome, true :: asked)

/-- A query made to servers, of which `none` never responds; no server is asked over a network that
is down, or for a name that cannot be asked for. -/
def lookUp (isUp : Bool) (servers : List (Option Response)) (name : String) :
    Except Fault (List Record) × List Bool :=
  if !isAskable name then (.error .badName, servers.map fun _ => false)
  else if !isUp then (.error .unreachable, servers.map fun _ => false)
  else askServers name none servers

/-- The network of such servers. -/
def network (isUp : Bool) (servers : List (Option Response)) : Network :=
  .fixed fun query => (lookUp isUp servers query.domain).1.mapError Fault.failure

end ServiceLocation.Naptr.Wire
