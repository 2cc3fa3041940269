import ServiceLocation.Json.Reader
import ServiceLocation.Participant

/-!
**Participants in JSON.**

A participant is an object with the members `scheme` and `value`, or an array of the two.

* `Participant.json`: the object of a participant;
* `Participant.ofJson?`: the participant of a text. The scheme may be missing, other members do not
  count, and none of the two may come twice.
-/

namespace ServiceLocation.Participant

open ServiceLocation.Json

/-- The key of the scheme. -/
def schemeKey : String := "scheme"

/-- The key of the value. -/
def valueKey : String := "value"

/-- A participant as an object without blanks. -/
def json (participant : Participant) : String :=
  .ofList (Value.text (.ofMembers
    [(schemeKey, .ofText participant.scheme), (valueKey, .ofText participant.value)]))

/-- The text of a string. -/
def textOf? : Value → Option String
  | .string text => text.map String.ofList
  | _ => none

/-- The members with a key. -/
def valuesOf (key : String) (members : List (Option (List Char) × Value)) : List Value :=
  (members.filter fun member => member.1 == some key.toList).map (·.2)

/-- The text of the only value, `absent` if there is none; several give nothing. -/
def onlyText? (absent : Option String) : List Value → Option String
  | [] => absent
  | [value] => textOf? value
  | _ => none

/-- The participant of an object with the given members. -/
def ofMembers? (members : List (Option (List Char) × Value)) : Option Participant := do
  if members.all (·.1.isSome) then
    some { scheme := ← onlyText? (some "") (valuesOf schemeKey members)
           value := ← onlyText? none (valuesOf valueKey members) }
  else none

/-- The participant of a JSON value. -/
def ofJsonValue? : Value → Option Participant
  | .object members => ofMembers? members
  | .array [scheme, value] => do some { scheme := ← textOf? scheme, value := ← textOf? value }
  | _ => none

/-- The participant that a text writes. -/
def ofJson? (text : String) : Option Participant :=
  (Value.ofText? text.toList).bind ofJsonValue?

end ServiceLocation.Participant
