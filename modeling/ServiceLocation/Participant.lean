/-!
**Participants.**

A participant is known by a value within an identifier scheme; an empty scheme means none.
-/

namespace ServiceLocation

/-- A participant. -/
structure Participant where
  /-- The identifier scheme; empty if there is none. -/
  scheme : String
  /-- The value within the scheme. -/
  value : String
  deriving Repr, DecidableEq, Inhabited

namespace Participant

/-- The participant of a value without a scheme. -/
def ofValue (value : String) : Participant := { scheme := "", value := value }

/-- Whether the participant has a scheme. -/
def hasScheme (participant : Participant) : Bool := !participant.scheme.isEmpty

/-- The participant as text: the value, after the scheme and two colons if there is a scheme. -/
def text (participant : Participant) : String :=
  if participant.hasScheme then participant.scheme ++ "::" ++ participant.value
  else participant.value

end Participant

end ServiceLocation
