import ServiceLocation.Error
import ServiceLocation.Text.Blank

/-!
**Zones of the domain name system.**

* `Zone.canonical`: a zone name without blanks around it and with a dot at its end;
* `Zone.bare`: a zone name as it is put behind a label, which must not be empty.
-/

namespace ServiceLocation.Zone

open ServiceLocation.Text

/-- Whether a trimmed zone name names no zone below the root. -/
def isRoot (trimmed : List Char) : Bool := trimmed.isEmpty || trimmed == ['.']

/-- A trimmed zone name with a dot at its end. -/
def withFinalDot (trimmed : List Char) : List Char :=
  if trimmed.getLast? = some '.' then trimmed else trimmed ++ ['.']

/-- The canonical form of a zone name: no blanks around it, a dot at its end and none in front. -/
def canonical (zone : String) : Except LocationError String :=
  let inner := trim zone.toList
  if isRoot inner then .error (.invalidInput .emptyZone)
  else if inner.head? = some '.' then
    .error (.invalidInput (.zoneStartsWithDot (String.ofList inner)))
  else .ok (String.ofList (withFinalDot inner))

/-- A zone name without blanks around it; the root is refused. -/
def bare (zone : String) : Except LocationError String :=
  let inner := trim zone.toList
  if isRoot inner then .error (.invalidInput .emptyZone) else .ok (String.ofList inner)

end ServiceLocation.Zone
