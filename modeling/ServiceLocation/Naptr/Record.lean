import ServiceLocation.Text.AsciiCase

/-!
**NAPTR records.**

* `Record.isTerminalFor`: whether a record ends the search for a service with a URI;
* `candidates`: the records for a service in the order in which they are tried: by order, then by
  preference, and as they were answered where both are equal.
-/

namespace ServiceLocation.Naptr

open ServiceLocation.Text

/-- A NAPTR record. -/
structure Record where
  order : UInt16
  preference : UInt16
  flags : String
  service : String
  /-- The substitution expression. -/
  regexp : String
  /-- The name that replaces the one that was asked for; a full stop if there is none. -/
  replacement : String
  deriving Repr, DecidableEq

namespace Record

/-- A text in double quotes. -/
def inQuotes (text : String) : String := "\"" ++ text ++ "\""

/-- A record as a line of a zone file has it. -/
def text (record : Record) : String :=
  " ".intercalate
    [toString record.order.toNat, toString record.preference.toNat, inQuotes record.flags,
     inQuotes record.service, inQuotes record.regexp, record.replacement]

/-- The flag of records whose result is a URI. -/
def terminalFlag : String := "U"

/-- Whether a record ends the search for a service with a URI. -/
def isTerminalFor (record : Record) (service : String) : Bool :=
  eqIgnoreCase record.flags.toList terminalFlag.toList && record.service == service

/-- Whether one record is tried before another, or they are tried as answered. -/
def notAfter (first second : Record) : Bool :=
  first.order < second.order ||
    (first.order == second.order && first.preference ≤ second.preference)

end Record

/-- The records for a service, in the order in which they are tried. -/
def candidates (records : List Record) (service : String) : List Record :=
  (records.filter (·.isTerminalFor service)).mergeSort Record.notAfter

end ServiceLocation.Naptr
