import ServiceLocation.Pattern.Basic
import ServiceLocation.Text.AsciiCase
import ServiceLocation.Text.RunLength

/-!
**Substitution expressions.**

The first character of an expression sets its three parts apart: a pattern, a replacement and flags.
The expression replaces the first match of the pattern in a text. In the replacement a backslash and
a digit stand for what the group of that number matches.

* `Replacement.template`: the template that a replacement writes;
* `Substitution.ofText?`: the substitution that a text writes;
* `Substitution.apply`: the text with its first match replaced.
-/

namespace ServiceLocation.Naptr

open ServiceLocation.Text

/-- Why a substitution fails. -/
inductive SubstitutionFault where
  /-- The expression does not have three parts. -/
  | malformed (expression : String)
  /-- The pattern is not well formed, or too large. -/
  | badPattern
  /-- The pattern does not match. -/
  | noMatch (pattern input : String)
  deriving Repr, DecidableEq

/-- The wording of the fault. -/
def SubstitutionFault.message : SubstitutionFault → String
  | malformed expression =>
    "substitution expression '" ++ expression ++ "' is not of the form <d>ERE<d>replacement<d>flags"
  | badPattern => "invalid pattern"
  | noMatch pattern input => "pattern '" ++ pattern ++ "' does not match '" ++ input ++ "'"

/-! ### Replacements -/

namespace Replacement

/-- A character that stands for itself, in a template. -/
def literal (c : Char) : List Char := if c = '$' then ['$', '$'] else [c]

/-- What a backslash and a character stand for, in a template: a reference to a group if the character
is a digit, and else the character. -/
def escaped (c : Char) : List Char := if c.isDigit then ['$', '\x7b', c, '\x7d'] else literal c

/-- The template that a replacement writes; a backslash at its end stands for itself. -/
def template : List Char → List Char
  | [] => []
  | '\\' :: c :: rest => escaped c ++ template rest
  | c :: rest => literal c ++ template rest

end Replacement

/-! ### Substitutions -/

/-- A substitution. -/
structure Substitution where
  pattern : String
  replacement : String
  flags : String
  deriving Repr, DecidableEq

namespace Substitution

/-- The substitution that a text writes: exactly three parts, which the first character of the text
sets apart. -/
def ofText? (text : List Char) : Option Substitution :=
  match text with
  | [] => none
  | delimiter :: body =>
    match body.splitOn delimiter with
    | [pattern, replacement, flags] =>
      some { pattern := .ofList pattern, replacement := .ofList replacement
             flags := .ofList flags }
    | _ => none

/-- The substitution that a text writes, or the fault that it is none. -/
def parse (text : String) : Except SubstitutionFault Substitution :=
  match ofText? text.toList with
  | some substitution => .ok substitution
  | none => .error (.malformed text)

/-- Whether letters match in either case. -/
def ignoresCase (substitution : Substitution) : Bool :=
  eqIgnoreCase substitution.flags.toList ['i']

/-- A match replaced by what the replacement stands for. -/
def replaceMatch (substitution : Substitution) (found : Pattern.Match) : String :=
  let template := Replacement.template substitution.replacement.toList
  .ofList (found.before ++ Pattern.fillIn found.referent template ++ found.after)

/-- A text with the first match of the pattern replaced. -/
def apply (substitution : Substitution) (input : String) : Except SubstitutionFault String :=
  match Pattern.ofText? substitution.ignoresCase substitution.pattern.toList with
  | none => .error .badPattern
  | some pattern =>
    match pattern.find? input.toList with
    | none => .error (.noMatch substitution.pattern input)
    | some found => .ok (substitution.replaceMatch found)

end Substitution

/-- The substitution that a text writes, applied to another text. -/
def substitute (expression input : String) : Except SubstitutionFault String := do
  (← Substitution.parse expression).apply input

end ServiceLocation.Naptr
