import ServiceLocation.Pattern.Bracket

/-!
**Reading patterns.**

* `Piece`: a part of a pattern, and how deeply it nests;
* `Draft`: what is read so far, with the groups that are still open;
* `readPattern`: the expression of a pattern, if it is well formed.
-/

namespace ServiceLocation.Pattern

open ServiceLocation.Text ServiceLocation.Unicode

/-- A part of a pattern. -/
structure Piece where
  expr : Expr
  /-- How deeply it nests. -/
  depth : Nat
  /-- Whether a repetition may follow it. -/
  repeatable : Bool

/-- How deeply a pattern may nest. -/
def depthLimit : Nat := 250

/-- How deeply parts nest of which there may be several. -/
def depthOfAll (pieces : List Piece) : Nat :=
  let deepest := (pieces.map (·.depth)).foldl max 0
  if pieces.length ≤ 1 then deepest else deepest + 1

/-- Parts one after the other; the last comes first in the list. -/
def joinPieces (reversed : List Piece) : Piece :=
  { expr := .sequence (reversed.reverse.map (·.expr)), depth := depthOfAll reversed
    repeatable := true }

/-- A choice of parts; the last comes first in the list. -/
def choosePieces (reversed : List Piece) : Piece :=
  { expr := .choice (reversed.reverse.map (·.expr)), depth := depthOfAll reversed
    repeatable := true }

/-- A group whose content is being read. -/
structure OpenGroup where
  /-- The number of the group, unless its text is not remembered. -/
  index : Option Nat
  /-- The modes around the group. -/
  flags : Flags
  /-- What comes before the group in its branch, the last part first. -/
  pieces : List Piece
  /-- The branches before the one of the group, the last first. -/
  branches : List Piece

/-- What is read so far. -/
structure Draft where
  flags : Flags
  /-- The number of remembered groups. -/
  groups : Nat
  /-- The names of groups. -/
  names : List (List Char)
  /-- The groups that are open, the innermost first. -/
  enclosing : List OpenGroup
  /-- The current branch, the last part first. -/
  pieces : List Piece
  /-- The branches before it, the last first. -/
  branches : List Piece

namespace Draft

/-- Nothing is read. -/
def start (ignoreCase : Bool) : Draft :=
  { flags := .initial ignoreCase, groups := 0, names := [], enclosing := [], pieces := []
    branches := [] }

/-- One more part. -/
def add (draft : Draft) (expr : Expr) (depth : Nat) (repeatable : Bool) : Draft :=
  { draft with pieces := ⟨expr, depth, repeatable⟩ :: draft.pieces }

/-- The branches up to the current one, as one part. -/
def finishedBranches (draft : Draft) : Piece :=
  choosePieces (joinPieces draft.pieces :: draft.branches)

/-- The start of another branch. -/
def nextBranch (draft : Draft) : Draft :=
  { draft with pieces := [], branches := joinPieces draft.pieces :: draft.branches }

/-- The start of a group that has the given modes within. -/
def openGroup (draft : Draft) (index : Option Nat) (flags : Flags) : Draft :=
  let group : OpenGroup :=
    { index, flags := draft.flags, pieces := draft.pieces, branches := draft.branches }
  { draft with flags, enclosing := group :: draft.enclosing, pieces := [], branches := [] }

/-- The start of the next remembered group. -/
def openRemembered (draft : Draft) : Draft :=
  { draft with groups := draft.groups + 1 }.openGroup (some (draft.groups + 1)) draft.flags

/-- The end of a group, if one is open. -/
def closeGroup? (draft : Draft) : Option Draft :=
  match draft.enclosing with
  | [] => none
  | group :: outer =>
    let inner := draft.finishedBranches
    let expr := match group.index with
      | some index => .group index inner.expr
      | none => inner.expr
    some ({ draft with flags := group.flags, enclosing := outer, pieces := group.pieces
                       branches := group.branches }.add expr (inner.depth + 1) true)

/-- The last part repeated, if it may be. -/
def repeatLast? (draft : Draft) (least : Nat) (most : Option Nat) (greedy : Bool) :
    Option Draft :=
  match draft.pieces with
  | piece :: before =>
    if piece.repeatable then
      let expr := piece.expr.repeated least most (greedy != draft.flags.swapGreed)
      some ({ draft with pieces := before }.add expr (piece.depth + 1) true)
    else none
  | [] => none

end Draft

/-! ### Repetitions -/

/-- Whether a question mark follows, which makes a repetition lazy, and the text behind it. -/
def readLazy (text : List Char) : Bool × List Char :=
  match text with
  | '?' :: rest => (true, rest)
  | _ => (false, text)

/-- Reads digits and what the modes ignore between them. -/
def readDigits (flags : Flags) (text : List Char) : List Char × List Char :=
  match text with
  | c :: rest =>
    if c.isDigit then
      let (digits, after) := readDigits flags (flags.skip rest)
      (c :: digits, after)
    else ([], c :: rest)
  | [] => ([], [])
  termination_by text.length
  decreasing_by exact Nat.lt_succ_of_le (flags.length_skip_le rest)

/-- Reads a count below `2 ^ 32`, with blanks around it. -/
def readCount (flags : Flags) (text : List Char) : Option (Nat × List Char) := do
  let (digits, after) := readDigits flags ((flags.skip text).dropWhile isBlank)
  let count ← (number? 10 digits).filter (· < UInt32.size)
  some (count, flags.skip (after.dropWhile isBlank))

/-- Reads the counts of a repetition behind the opening brace. -/
def readCounts (flags : Flags) (text : List Char) :
    Option ((Nat × Option Nat) × List Char) := do
  let (least, rest) ← readCount flags text
  let (most, rest) ← match rest with
    | ',' :: more =>
      match flags.skip more with
      | '\x7d' :: after => some (none, '\x7d' :: after)
      | start => do
        let (most, after) ← readCount flags start
        some (some most, after)
    | _ => some (some least, rest)
  match rest with
  | '\x7d' :: after => if most.any (· < least) then none else some ((least, most), after)
  | _ => none

/-! ### Groups -/

/-- The modes with one of them, known by its letter, switched on or off. -/
def Flags.switch? (flags : Flags) (letter : Char) (on : Bool) : Option Flags :=
  match letter with
  | 'i' => some { flags with ignoreCase := on }
  | 'm' => some { flags with multiLine := on }
  | 's' => some { flags with dotAll := on }
  | 'U' => some { flags with swapGreed := on }
  | 'u' => some { flags with unicode := on }
  | 'R' => some { flags with crlf := on }
  | 'x' => some { flags with extended := on }
  | _ => none

/--
Reads letters of modes up to a colon or a closing parenthesis, which is answered too. No letter may
come twice, and a dash, which switches off what follows it, only once and not last.
-/
def readModes (seen : List Char) (flags : Flags) : List Char → Option (Flags × Char × List Char)
  | [] => none
  | c :: rest =>
    if c = ':' ∨ c = ')' then
      if seen.head? = some '-' ∨ (c = ')' ∧ seen.isEmpty) then none else some (flags, c, rest)
    else if c ∈ seen then none
    else if c = '-' then readModes (c :: seen) flags rest
    else do readModes (c :: seen) (← flags.switch? c ('-' ∉ seen)) rest

/-- Whether a character may stand in the name of a group. -/
def inGroupName (isFirst : Bool) (c : Char) : Bool :=
  c == '_' || alphabetic.contains c ||
    (!isFirst && (c == '.' || c == '[' || c == ']' || (Category.ofChar c).isNumber))

/-- Reads the name of a group up to the bracket that ends it. -/
def readGroupName (isFirst : Bool) : List Char → Option (List Char × List Char)
  | [] => none
  | c :: rest =>
    if c = '>' then (if isFirst then none else some ([], rest))
    else if inGroupName isFirst c then
      (readGroupName false rest).map fun (name, after) => (c :: name, after)
    else none

/-- Opens the group that a name is given to; no two groups have one name. -/
def openNamed (draft : Draft) (text : List Char) : Option (Draft × List Char) := do
  let (name, after) ← readGroupName true text
  if name ∈ draft.names then none
  else some ({ draft with names := name :: draft.names }.openRemembered, after)

/-- Reads what stands behind an opening parenthesis: the start of a group, or a change of modes. -/
def readGroupStart (draft : Draft) (text : List Char) : Option (Draft × List Char) := do
  match draft.flags.skip text with
  | '?' :: '=' :: _ => none
  | '?' :: '!' :: _ => none
  | '?' :: '<' :: '=' :: _ => none
  | '?' :: '<' :: '!' :: _ => none
  | '?' :: 'P' :: '<' :: rest => openNamed draft rest
  | '?' :: '<' :: rest => openNamed draft rest
  | '?' :: rest =>
    let (flags, ending, after) ← readModes [] draft.flags rest
    if ending = ':' then some (draft.openGroup none flags, after)
    else some ({ draft with flags }.add .empty 0 false, after)
  | start => some (draft.openRemembered, start)

/-! ### Whole patterns -/

/-- The set of a character that stands for itself; a byte beyond ASCII is no character. -/
def literalSet? (flags : Flags) (c : Char) (isByte : Bool) : Option CharSet :=
  if !flags.ignoreCase then
    if !flags.unicode && isByte && 0x7F < c.toNat then none else some (.singleton c)
  else if flags.unicode then some (.ofCodes (caseVariants c.toNat))
  else if isByte && 0x7F < c.toNat then none
  else some (closeUnderAsciiCase (.singleton c))

/-- The set of the full stop; there is none for bytes. -/
def anyChar? (flags : Flags) : Option CharSet :=
  if !flags.unicode then none
  else if flags.dotAll then some .all
  else if flags.crlf then some (CharSet.ofCodes [0xA, 0xD]).complement
  else some (CharSet.singleton '\n').complement

/-- The condition of `^` or `$`. -/
def lineLook (flags : Flags) (whole : Look) (line : Bool → Look) : Look :=
  if flags.multiLine then line flags.crlf else whole

/-- The expression of an escape. -/
def Escape.expr? (flags : Flags) : Escape → Option Expr
  | .literal c isByte => (literalSet? flags c isByte).map Expr.chars
  | .chars set => some (Expr.chars set)
  | .look condition => some (Expr.look condition)

/-- Reads one more thing in a pattern. -/
def patternStep (draft : Draft) (text : List Char) :
    Option (Progress Draft Draft × List Char) := do
  let flags := draft.flags
  let leaf (expr : Expr) (rest : List Char) : Option (Progress Draft Draft × List Char) :=
    some (.more (draft.add expr 0 true), rest)
  let quantify (least : Nat) (most : Option Nat) (rest : List Char) :
      Option (Progress Draft Draft × List Char) := do
    let (isLazy, after) := readLazy rest
    some (.more (← draft.repeatLast? least most !isLazy), after)
  match flags.skip text with
  | [] => some (.done draft, [])
  | '(' :: rest =>
    let (next, after) ← readGroupStart draft rest
    some (.more next, after)
  | ')' :: rest => some (.more (← draft.closeGroup?), rest)
  | '|' :: rest => some (.more draft.nextBranch, rest)
  | '[' :: rest =>
    let (part, after) ← readBracket flags rest
    some (.more (draft.add (.chars part.set) part.depth true), after)
  | '?' :: rest => quantify 0 (some 1) rest
  | '*' :: rest => quantify 0 none rest
  | '+' :: rest => quantify 1 none rest
  | '\x7b' :: rest =>
    let ((least, most), after) ← readCounts flags rest
    quantify least most (flags.skip after)
  | '\\' :: rest =>
    let (escape, after) ← readEscape flags rest
    leaf (← escape.expr? flags) after
  | '.' :: rest => leaf (.chars (← anyChar? flags)) rest
  | '^' :: rest => leaf (.look (lineLook flags .textStart .lineStart)) rest
  | '$' :: rest => leaf (.look (lineLook flags .textEnd .lineEnd)) rest
  | c :: rest => leaf (.chars (← literalSet? flags c false)) rest

/-- The expression of a pattern, if the pattern is well formed. -/
def readPattern (ignoreCase : Bool) (text : List Char) : Option Expr := do
  let (draft, _) ← readLoop patternStep (.start ignoreCase) text
  let whole := draft.finishedBranches
  if draft.enclosing.isEmpty && whole.depth ≤ depthLimit then some whole.expr else none

end ServiceLocation.Pattern
