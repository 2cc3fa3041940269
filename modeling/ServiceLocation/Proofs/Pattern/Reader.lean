import ServiceLocation.Pattern.Reader
import ServiceLocation.Proofs.Pattern.Meaning
import ServiceLocation.Proofs.Text.Reading

/-!
**What is read from a pattern is well formed.**

No group that is remembered has the number of the whole match, since the number of groups is counted
up before it is given, and counts that allow less than they ask for are refused.

* `wellFormed_sequence`, `wellFormed_choice`, `wellFormed_repeated`: expressions of which others are made;
* `Draft.WellFormed`: all that is read so far, in the open groups too;
* `wellFormed_patternStep`: a step keeps it;
* `wellFormed_of_readPattern`: **the expression of a pattern is well formed.**
-/

namespace ServiceLocation.Pattern

open Text

/-! ### Expressions of which others are made -/

namespace Expr

variable {exprs : List Expr}

theorem wellFormed_empty : empty.WellFormed := trivial

theorem wellFormed_chars (set : CharSet) : (chars set).WellFormed := trivial

theorem wellFormed_look (condition : Look) : (look condition).WellFormed := trivial

theorem wellFormed_sequence (each : ∀ expr ∈ exprs, expr.WellFormed) :
    (sequence exprs).WellFormed := by
  fun_induction sequence exprs with
  | case1 => trivial
  | case2 only => exact each only List.mem_cons_self
  | case3 first rest _ ih => exact ⟨each first List.mem_cons_self, ih (List.forall_mem_cons.1 each).2⟩

theorem wellFormed_alternatives (each : ∀ expr ∈ exprs, expr.WellFormed) :
    (alternatives exprs).WellFormed := by
  fun_induction alternatives exprs with
  | case1 => trivial
  | case2 only => exact each only List.mem_cons_self
  | case3 first rest _ ih => exact ⟨each first List.mem_cons_self, ih (List.forall_mem_cons.1 each).2⟩

theorem wellFormed_choice (each : ∀ expr ∈ exprs, expr.WellFormed) : (choice exprs).WellFormed := by
  unfold choice
  split
  · trivial
  · exact wellFormed_alternatives each

/-- A repetition that allows what it asks for still does when what reads no character is not tried
more than once. -/
theorem wellFormed_repeated {body : Expr} {least : Nat} {most : Option Nat} (greedy : Bool)
    (enough : ∀ limit ∈ most, least ≤ limit) (wellFormed : body.WellFormed) :
    (body.repeated least most greedy).WellFormed := by
  have enough' : ∀ limit ∈ (if body.onlyEmpty then some (min (most.getD 1) 1) else most),
      (if body.onlyEmpty then min least 1 else least) ≤ limit := by
    intro limit is
    split at is
    · rename_i onlyEmpty
      rw [if_pos onlyEmpty]
      obtain rfl := Option.some.inj is
      cases most with
      | none => exact Nat.min_le_right _ _
      | some most =>
        have := enough most rfl
        simp only [Option.getD_some]
        omega
    · rename_i reads
      rw [if_neg reads]
      exact enough limit is
  unfold repeated
  dsimp only
  generalize (if body.onlyEmpty then some (min (most.getD 1) 1) else most) = most' at enough' ⊢
  generalize (if body.onlyEmpty then min least 1 else least) = least' at enough' ⊢
  by_cases nothing : least' = 0 ∧ most' = some 0
  · rw [if_pos nothing]
    trivial
  · rw [if_neg nothing]
    by_cases once : least' = 1 ∧ most' = some 1
    · rw [if_pos once]
      exact wellFormed
    · rw [if_neg once]
      exact ⟨enough', wellFormed⟩

end Expr

/-! ### Drafts -/

/-- The parts are well formed. -/
def AllWellFormed (pieces : List Piece) : Prop := ∀ piece ∈ pieces, piece.expr.WellFormed

/-- What is read before an open group is well formed, and the group does not have the number of the
whole match. -/
structure OpenGroup.WellFormed (group : OpenGroup) : Prop where
  index : ∀ index, group.index = some index → 0 < index
  pieces : AllWellFormed group.pieces
  branches : AllWellFormed group.branches

/-- All that is read so far is well formed. -/
structure Draft.WellFormed (draft : Draft) : Prop where
  pieces : AllWellFormed draft.pieces
  branches : AllWellFormed draft.branches
  enclosing : ∀ group ∈ draft.enclosing, group.WellFormed

section

variable {pieces : List Piece}

theorem wellFormed_joinPieces (each : AllWellFormed pieces) : (joinPieces pieces).expr.WellFormed := by
  refine Expr.wellFormed_sequence fun expr member => ?_
  obtain ⟨piece, isPiece, rfl⟩ := List.mem_map.1 member
  exact each piece (List.mem_reverse.1 isPiece)

theorem wellFormed_choosePieces (each : AllWellFormed pieces) :
    (choosePieces pieces).expr.WellFormed := by
  refine Expr.wellFormed_choice fun expr member => ?_
  obtain ⟨piece, isPiece, rfl⟩ := List.mem_map.1 member
  exact each piece (List.mem_reverse.1 isPiece)

end

namespace Draft

theorem wellFormed_start (ignoreCase : Bool) : (start ignoreCase).WellFormed :=
  ⟨List.forall_mem_nil _, List.forall_mem_nil _, List.forall_mem_nil _⟩

variable {draft next : Draft}

theorem WellFormed.add (wellFormed : draft.WellFormed) {expr : Expr} (isExpr : expr.WellFormed)
    (depth : Nat) (repeatable : Bool) : (draft.add expr depth repeatable).WellFormed :=
  ⟨List.forall_mem_cons.2 ⟨isExpr, wellFormed.pieces⟩, wellFormed.branches, wellFormed.enclosing⟩

theorem WellFormed.finishedBranches (wellFormed : draft.WellFormed) :
    draft.finishedBranches.expr.WellFormed :=
  wellFormed_choosePieces
    (List.forall_mem_cons.2 ⟨wellFormed_joinPieces wellFormed.pieces, wellFormed.branches⟩)

theorem WellFormed.nextBranch (wellFormed : draft.WellFormed) : draft.nextBranch.WellFormed :=
  ⟨List.forall_mem_nil _,
    List.forall_mem_cons.2 ⟨wellFormed_joinPieces wellFormed.pieces, wellFormed.branches⟩,
    wellFormed.enclosing⟩

theorem WellFormed.openGroup (wellFormed : draft.WellFormed) {index : Option Nat}
    (positive : ∀ number, index = some number → 0 < number) (flags : Flags) :
    (draft.openGroup index flags).WellFormed :=
  ⟨List.forall_mem_nil _, List.forall_mem_nil _,
    List.forall_mem_cons.2
      ⟨⟨positive, wellFormed.pieces, wellFormed.branches⟩, wellFormed.enclosing⟩⟩

theorem WellFormed.openRemembered (wellFormed : draft.WellFormed) :
    draft.openRemembered.WellFormed := by
  have counted : { draft with groups := draft.groups + 1 }.WellFormed :=
    ⟨wellFormed.pieces, wellFormed.branches, wellFormed.enclosing⟩
  refine counted.openGroup (fun number is => ?_) _
  rw [← Option.some.inj is]
  exact Nat.succ_pos _

theorem WellFormed.closeGroup? (wellFormed : draft.WellFormed)
    (closed : draft.closeGroup? = some next) : next.WellFormed := by
  unfold Draft.closeGroup? at closed
  split at closed
  · cases closed
  · rename_i group outer enclosing
    obtain ⟨isGroup, isOuter⟩ := List.forall_mem_cons.1 (enclosing ▸ wellFormed.enclosing)
    rw [← Option.some.inj closed]
    refine WellFormed.add ⟨isGroup.pieces, isGroup.branches, isOuter⟩ ?_ _ _
    cases number : group.index with
    | none => exact wellFormed.finishedBranches
    | some index => exact ⟨isGroup.index index number, wellFormed.finishedBranches⟩

theorem WellFormed.repeatLast? (wellFormed : draft.WellFormed) {least : Nat} {most : Option Nat}
    {greedy : Bool} (enough : ∀ limit ∈ most, least ≤ limit)
    (repeated : draft.repeatLast? least most greedy = some next) : next.WellFormed := by
  unfold Draft.repeatLast? at repeated
  split at repeated
  · rename_i piece before pieces
    have each := wellFormed.pieces
    rw [pieces] at each
    obtain ⟨isPiece, isBefore⟩ := List.forall_mem_cons.1 each
    split at repeated
    · rw [← Option.some.inj repeated]
      have shorter : { draft with pieces := before }.WellFormed :=
        ⟨isBefore, wellFormed.branches, wellFormed.enclosing⟩
      refine shorter.add ?_ _ _
      exact Expr.wellFormed_repeated _ enough isPiece
    · cases repeated
  · cases repeated

end Draft

/-! ### Steps -/

/-- Counts behind which a brace is closed are compared, in whichever way the second one is written. -/
theorem enough_of_closed {text after : List Char} {least least' : Nat} {most most' : Option Nat}
    (read : (match text with
      | '\x7d' :: after => if most'.any (· < least') then none else some ((least', most'), after)
      | _ => none) = some ((least, most), after)) : ∀ limit ∈ most, least ≤ limit := by
  split at read
  · split at read
    · cases read
    · rename_i enough
      cases read
      intro limit is
      rw [Option.mem_def.1 is] at enough
      simpa using enough
  · cases read

theorem enough_of_readCounts {flags : Flags} {text after : List Char} {least : Nat}
    {most : Option Nat} (read : readCounts flags text = some ((least, most), after)) :
    ∀ limit ∈ most, least ≤ limit := by
  unfold readCounts at read
  obtain ⟨⟨least', rest⟩, _, read⟩ := Option.bind_eq_some_iff.1 read
  dsimp only at read
  split at read
  · split at read
    · obtain ⟨_, _, closed⟩ := Option.bind_eq_some_iff.1 read
      exact enough_of_closed closed
    · obtain ⟨_, _, read⟩ := Option.bind_eq_some_iff.1 read
      obtain ⟨_, _, closed⟩ := Option.bind_eq_some_iff.1 read
      exact enough_of_closed closed
  · obtain ⟨_, _, closed⟩ := Option.bind_eq_some_iff.1 read
    exact enough_of_closed closed

variable {draft next : Draft} {text rest : List Char}

theorem wellFormed_openNamed (wellFormed : draft.WellFormed)
    (read : openNamed draft text = some (next, rest)) : next.WellFormed := by
  unfold openNamed at read
  obtain ⟨⟨name, after⟩, _, read⟩ := Option.bind_eq_some_iff.1 read
  dsimp only at read
  split at read
  · cases read
  · cases read
    have named : { draft with names := name :: draft.names }.WellFormed :=
      ⟨wellFormed.pieces, wellFormed.branches, wellFormed.enclosing⟩
    exact named.openRemembered

theorem wellFormed_readGroupStart (wellFormed : draft.WellFormed)
    (read : readGroupStart draft text = some (next, rest)) : next.WellFormed := by
  unfold readGroupStart at read
  split at read
  · cases read
  · cases read
  · cases read
  · cases read
  · exact wellFormed_openNamed wellFormed read
  · exact wellFormed_openNamed wellFormed read
  · obtain ⟨⟨flags, ending, after⟩, _, read⟩ := Option.bind_eq_some_iff.1 read
    dsimp only at read
    split at read
    · cases read
      exact wellFormed.openGroup (fun number is => by cases is) flags
    · cases read
      have changed : { draft with flags }.WellFormed :=
        ⟨wellFormed.pieces, wellFormed.branches, wellFormed.enclosing⟩
      exact changed.add Expr.wellFormed_empty _ _
  · cases read
    exact wellFormed.openRemembered

theorem wellFormed_of_escape {flags : Flags} {escape : Escape} {expr : Expr}
    (is : escape.expr? flags = some expr) : expr.WellFormed := by
  cases escape with
  | literal c isByte =>
    obtain ⟨set, _, rfl⟩ := Option.map_eq_some_iff.1 is
    trivial
  | chars set =>
    cases is
    trivial
  | look condition =>
    cases is
    trivial

/-- What is read by then, whether or not there is more to read. -/
def draftOf : Progress Draft Draft → Draft
  | .more draft => draft
  | .done draft => draft

/-- **A step of the reader keeps what is read well formed.** -/
theorem wellFormed_patternStep {progress : Progress Draft Draft} (wellFormed : draft.WellFormed)
    (read : patternStep draft text = some (progress, rest)) : (draftOf progress).WellFormed := by
  -- What repeats the last part differs in the counts alone.
  have quantify {least : Nat} {most : Option Nat} {greedy : Bool} {after : List Char}
      (enough : ∀ limit ∈ most, least ≤ limit)
      (read : (draft.repeatLast? least most greedy).bind (fun next => some (.more next, after)) =
        some (progress, rest)) : (draftOf progress).WellFormed := by
    obtain ⟨next, repeated, read⟩ := Option.bind_eq_some_iff.1 read
    cases read
    exact wellFormed.repeatLast? enough repeated
  unfold patternStep at read
  dsimp only at read
  split at read
  · cases read
    exact wellFormed
  · obtain ⟨⟨next, after⟩, isNext, read⟩ := Option.bind_eq_some_iff.1 read
    cases read
    exact wellFormed_readGroupStart wellFormed isNext
  · obtain ⟨next, isNext, read⟩ := Option.bind_eq_some_iff.1 read
    cases read
    exact wellFormed.closeGroup? isNext
  · cases read
    exact wellFormed.nextBranch
  · obtain ⟨⟨part, after⟩, _, read⟩ := Option.bind_eq_some_iff.1 read
    cases read
    exact wellFormed.add (Expr.wellFormed_chars part.set) _ _
  · exact quantify (fun limit _ => Nat.zero_le limit) read
  · exact quantify (fun limit is => by cases is) read
  · exact quantify (fun limit is => by cases is) read
  · obtain ⟨⟨⟨least, most⟩, after⟩, counts, read⟩ := Option.bind_eq_some_iff.1 read
    exact quantify (enough_of_readCounts counts) read
  · obtain ⟨⟨escape, after⟩, _, read⟩ := Option.bind_eq_some_iff.1 read
    obtain ⟨expr, isExpr, read⟩ := Option.bind_eq_some_iff.1 read
    cases read
    exact wellFormed.add (wellFormed_of_escape isExpr) _ _
  · obtain ⟨set, _, read⟩ := Option.bind_eq_some_iff.1 read
    cases read
    exact wellFormed.add (Expr.wellFormed_chars set) _ _
  · cases read
    exact wellFormed.add (Expr.wellFormed_look _) _ _
  · cases read
    exact wellFormed.add (Expr.wellFormed_look _) _ _
  · obtain ⟨set, _, read⟩ := Option.bind_eq_some_iff.1 read
    cases read
    exact wellFormed.add (Expr.wellFormed_chars set) _ _

/-- **The expression of a pattern is well formed.** -/
theorem wellFormed_of_readPattern {ignoreCase : Bool} {expr : Expr}
    (read : readPattern ignoreCase text = some expr) : expr.WellFormed := by
  unfold readPattern at read
  obtain ⟨⟨draft, rest⟩, isDraft, read⟩ := Option.bind_eq_some_iff.1 read
  dsimp only at read
  split at read
  · rw [← Option.some.inj read]
    refine Draft.WellFormed.finishedBranches ?_
    exact readLoop_induct Draft.WellFormed Draft.WellFormed
      (fun wellFormed step => wellFormed_patternStep wellFormed step)
      (fun wellFormed step => wellFormed_patternStep wellFormed step)
      (Draft.wellFormed_start ignoreCase) isDraft
  · cases read

end ServiceLocation.Pattern
