import ServiceLocation.Pattern.Basic
import ServiceLocation.Proofs.Pattern.Reader
import ServiceLocation.Proofs.Pattern.Search

/-!
**The first match of a pattern in a text.**

* `Pattern.MatchesAt`: a pattern matches a part of a text;
* `find?_eq_none_iff`: **nothing is found exactly in texts of which the pattern matches no part**;
* `Match.IsFirst`: a match that starts first, and groups to go with it;
* `isFirst_of_find?`: **what is found is one.**
-/

namespace ServiceLocation.Pattern

/-- A pattern matches a part of a text: what stands between two other parts. -/
def MatchesAt (pattern : Pattern) (text before inside after : List Char) : Prop :=
  text = before ++ inside ++ after ∧ pattern.expr.Matches before inside after

/-- A match of a pattern in a text, of which none starts earlier. Group `0` is all that is matched, and
groups that the pattern does not have match nothing. -/
structure Match.IsFirst (found : Match) (pattern : Pattern) (text inside : List Char) : Prop where
  isMatch : pattern.MatchesAt text found.before inside found.after
  first : ∀ before inside after, pattern.MatchesAt text before inside after →
    found.before.length ≤ before.length
  whole : found.group? 0 = some inside
  absent : ∀ index, index ≠ 0 → index ∉ pattern.expr.groups → found.group? index = none

section

variable {program : Program} {limit : Nat} {text : List Char} {slots : Slots}

/-- The places of a match are where it starts and where it ends. -/
theorem places_of_found (isFound : Found program limit text slots) : ∃ before inside after,
    text = before ++ inside ++ after ∧ before.length ≤ limit ∧
      AcceptsFrom program.steps program.start before inside after ∧
      slots.lookup 0 = some before.length ∧ slots.lookup 1 = some (before ++ inside).length := by
  obtain ⟨before, inside, after, whole, within, accepts, later, rfl, others⟩ := isFound
  refine ⟨before, inside, after, whole, within, accepts, ?_, List.lookup_cons_self⟩
  have noStart : ((1, (before ++ inside).length) :: later).lookup 0 = none := by
    rw [List.lookup_eq_none_iff]
    refine List.forall_mem_cons.2 ⟨rfl, fun entry member => ?_⟩
    exact bne_iff_ne.2 (Ne.symm (others entry member).1)
  rw [List.lookup_append, noStart]
  rfl

/-- Slots in which the program remembers no place are not filled by a match. -/
theorem lookup_of_found (isFound : Found program limit text slots) {slot : Nat} (behind : 1 < slot)
    (never : ¬ program.Saves slot) : slots.lookup slot = none := by
  obtain ⟨before, inside, after, _, _, _, later, rfl, others⟩ := isFound
  rw [List.lookup_eq_none_iff, List.forall_mem_append, List.forall_mem_cons,
    List.forall_mem_singleton]
  refine ⟨⟨bne_iff_ne.2 (Nat.ne_of_gt behind), fun entry member => ?_⟩,
    bne_iff_ne.2 (Nat.ne_of_gt (Nat.lt_trans Nat.one_pos behind))⟩
  refine bne_iff_ne.2 fun same => never ?_
  rw [same]
  exact (others entry member).2

end

variable {ignoreCase : Bool} {written text : List Char} {pattern : Pattern}

theorem program_of_ofText? (compiled : ofText? ignoreCase written = some pattern) :
    pattern.expr.WellFormed ∧ pattern.program = .ofExpr pattern.expr := by
  obtain ⟨expr, read, compiled⟩ := Option.bind_eq_some_iff.1 compiled
  split at compiled
  · cases compiled
    exact ⟨wellFormed_of_readPattern read, rfl⟩
  · cases compiled

/-- For every match, one is found that starts no later. -/
theorem exists_find? (compiled : ofText? ignoreCase written = some pattern)
    {before inside after : List Char} (isMatch : pattern.MatchesAt text before inside after) :
    ∃ slots, pattern.find? text = some { text, slots } ∧
      Found pattern.program before.length text slots := by
  obtain ⟨wellFormed, program⟩ := program_of_ofText? compiled
  obtain ⟨rfl, matches_⟩ := isMatch
  have framed := Program.framed_ofExpr wellFormed
  obtain ⟨slots, is, isFound⟩ := search_complete framed ((accepts_ofExpr_iff wellFormed).2 matches_)
  refine ⟨slots, ?_, program ▸ isFound⟩
  rw [find?, program, is]
  rfl

/-- **What is found is a match that starts first.** -/
theorem isFirst_of_find? (compiled : ofText? ignoreCase written = some pattern) {found : Match}
    (is : pattern.find? text = some found) : ∃ inside, found.IsFirst pattern text inside := by
  obtain ⟨wellFormed, program⟩ := program_of_ofText? compiled
  obtain ⟨slots, found_, rfl⟩ := Option.map_eq_some_iff.1 is
  rw [program] at found_
  have framed := Program.framed_ofExpr wellFormed
  have isFound := search_sound framed found_
  obtain ⟨before, inside, after, whole, _, accepts, start, stop⟩ := places_of_found isFound
  have isBefore : (Match.mk text slots).before = before := by
    rw [Match.before, Match.start, Match.place?, start, whole, List.append_assoc]
    exact List.take_left
  have isAfter : (Match.mk text slots).after = after := by
    rw [Match.after, Match.stop, Match.place?, stop, whole]
    exact List.drop_left
  refine ⟨inside, ⟨?_, ?_⟩, fun before' inside' after' isMatch => ?_, ?_,
    fun index positive absent => ?_⟩
  · rw [isBefore, isAfter]
    exact whole
  · rw [isBefore, isAfter]
    exact (accepts_ofExpr_iff wellFormed).1 accepts
  · obtain ⟨slots', is', isFound'⟩ := exists_find? compiled isMatch
    obtain ⟨_, rfl⟩ := Match.mk.inj (Option.some.inj (is.symm.trans is'))
    obtain ⟨first, _, _, _, within, _, start', _⟩ := places_of_found isFound'
    rw [isBefore, Option.some.inj (start.symm.trans start')]
    exact within
  · have isGroup : (Match.mk text slots).group? 0 =
        some ((text.take (before ++ inside).length).drop before.length) := by
      simp [Match.group?, Match.place?, start, stop]
    rw [isGroup, whole, List.take_left, List.drop_left]
  · have noStart : slots.lookup (2 * index) = none := by
      refine lookup_of_found isFound (by omega) fun saves => ?_
      rcases framed.slot_cases saves with zero | one | ⟨_, member⟩
      · omega
      · omega
      · rw [Nat.mul_div_cancel_left index Nat.two_pos] at member
        exact absent member
    simp [Match.group?, Match.place?, noStart]

/-- **Nothing is found exactly in texts of which the pattern matches no part.** -/
theorem find?_eq_none_iff (compiled : ofText? ignoreCase written = some pattern) :
    pattern.find? text = none ↔
      ¬ ∃ before inside after, pattern.MatchesAt text before inside after := by
  constructor
  · rintro nothing ⟨before, inside, after, isMatch⟩
    obtain ⟨slots, is, _⟩ := exists_find? compiled isMatch
    cases nothing.symm.trans is
  · intro noMatch
    rw [Option.eq_none_iff_forall_ne_some]
    intro found is
    obtain ⟨inside, isFirst⟩ := isFirst_of_find? compiled is
    exact noMatch ⟨_, _, _, isFirst.isMatch⟩

end ServiceLocation.Pattern
