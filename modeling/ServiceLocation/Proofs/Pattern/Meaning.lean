import Mathlib.Tactic.Common
import ServiceLocation.Pattern.Program

/-!
**What expressions match, and what programs accept.**

A text is matched where it stands between two others, since conditions look at both.

* `Meaning`: which texts are taken where; `Meaning.seq`, `Meaning.power`: one after the other, and
  several times;
* `Expr.Matches`: **what an expression matches**; `Expr.groups`: the numbers of its groups;
* `Expr.WellFormed`: no group has the number of the whole match, and no repetition allows less than it
  asks for;
* `Accepts`: **what a program accepts**, from a step on, and in how many steps.
-/

namespace ServiceLocation.Pattern

/-! ### Meanings -/

/-- Which texts are taken, where they stand behind one text and in front of another. -/
abbrev Meaning := (before inside after : List Char) → Prop

namespace Meaning

/-- The empty text is taken anywhere. -/
def nothing : Meaning := fun _ inside _ => inside = []

/-- A text that `first` takes and one that `second` takes behind it. -/
def seq (first second : Meaning) : Meaning := fun before inside after =>
  ∃ front back, inside = front ++ back ∧ first before front (back ++ after) ∧
    second (before ++ front) back after

/-- Texts that are all taken, one after the other. -/
def power (part : Meaning) : Nat → Meaning
  | 0 => nothing
  | count + 1 => seq part (power part count)

section

variable (first second third part : Meaning)

theorem seq_assoc : seq (seq first second) third = seq first (seq second third) := by
  funext before inside after
  refine propext ⟨?_, ?_⟩
  · rintro ⟨_, back, rfl, ⟨front, middle, rfl, isFirst, isSecond⟩, isThird⟩
    refine ⟨front, middle ++ back, by rw [List.append_assoc], ?_, middle, back, rfl, isSecond, ?_⟩
    · rwa [List.append_assoc]
    · rwa [List.append_assoc]
  · rintro ⟨front, _, rfl, isFirst, middle, back, rfl, isSecond, isThird⟩
    refine ⟨front ++ middle, back, by rw [List.append_assoc], ⟨front, middle, rfl, ?_, isSecond⟩, ?_⟩
    · rwa [← List.append_assoc]
    · rwa [← List.append_assoc]

theorem nothing_seq : seq nothing part = part := by
  funext before inside after
  refine propext ⟨?_, fun taken => ⟨[], inside, rfl, rfl, by rwa [List.append_nil]⟩⟩
  rintro ⟨_, back, rfl, rfl, taken⟩
  rwa [List.append_nil] at taken

theorem seq_nothing : seq part nothing = part := by
  funext before inside after
  refine propext ⟨?_, fun taken => ⟨inside, [], by rw [List.append_nil], taken, rfl⟩⟩
  rintro ⟨front, _, rfl, taken, rfl⟩
  rwa [List.append_nil]

theorem power_one : power part 1 = part := seq_nothing part

/-- The last of several is one of them, as the first one is. -/
theorem power_concat (count : Nat) : power part (count + 1) = seq (power part count) part := by
  induction count with
  | zero => rw [power_one, power, nothing_seq]
  | succ count ih =>
    show seq part (power part (count + 1)) = seq (seq part (power part count)) part
    rw [ih, seq_assoc]

theorem power_add (least more : Nat) :
    power part (least + more) = seq (power part least) (power part more) := by
  induction least with
  | zero => rw [Nat.zero_add, power, nothing_seq]
  | succ least ih => rw [Nat.succ_add, power, ih, power, seq_assoc]

end

end Meaning

/-! ### Expressions -/

namespace Expr

/-- What an expression matches. -/
def Matches : Expr → Meaning
  | empty => Meaning.nothing
  | chars set => fun _ inside _ => ∃ c, set.contains c = true ∧ inside = [c]
  | look condition => fun before inside after =>
    condition.holds before.getLast? after.head? = true ∧ inside = []
  | group _ body => body.Matches
  | seq first second => Meaning.seq first.Matches second.Matches
  | alt first second => fun before inside after =>
    first.Matches before inside after ∨ second.Matches before inside after
  | times body least most _ => fun before inside after =>
    ∃ count, least ≤ count ∧ (∀ limit ∈ most, count ≤ limit) ∧
      body.Matches.power count before inside after

/-- The numbers of the groups of an expression. -/
def groups : Expr → List Nat
  | empty => []
  | chars _ => []
  | look _ => []
  | group index body => index :: body.groups
  | seq first second => first.groups ++ second.groups
  | alt first second => first.groups ++ second.groups
  | times body _ _ _ => body.groups

/-- No group has the number of the whole match, and no repetition allows less than it asks for. -/
def WellFormed : Expr → Prop
  | empty => True
  | chars _ => True
  | look _ => True
  | group index body => 0 < index ∧ body.WellFormed
  | seq first second => first.WellFormed ∧ second.WellFormed
  | alt first second => first.WellFormed ∧ second.WellFormed
  | times body least most _ => (∀ limit ∈ most, least ≤ limit) ∧ body.WellFormed

theorem WellFormed.pos_of_mem_groups {expr : Expr} (wellFormed : expr.WellFormed) :
    ∀ index ∈ expr.groups, 0 < index := by
  induction expr with
  | empty | chars | look => exact List.forall_mem_nil _
  | group index body ih => exact List.forall_mem_cons.2 ⟨wellFormed.1, ih wellFormed.2⟩
  | seq first second ih ih' | alt first second ih ih' =>
    exact List.forall_mem_append.2 ⟨ih wellFormed.1, ih' wellFormed.2⟩
  | times body least most greedy ih => exact ih wellFormed.2

end Expr

/-! ### Programs -/

/-- The steps of a program accept a text from one of them on: some way through them reads the text and
ends a match, after as many steps as told. -/
inductive Accepts (steps : Array Step) : (length step : Nat) → Meaning where
  | accept {step : Nat} {before after : List Char} (is : steps[step]? = some .accept) :
    Accepts steps 0 step before [] after
  | read {length step next : Nat} {set : Text.CharSet} {c : Char} {before rest after : List Char}
    (is : steps[step]? = some (.read set next)) (inSet : set.contains c = true)
    (later : Accepts steps length next (before ++ [c]) rest after) :
    Accepts steps (length + 1) step before (c :: rest) after
  | first {length step first second : Nat} {before inside after : List Char}
    (is : steps[step]? = some (.fork first second))
    (later : Accepts steps length first before inside after) :
    Accepts steps (length + 1) step before inside after
  | second {length step first second : Nat} {before inside after : List Char}
    (is : steps[step]? = some (.fork first second))
    (later : Accepts steps length second before inside after) :
    Accepts steps (length + 1) step before inside after
  | save {length step slot next : Nat} {before inside after : List Char}
    (is : steps[step]? = some (.save slot next))
    (later : Accepts steps length next before inside after) :
    Accepts steps (length + 1) step before inside after
  | check {length step next : Nat} {look : Look} {before inside after : List Char}
    (is : steps[step]? = some (.check look next))
    (holds : look.holds before.getLast? (inside ++ after).head? = true)
    (later : Accepts steps length next before inside after) :
    Accepts steps (length + 1) step before inside after

section

variable {steps : Array Step} {length step : Nat} {before inside after : List Char}

theorem Accepts.exists_step (accepts : Accepts steps length step before inside after) :
    ∃ is, steps[step]? = some is := by
  cases accepts <;> exact ⟨_, by assumption⟩

/-- What a step that reads a character accepts. -/
theorem Accepts.of_read {set : Text.CharSet} {next : Nat}
    (accepts : Accepts steps length step before inside after)
    (is : steps[step]? = some (.read set next)) : ∃ c rest less, inside = c :: rest ∧ less < length ∧
      set.contains c = true ∧ Accepts steps less next (before ++ [c]) rest after := by
  cases accepts with
  | read is' inSet later =>
    cases is.symm.trans is'
    exact ⟨_, _, _, rfl, Nat.lt_succ_self _, inSet, later⟩
  | accept is' | first is' | second is' | save is' | check is' => cases is.symm.trans is'

/-- What a step that goes on in two ways accepts. -/
theorem Accepts.of_fork {first second : Nat}
    (accepts : Accepts steps length step before inside after)
    (is : steps[step]? = some (.fork first second)) : ∃ less, less < length ∧
      (Accepts steps less first before inside after ∨
        Accepts steps less second before inside after) := by
  cases accepts with
  | first is' later =>
    cases is.symm.trans is'
    exact ⟨_, Nat.lt_succ_self _, .inl later⟩
  | second is' later =>
    cases is.symm.trans is'
    exact ⟨_, Nat.lt_succ_self _, .inr later⟩
  | accept is' | read is' | save is' | check is' => cases is.symm.trans is'

/-- What a step that remembers a place accepts. -/
theorem Accepts.of_save {slot next : Nat} (accepts : Accepts steps length step before inside after)
    (is : steps[step]? = some (.save slot next)) :
    ∃ less, less < length ∧ Accepts steps less next before inside after := by
  cases accepts with
  | save is' later =>
    cases is.symm.trans is'
    exact ⟨_, Nat.lt_succ_self _, later⟩
  | accept is' | read is' | first is' | second is' | check is' => cases is.symm.trans is'

/-- What a step that goes on where a condition holds accepts. -/
theorem Accepts.of_check {look : Look} {next : Nat}
    (accepts : Accepts steps length step before inside after)
    (is : steps[step]? = some (.check look next)) :
    look.holds before.getLast? (inside ++ after).head? = true ∧
      ∃ less, less < length ∧ Accepts steps less next before inside after := by
  cases accepts with
  | check is' holds later =>
    cases is.symm.trans is'
    exact ⟨holds, _, Nat.lt_succ_self _, later⟩
  | accept is' | read is' | first is' | second is' | save is' => cases is.symm.trans is'

end

end ServiceLocation.Pattern
