import ServiceLocation.Pattern.Search
import ServiceLocation.Proofs.Pattern.Layout

/-!
**Following ways through a program at one place.**

All ways are followed at once, and a step is taken up once at each place. A way that is given up for
that reason loses nothing: what it could come to accept is accepted by a way that goes on from the
step that was taken up.

* `Thread.Arrives`: a way has come to a place from a start of a match, and remembers that start;
* `Found`: places that are those of a match;
* `follow_arrives`: **following ways keeps that, and what is accepted is a match**;
* `Answered`, `Live`: some way that is left accepts, and so it is with what marked steps accept;
* `Live.drop`, `Live.take`: a way to a marked step can be given up, and one to another step taken up;
* `follow_live`: so **following ways loses none that accepts**;
* `follow_append`: ways that are less preferred change nothing for the others.
-/

namespace ServiceLocation.Pattern

/-- The place behind one text and in front of another. -/
def placeBetween (front rest : List Char) : Place :=
  { position := front.length, before := front.getLast?, after := rest.head? }

/-! ### Ways -/

/-- Some step of a program remembers a place in the slot. -/
def Program.Saves (program : Program) (slot : Nat) : Prop :=
  ∃ step next : Nat, program.steps[step]? = some (.save slot next)

/-- A way has not yet left the start of a program, or it has, and remembers where. The latest of what
it remembers at the end is where the match ends. -/
def Thread.Remembers (program : Program) (before inside : List Char) (thread : Thread) : Prop :=
  (thread.step = program.start ∧ thread.slots = [] ∧ inside = []) ∨
    (thread.step ≠ program.start ∧ ∃ later, thread.slots = later ++ [(0, before.length)] ∧
      (∀ entry ∈ later, entry.1 ≠ 0 ∧ program.Saves entry.1) ∧
      (thread.step = 0 → later.head? = some (1, (before ++ inside).length)))

/-- A way has come to a place from a start within `limit`: with what it comes to accept, there is a
match from there. -/
def Thread.Arrives (program : Program) (limit : Nat) (front rest : List Char) (thread : Thread) :
    Prop :=
  ∃ before inside, front = before ++ inside ∧ before.length ≤ limit ∧
    thread.Remembers program before inside ∧
    ∀ more after, rest = more ++ after →
      AcceptsFrom program.steps thread.step front more after →
        AcceptsFrom program.steps program.start before (inside ++ more) after

/-- The places are those of a match that starts within `limit`. -/
def Found (program : Program) (limit : Nat) (text : List Char) (slots : Slots) : Prop :=
  ∃ before inside after, text = before ++ inside ++ after ∧ before.length ≤ limit ∧
    AcceptsFrom program.steps program.start before inside after ∧
    ∃ later, slots = (1, (before ++ inside).length) :: later ++ [(0, before.length)] ∧
      ∀ entry ∈ later, entry.1 ≠ 0 ∧ program.Saves entry.1

/-- The step of a program, by its position. -/
theorem Program.Framed.step_cases {slots : Nat → Prop} {program : Program}
    (framed : program.Framed slots) {i : Nat} {step : Step} (is : program.steps[i]? = some step) :
    (i = 0 ∧ step = .accept) ∨ (i = 1 ∧ step = .save 1 0) ∨
      (i = program.start ∧ ∃ next, (0 < next ∧ next < program.start) ∧ step = .save 0 next) ∨
      (i ≠ program.start ∧ step.IsInner slots program.start) := by
  have within : i < program.start + 1 := by
    rw [← framed.size]
    exact (Array.getElem?_eq_some_iff.1 is).1
  obtain ⟨next, inside, isStart⟩ := framed.start
  by_cases start : i = program.start
  · refine .inr (.inr (.inl ⟨start, next, inside, ?_⟩))
    rw [start, isStart] at is
    exact (Option.some.inj is).symm
  · match i, is, within, start with
    | 0, is, _, _ => exact .inl ⟨rfl, Option.some.inj (is.symm.trans framed.accept)⟩
    | 1, is, _, _ => exact .inr (.inl ⟨rfl, Option.some.inj (is.symm.trans framed.stop)⟩)
    | i + 2, is, within, start =>
      obtain ⟨step', is', inner⟩ := framed.inner (i + 2) (by omega) (by omega)
      obtain rfl := Option.some.inj (is.symm.trans is')
      exact .inr (.inr (.inr ⟨start, inner⟩))

/-- A program remembers places in the slots of the whole match and of its groups. -/
theorem Program.Framed.slot_cases {slots : Nat → Prop} {program : Program}
    (framed : program.Framed slots) {slot : Nat} (saves : program.Saves slot) :
    slot = 0 ∨ slot = 1 ∨ slots slot := by
  obtain ⟨i, next, is⟩ := saves
  rcases framed.step_cases is with ⟨_, impossible⟩ | ⟨_, stop⟩ | ⟨_, _, _, start⟩ | ⟨_, inner⟩
  · cases impossible
  · exact .inr (.inl (Step.save.inj stop).1)
  · exact .inl (Step.save.inj start).1
  · exact .inr (.inr inner.1)

/-- Steps that neither remember a place nor end a match are those of the part of the expression. -/
theorem Program.Framed.isInner {slots : Nat → Prop} {program : Program}
    (framed : program.Framed slots) {i : Nat} {step : Step} (is : program.steps[i]? = some step)
    (noAccept : step ≠ .accept) (noSave : ∀ slot next, step ≠ .save slot next) :
    i ≠ program.start ∧ step.IsInner slots program.start := by
  rcases framed.step_cases is with ⟨_, end_⟩ | ⟨_, stop⟩ | ⟨_, _, _, start⟩ | inner
  · exact absurd end_ noAccept
  · exact absurd stop (noSave _ _)
  · exact absurd start (noSave _ _)
  · exact inner

section

variable {slots : Nat → Prop} {program : Program} {limit : Nat} {front rest : List Char}
  {thread : Thread}

/-- A way that goes on inside the part of the expression remembers what it did. -/
theorem Thread.Remembers.goOn {before inside : List Char} {next : Nat}
    (remembers : thread.Remembers program before inside) (inner : thread.step ≠ program.start)
    (target : 0 < next ∧ next < program.start) (more : List Char) :
    Thread.Remembers program before (inside ++ more) { thread with step := next } := by
  rcases remembers with ⟨start, _⟩ | ⟨_, later, slots, others, _⟩
  · exact absurd start inner
  · exact .inr ⟨Nat.ne_of_lt target.2, later, slots, others,
      fun zero => absurd zero (Nat.ne_of_gt target.1)⟩

theorem Thread.arrives_start (within : front.length ≤ limit) :
    Thread.Arrives program limit front rest ⟨program.start, []⟩ :=
  ⟨front, [], by rw [List.append_nil], within, .inl ⟨rfl, rfl, rfl⟩, fun _ _ _ accepts => accepts⟩

variable (framed : program.Framed slots)
include framed

theorem Thread.Arrives.of_fork {first second : Nat}
    (arrives : thread.Arrives program limit front rest)
    (is : program.steps[thread.step]? = some (.fork first second)) :
    Thread.Arrives program limit front rest { thread with step := first } ∧
      Thread.Arrives program limit front rest { thread with step := second } := by
  obtain ⟨inner, isFirst, isSecond⟩ := framed.isInner is (by simp) (by simp)
  obtain ⟨before, inside, whole, within, remembers, way⟩ := arrives
  refine ⟨⟨before, inside, whole, within, ?_, fun more after cut accepts => ?_⟩,
    before, inside, whole, within, ?_, fun more after cut accepts => ?_⟩
  · simpa using remembers.goOn inner isFirst []
  · obtain ⟨length, accepts⟩ := accepts
    exact way more after cut ⟨length + 1, .first is accepts⟩
  · simpa using remembers.goOn inner isSecond []
  · obtain ⟨length, accepts⟩ := accepts
    exact way more after cut ⟨length + 1, .second is accepts⟩

theorem Thread.Arrives.of_check {look : Look} {next : Nat}
    (arrives : thread.Arrives program limit front rest)
    (is : program.steps[thread.step]? = some (.check look next))
    (holds : look.holds front.getLast? rest.head? = true) :
    Thread.Arrives program limit front rest { thread with step := next } := by
  obtain ⟨inner, target⟩ := framed.isInner is (by simp) (by simp)
  obtain ⟨before, inside, whole, within, remembers, way⟩ := arrives
  refine ⟨before, inside, whole, within, ?_, fun more after cut accepts => ?_⟩
  · simpa using remembers.goOn inner target []
  · obtain ⟨length, accepts⟩ := accepts
    exact way more after cut ⟨length + 1, .check is (cut ▸ holds) accepts⟩

theorem Thread.Arrives.of_read {set : Text.CharSet} {next : Nat} {c : Char}
    (arrives : thread.Arrives program limit front (c :: rest))
    (is : program.steps[thread.step]? = some (.read set next)) (inSet : set.contains c = true) :
    Thread.Arrives program limit (front ++ [c]) rest { thread with step := next } := by
  obtain ⟨inner, target⟩ := framed.isInner is (by simp) (by simp)
  obtain ⟨before, inside, whole, within, remembers, way⟩ := arrives
  refine ⟨before, inside ++ [c], by rw [whole, List.append_assoc], within,
    remembers.goOn inner target [c], fun more after cut accepts => ?_⟩
  obtain ⟨length, accepts⟩ := accepts
  rw [List.append_assoc]
  exact way (c :: more) after (by rw [cut, List.cons_append]) ⟨length + 1, .read is inSet accepts⟩

theorem Thread.Arrives.of_save {slot next : Nat}
    (arrives : thread.Arrives program limit front rest)
    (is : program.steps[thread.step]? = some (.save slot next)) :
    Thread.Arrives program limit front rest ⟨next, (slot, front.length) :: thread.slots⟩ := by
  obtain ⟨before, inside, whole, within, remembers, way⟩ := arrives
  refine ⟨before, inside, whole, within, ?_, fun more after cut accepts => ?_⟩
  · obtain ⟨target, ⟨positive, below⟩, isStart⟩ := framed.start
    -- Slot `0` is written at the start alone and slot `1` in front of the end alone, so neither is
    -- written over by a group.
    rcases framed.step_cases is with ⟨_, impossible⟩ | ⟨one, same⟩ |
      ⟨start, target', ⟨positive', below'⟩, same⟩ | ⟨other, other', positive', below'⟩
    · cases impossible
    · obtain ⟨rfl, rfl⟩ := Step.save.inj same
      rcases remembers with ⟨start, _⟩ | ⟨_, later, slots, others, _⟩
      · rw [start] at one
        rw [one, framed.stop] at isStart
        cases isStart
      · refine .inr ⟨Nat.ne_of_lt (Nat.lt_trans positive below),
          (1, front.length) :: later, by rw [slots, List.cons_append], ?_, fun _ => by rw [whole]; rfl⟩
        exact List.forall_mem_cons.2 ⟨⟨Nat.one_ne_zero, _, _, is⟩, others⟩
    · obtain ⟨rfl, rfl⟩ := Step.save.inj same
      rcases remembers with ⟨_, slots, rfl⟩ | ⟨away, _⟩
      · refine .inr ⟨Nat.ne_of_lt below', [], ?_, List.forall_mem_nil _,
          fun zero => absurd zero (Nat.ne_of_gt positive')⟩
        rw [slots, whole, List.append_nil, List.nil_append]
      · exact absurd start away
    · rcases remembers with ⟨start, _⟩ | ⟨_, later, slots, others, _⟩
      · exact absurd start other
      · refine .inr ⟨Nat.ne_of_lt below', (slot, front.length) :: later,
          by rw [slots, List.cons_append], ?_, fun zero => absurd zero (Nat.ne_of_gt positive')⟩
        have behind := framed.ofGroups slot other'
        exact List.forall_mem_cons.2 ⟨⟨by omega, _, _, is⟩, others⟩
  · obtain ⟨length, accepts⟩ := accepts
    exact way more after cut ⟨length + 1, .save is accepts⟩

/-- A way that ends a match has found one. -/
theorem Thread.Arrives.found (arrives : thread.Arrives program limit front rest)
    (is : program.steps[thread.step]? = some .accept) :
    Found program limit (front ++ rest) thread.slots := by
  obtain ⟨before, inside, rfl, within, remembers, way⟩ := arrives
  have accepts := way [] rest rfl ⟨0, .accept is⟩
  rw [List.append_nil] at accepts
  refine ⟨before, inside, rest, rfl, within, accepts, ?_⟩
  obtain ⟨target, _, isStart⟩ := framed.start
  rcases framed.step_cases is with ⟨zero, _⟩ | ⟨_, impossible⟩ | ⟨_, _, _, impossible⟩ | ⟨_, inner⟩
  · rcases remembers with ⟨start, _⟩ | ⟨_, later, slots, others, last⟩
    · rw [← start, is] at isStart
      cases isStart
    · obtain ⟨later, rfl⟩ := List.head?_eq_some_iff.1 (last zero)
      exact ⟨later, slots, fun entry member => others entry (List.mem_cons_of_mem _ member)⟩
  · cases impossible
  · cases impossible
  · cases inner

/-- **Ways that arrive are followed to ways that arrive**, and what they accept is a match. -/
theorem follow_arrives (marks : Array Bool) {waiting work : List Thread}
    (arrive : ∀ thread ∈ work, thread.Arrives program limit front rest)
    (arrive' : ∀ thread ∈ waiting, thread.Arrives program limit front rest) :
    let followed := follow program (placeBetween front rest) marks waiting work
    (∀ thread ∈ followed.1, thread.Arrives program limit front rest) ∧
      ∀ slots, followed.2 = some slots → Found program limit (front ++ rest) slots := by
  fun_induction follow program (placeBetween front rest) marks waiting work with
  | case1 => exact ⟨arrive', fun slots is => by cases is⟩
  | case2 _ _ _ _ _ _ ih | case3 _ _ _ _ _ _ _ _ _ ih | case9 _ _ _ _ _ _ _ _ _ _ _ _ ih
  | case10 _ _ _ _ _ ih =>
    exact ih (List.forall_mem_cons.1 arrive).2 arrive'
  | case4 marks waiting thread work _ _ _ is =>
    refine ⟨arrive', fun slots found => ?_⟩
    obtain rfl := Option.some.inj found
    exact (List.forall_mem_cons.1 arrive).1.found framed is
  | case5 marks waiting thread work _ _ _ _ _ _ is ih =>
    obtain ⟨this, others⟩ := List.forall_mem_cons.1 arrive
    exact ih others (List.forall_mem_cons.2 ⟨this, arrive'⟩)
  | case6 marks waiting thread work _ _ _ _ _ _ is ih =>
    obtain ⟨this, others⟩ := List.forall_mem_cons.1 arrive
    obtain ⟨first, second⟩ := this.of_fork framed is
    exact ih (List.forall_mem_cons.2 ⟨first, List.forall_mem_cons.2 ⟨second, others⟩⟩) arrive'
  | case7 marks waiting thread work _ _ _ _ _ _ is ih =>
    obtain ⟨this, others⟩ := List.forall_mem_cons.1 arrive
    exact ih (List.forall_mem_cons.2 ⟨this.of_save framed is, others⟩) arrive'
  | case8 marks waiting thread work _ _ _ _ _ _ is holds ih =>
    obtain ⟨this, others⟩ := List.forall_mem_cons.1 arrive
    exact ih (List.forall_mem_cons.2 ⟨this.of_check framed is holds, others⟩) arrive'

end

/-! ### No way that accepts is lost -/

/-- A step accepts a text in front of `rest`, in so many steps. -/
def AcceptsAhead (program : Program) (front rest : List Char) (length step : Nat) : Prop :=
  ∃ more after, rest = more ++ after ∧ Accepts program.steps length step front more after

/-- A way that waits accepts in at most so many steps, or one that is still to be followed in fewer. -/
def Answered (program : Program) (front rest : List Char) (waiting work : List Thread)
    (length : Nat) : Prop :=
  (∃ thread ∈ waiting, ∃ less ≤ length, AcceptsAhead program front rest less thread.step) ∨
    ∃ thread ∈ work, ∃ less < length, AcceptsAhead program front rest less thread.step

/-- Some way that is left accepts, and what marked steps accept is answered by the ways that are left. -/
structure Live (program : Program) (front rest : List Char) (marks : Array Bool)
    (waiting work : List Thread) : Prop where
  size : marks.size = program.steps.size
  kept : ∀ length step, marks[step]? = some true → AcceptsAhead program front rest length step →
    Answered program front rest waiting work length
  answered : ∃ length, Answered program front rest waiting work length

section

variable {program : Program} {front rest : List Char} {marks : Array Bool}
  {waiting waiting' work next : List Thread} {thread : Thread} {length : Nat}

theorem Answered.mono {larger : Nat} (le : length ≤ larger)
    (answered : Answered program front rest waiting work length) :
    Answered program front rest waiting work larger := by
  rcases answered with ⟨thread, member, less, within, accepts⟩ | ⟨thread, member, less, within, accepts⟩
  · exact .inl ⟨thread, member, less, Nat.le_trans within le, accepts⟩
  · exact .inr ⟨thread, member, less, Nat.lt_of_lt_of_le within le, accepts⟩

/-- What takes the place of a way answers what its step accepts. -/
theorem Answered.replace (next : List Thread) (waits : waiting ⊆ waiting')
    (onward : ∀ length, AcceptsAhead program front rest length thread.step →
      Answered program front rest waiting' (next ++ work) length)
    (answered : Answered program front rest waiting (thread :: work) length) :
    Answered program front rest waiting' (next ++ work) length := by
  rcases answered with ⟨other, member, accepts⟩ | ⟨other, member, less, fewer, accepts⟩
  · exact .inl ⟨other, waits member, accepts⟩
  · rcases List.mem_cons.1 member with rfl | member
    · exact (onward less accepts).mono (Nat.le_of_lt fewer)
    · exact .inr ⟨other, List.mem_append_right _ member, less, fewer, accepts⟩

/-- Other ways are left that answer all that those before did. -/
theorem Live.map {work' : List Thread} (live : Live program front rest marks waiting work)
    (keeps : ∀ length, Answered program front rest waiting work length →
      Answered program front rest waiting work' length) :
    Live program front rest marks waiting work' := by
  obtain ⟨length, answered⟩ := live.answered
  exact ⟨live.size, fun length step marked accepts =>
    keeps length (live.kept length step marked accepts), length, keeps length answered⟩

/-- A way to a marked step is not needed: if it accepts, another does in fewer steps, and that one may
again be to a marked step, but not forever. -/
theorem Live.drop (live : Live program front rest marks waiting (thread :: work))
    (bound : thread.step < marks.size) (marked : marks[thread.step] = true) :
    Live program front rest marks waiting work := by
  have mark : marks[thread.step]? = some true := by rw [Array.getElem?_eq_getElem bound, marked]
  have drop (length : Nat) (answered : Answered program front rest waiting (thread :: work) length) :
      Answered program front rest waiting work length := by
    induction length using Nat.strongRecOn with
    | ind length ih =>
      rcases answered with waits | ⟨other, member, less, fewer, accepts⟩
      · exact .inl waits
      · rcases List.mem_cons.1 member with rfl | member
        · exact (ih less fewer (live.kept less _ mark accepts)).mono (Nat.le_of_lt fewer)
        · exact .inr ⟨other, member, less, fewer, accepts⟩
  exact live.map drop

/-- A way is taken up, and others take its place. -/
theorem Live.take (next : List Thread) (live : Live program front rest marks waiting (thread :: work))
    (bound : thread.step < marks.size) (waits : waiting ⊆ waiting')
    (onward : ∀ length, AcceptsAhead program front rest length thread.step →
      Answered program front rest waiting' (next ++ work) length) :
    Live program front rest (marks.set thread.step true) waiting' (next ++ work) := by
  obtain ⟨length, answered⟩ := live.answered
  refine ⟨by rw [Array.size_set]; exact live.size, fun length step marked accepts => ?_, length,
    answered.replace next waits onward⟩
  by_cases same : step = thread.step
  · exact onward length (same ▸ accepts)
  · rw [Array.getElem?_set_ne bound (Ne.symm same)] at marked
    exact (live.kept length step marked accepts).replace next waits onward

/-- A way that does not accept is given up. -/
theorem Live.skip (live : Live program front rest marks waiting (thread :: work))
    (never : ∀ length, ¬ AcceptsAhead program front rest length thread.step) :
    Live program front rest marks waiting work :=
  live.map fun _ answered => answered.replace [] (List.Subset.refl _)
    fun length accepts => absurd accepts (never length)

/-- **Following ways loses none that accepts**: either a match ends here, or a way that waits accepts. -/
theorem follow_live (live : Live program front rest marks waiting work) :
    let followed := follow program (placeBetween front rest) marks waiting work
    followed.2 ≠ none ∨ ∃ length, Answered program front rest followed.1 [] length := by
  fun_induction follow program (placeBetween front rest) marks waiting work with
  | case1 => exact .inr live.answered
  | case2 marks waiting thread work bound marked ih => exact ih (live.drop bound marked)
  | case3 marks waiting thread work bound _ _ _ none_ ih =>
    refine ih (live.take [] bound (List.Subset.refl _) fun length accepts => ?_)
    obtain ⟨_, _, _, accepts⟩ := accepts
    obtain ⟨_, is⟩ := accepts.exists_step
    cases none_.symm.trans is
  | case4 => exact .inl (Option.some_ne_none _)
  | case5 marks waiting thread work bound _ _ _ set next is ih =>
    refine ih (live.take [] bound (List.subset_cons_self _ _) fun length accepts => ?_)
    exact .inl ⟨thread, List.mem_cons_self, length, Nat.le_refl _, accepts⟩
  | case6 marks waiting thread work bound _ _ _ first second is ih =>
    refine ih (live.take [{ thread with step := first }, { thread with step := second }] bound
      (List.Subset.refl _) fun length accepts => ?_)
    obtain ⟨more, after, cut, accepts⟩ := accepts
    obtain ⟨less, fewer, later | later⟩ := accepts.of_fork is
    · exact .inr ⟨_, List.mem_cons_self, less, fewer, more, after, cut, later⟩
    · exact .inr ⟨_, List.mem_cons_of_mem _ List.mem_cons_self, less, fewer, more, after, cut, later⟩
  | case7 marks waiting thread work bound _ _ _ slot next is ih =>
    refine ih (live.take [⟨next, _⟩] bound (List.Subset.refl _) fun length accepts => ?_)
    obtain ⟨more, after, cut, accepts⟩ := accepts
    obtain ⟨less, fewer, later⟩ := accepts.of_save is
    exact .inr ⟨_, List.mem_cons_self, less, fewer, more, after, cut, later⟩
  | case8 marks waiting thread work bound _ _ _ look next is _ ih =>
    refine ih (live.take [{ thread with step := next }] bound (List.Subset.refl _)
      fun length accepts => ?_)
    obtain ⟨more, after, cut, accepts⟩ := accepts
    obtain ⟨_, less, fewer, later⟩ := accepts.of_check is
    exact .inr ⟨_, List.mem_cons_self, less, fewer, more, after, cut, later⟩
  | case9 marks waiting thread work bound _ _ _ look next is fails ih =>
    refine ih (live.take [] bound (List.Subset.refl _) fun length accepts => ?_)
    obtain ⟨more, after, rfl, accepts⟩ := accepts
    exact absurd (accepts.of_check is).1 fails
  | case10 marks waiting thread work bound ih =>
    refine ih (live.skip fun length accepts => bound ?_)
    obtain ⟨_, _, _, accepts⟩ := accepts
    obtain ⟨_, is⟩ := accepts.exists_step
    rw [live.size]
    exact (Array.getElem?_eq_some_iff.1 is).1

/-- Ways that wait stay, and others come before them in the list. -/
theorem follow_waiting (place : Place) :
    ∃ more, (follow program place marks waiting work).1 = more ++ waiting := by
  fun_induction follow program place marks waiting work with
  | case1 | case4 => exact ⟨[], rfl⟩
  | case5 marks waiting thread work bound _ _ _ set next is ih =>
    obtain ⟨more, eq⟩ := ih
    exact ⟨more ++ [thread], by rw [eq, List.append_assoc]; rfl⟩
  | _ => assumption

/-- Ways that are less preferred come after the others, and are given up if one of those ends a match. -/
theorem follow_append (place : Place) (marks : Array Bool) (waiting work late : List Thread) :
    let alone := follow program place marks waiting work
    let both := follow program place marks waiting (work ++ late)
    (alone.2 = none ∧ ∃ more, both.1 = more ++ alone.1) ∨ (alone.2 ≠ none ∧ both = alone) := by
  fun_induction follow program place marks waiting work with
  | case1 => exact .inl ⟨rfl, follow_waiting place⟩
  | case2 marks waiting thread work bound marked ih =>
    rw [List.cons_append, follow, dif_pos bound, dif_pos marked]
    exact ih
  | case3 marks waiting thread work bound unmarked _ _ is ih =>
    rw [List.cons_append, follow.eq_2 _ _ _ _ thread, dif_pos bound, dif_neg unmarked, is]
    exact ih
  | case4 marks waiting thread work bound unmarked _ is =>
    rw [List.cons_append, follow.eq_2 _ _ _ _ thread, dif_pos bound, dif_neg unmarked, is]
    exact .inr ⟨Option.some_ne_none _, rfl⟩
  | case5 marks waiting thread work bound unmarked _ _ _ _ is ih
  | case6 marks waiting thread work bound unmarked _ _ _ _ is ih
  | case7 marks waiting thread work bound unmarked _ _ _ _ is ih =>
    rw [List.cons_append, follow.eq_2 _ _ _ _ thread, dif_pos bound, dif_neg unmarked, is]
    exact ih
  | case8 marks waiting thread work bound unmarked _ _ _ _ is holds ih =>
    rw [List.cons_append, follow.eq_2 _ _ _ _ thread, dif_pos bound, dif_neg unmarked, is]
    simp only [if_pos holds]
    exact ih
  | case9 marks waiting thread work bound unmarked _ _ _ _ is fails ih =>
    rw [List.cons_append, follow.eq_2 _ _ _ _ thread, dif_pos bound, dif_neg unmarked, is]
    simp only [if_neg fails]
    exact ih
  | case10 marks waiting thread work bound ih =>
    rw [List.cons_append, follow, dif_neg bound]
    exact ih

/-- A way stands at a step that reads a character. -/
def Thread.Waits (program : Program) (thread : Thread) : Prop :=
  ∃ set next, program.steps[thread.step]? = some (.read set next)

theorem follow_waits (place : Place) (wait : ∀ thread ∈ waiting, thread.Waits program) :
    ∀ thread ∈ (follow program place marks waiting work).1, thread.Waits program := by
  fun_induction follow program place marks waiting work with
  | case1 | case4 => exact wait
  | case5 marks waiting thread work bound _ _ _ set next is ih =>
    exact ih (List.forall_mem_cons.2 ⟨⟨set, next, is⟩, wait⟩)
  | case2 _ _ _ _ _ _ ih | case3 _ _ _ _ _ _ _ _ _ ih | case6 _ _ _ _ _ _ _ _ _ _ _ ih
  | case7 _ _ _ _ _ _ _ _ _ _ _ ih | case8 _ _ _ _ _ _ _ _ _ _ _ _ ih
  | case9 _ _ _ _ _ _ _ _ _ _ _ _ ih | case10 _ _ _ _ _ ih => exact ih wait

end

end ServiceLocation.Pattern
