import ServiceLocation.Proofs.Pattern.Meaning

/-!
**Programs accept what their expressions match.**

An expression is laid out in front of the steps that are to follow it, whatever they are. So what its
steps accept is what it matches and then what those steps accept.

* `AcceptsWithin`, `AcceptsFrom`: what is accepted from a step on, within some number of steps or at all;
* `Layout.Extends`, `Layout.HasPart`: a layout goes on from another; steps have the part that it adds;
* `Step.IsInner`: a step that leads neither to the end nor to the start of a program;
* `Lays`: what a part of a layout adds, and what it accepts;
* `Lays.comp`, `lays_copies`, `lays_optional`, `lays_loop`, `lays_star`: parts one after the other,
  and repeated;
* `lays_prepend`: **the part of an expression accepts what the expression matches**;
* `Program.Framed`: the steps around that part;
* `accepts_ofExpr_iff`: **the program of an expression accepts what the expression matches**.

Loops are what the number of steps is counted for: a way through a loop comes to its head again with
fewer steps left.
-/

namespace ServiceLocation.Pattern

/-! ### What steps accept -/

/-- What is accepted from a step on, after at most so many steps. -/
def AcceptsWithin (steps : Array Step) (bound step : Nat) : Meaning := fun before inside after =>
  ∃ length ≤ bound, Accepts steps length step before inside after

/-- What is accepted from a step on. -/
def AcceptsFrom (steps : Array Step) (step : Nat) : Meaning := fun before inside after =>
  ∃ length, Accepts steps length step before inside after

theorem Meaning.seq_mono {first second second' : Meaning} {before inside after : List Char}
    (imp : ∀ {before inside after}, second before inside after → second' before inside after)
    (taken : seq first second before inside after) : seq first second' before inside after := by
  obtain ⟨front, back, whole, isFirst, isSecond⟩ := taken
  exact ⟨front, back, whole, isFirst, imp isSecond⟩

section

variable {steps : Array Step} {bound step inner outer : Nat} {greedy : Bool}
  {before inside after : List Char}

theorem AcceptsWithin.mono {larger : Nat} (le : bound ≤ larger)
    (accepts : AcceptsWithin steps bound step before inside after) :
    AcceptsWithin steps larger step before inside after := by
  obtain ⟨length, within, accepts⟩ := accepts
  exact ⟨length, Nat.le_trans within le, accepts⟩

/-- From a choice on, one of the two ways accepts, with fewer steps. -/
theorem AcceptsWithin.of_forkOf (is : steps[step]? = some (Layout.forkOf greedy inner outer))
    (accepts : AcceptsWithin steps bound step before inside after) : ∃ less < bound,
      AcceptsWithin steps less inner before inside after ∨
        AcceptsWithin steps less outer before inside after := by
  obtain ⟨length, within, accepts⟩ := accepts
  cases greedy with
  | true =>
    obtain ⟨less, fewer, later | later⟩ := accepts.of_fork is
    · exact ⟨less, by omega, .inl ⟨less, Nat.le_refl _, later⟩⟩
    · exact ⟨less, by omega, .inr ⟨less, Nat.le_refl _, later⟩⟩
  | false =>
    obtain ⟨less, fewer, later | later⟩ := accepts.of_fork is
    · exact ⟨less, by omega, .inr ⟨less, Nat.le_refl _, later⟩⟩
    · exact ⟨less, by omega, .inl ⟨less, Nat.le_refl _, later⟩⟩

theorem acceptsFrom_inner (is : steps[step]? = some (Layout.forkOf greedy inner outer))
    (accepts : AcceptsFrom steps inner before inside after) :
    AcceptsFrom steps step before inside after := by
  obtain ⟨length, accepts⟩ := accepts
  cases greedy with
  | true => exact ⟨length + 1, .first is accepts⟩
  | false => exact ⟨length + 1, .second is accepts⟩

theorem acceptsFrom_outer (is : steps[step]? = some (Layout.forkOf greedy inner outer))
    (accepts : AcceptsFrom steps outer before inside after) :
    AcceptsFrom steps step before inside after := by
  obtain ⟨length, accepts⟩ := accepts
  cases greedy with
  | true => exact ⟨length + 1, .second is accepts⟩
  | false => exact ⟨length + 1, .first is accepts⟩

end

/-! ### Layouts -/

/-- A layout goes on from another. -/
structure Layout.Extends (layout more : Layout) : Prop where
  size : layout.steps.size ≤ more.steps.size
  same : ∀ i < layout.steps.size, more.steps[i]? = layout.steps[i]?

/-- The steps are those of `more` where it goes on from `layout`. -/
def Layout.HasPart (layout more : Layout) (steps : Array Step) : Prop :=
  ∀ i, layout.steps.size ≤ i → i < more.steps.size → steps[i]? = more.steps[i]?

/-- A step of a part, which remembers places in the given slots alone. Step `0` ends a match, and only
step `1` leads there, which remembers the end of the whole match; the start of the whole match is
remembered behind all parts. -/
def Step.IsInner (slots : Nat → Prop) (bound : Nat) : Step → Prop
  | .read _ next => 0 < next ∧ next < bound
  | .fork first second => (0 < first ∧ first < bound) ∧ 0 < second ∧ second < bound
  | .save slot next => slots slot ∧ 0 < next ∧ next < bound
  | .check _ next => 0 < next ∧ next < bound
  | .accept => False

namespace Layout

variable {layout inside more : Layout} {steps : Array Step} {step : Step}

theorem Extends.refl (layout : Layout) : layout.Extends layout := ⟨Nat.le_refl _, fun _ _ => rfl⟩

theorem Extends.trans (first : layout.Extends inside) (second : inside.Extends more) :
    layout.Extends more :=
  ⟨Nat.le_trans first.size second.size, fun i within =>
    (second.same i (Nat.lt_of_lt_of_le within first.size)).trans (first.same i within)⟩

theorem extends_push (layout : Layout) (step : Step) : layout.Extends (layout.push step) := by
  refine ⟨?_, fun i within => ?_⟩
  · rw [push, Array.size_push]
    exact Nat.le_succ _
  · rw [push, Array.getElem?_push_lt within, Array.getElem?_eq_getElem within]

/-- Steps that have a part have the parts of which it consists. -/
theorem HasPart.split (part : layout.HasPart more steps) (first : layout.Extends inside)
    (second : inside.Extends more) : layout.HasPart inside steps ∧ inside.HasPart more steps := by
  refine ⟨fun i least within => ?_, fun i least within => part i (Nat.le_trans first.size least) within⟩
  rw [part i least (Nat.lt_of_lt_of_le within second.size), second.same i within]

theorem HasPart.of_push (part : layout.HasPart (layout.push step) steps) :
    steps[layout.steps.size]? = some step := by
  rw [part _ (Nat.le_refl _) (by simp [push])]
  simp [push]

end Layout

theorem Step.IsInner.mono {slots : Nat → Prop} {step : Step} {bound larger : Nat}
    (le : bound ≤ larger) (inner : step.IsInner slots bound) : step.IsInner slots larger := by
  cases step with
  | save slot next => exact ⟨inner.1, inner.2.1, Nat.lt_of_lt_of_le inner.2.2 le⟩
  | _ => simp only [IsInner] at inner ⊢ <;> omega

theorem Step.isInner_forkOf {slots : Nat → Prop} {greedy : Bool} {inner outer bound : Nat}
    (isInner : 0 < inner ∧ inner < bound) (isOuter : 0 < outer ∧ outer < bound) :
    (Layout.forkOf greedy inner outer).IsInner slots bound := by
  cases greedy
  · exact ⟨isOuter, isInner⟩
  · exact ⟨isInner, isOuter⟩

namespace Layout

variable {slots : Nat → Prop} {layout inside more : Layout} {step : Step}

/-- The steps that are to follow can be entered, and not at the end of a match. -/
def IsOpen (layout : Layout) : Prop := 0 < layout.entry ∧ layout.entry < layout.steps.size

/-- All steps that `more` adds are those of a part. -/
def AddsInner (slots : Nat → Prop) (layout more : Layout) : Prop :=
  ∀ i, layout.steps.size ≤ i → i < more.steps.size →
    ∃ step, more.steps[i]? = some step ∧ step.IsInner slots more.steps.size

theorem AddsInner.trans (first : layout.AddsInner slots inside) (second : inside.AddsInner slots more)
    (extends_ : inside.Extends more) : layout.AddsInner slots more := by
  intro i least within
  by_cases early : i < inside.steps.size
  · obtain ⟨step, is, inner⟩ := first i least early
    exact ⟨step, (extends_.same i early).trans is, inner.mono extends_.size⟩
  · exact second i (Nat.le_of_not_lt early) within

theorem isOpen_push (nonempty : 0 < layout.steps.size) (step : Step) :
    (layout.push step).IsOpen := by
  refine ⟨nonempty, ?_⟩
  show layout.steps.size < (layout.steps.push step).size
  rw [Array.size_push]
  exact Nat.lt_succ_self _

theorem addsInner_push (inner : step.IsInner slots layout.steps.size) :
    layout.AddsInner slots (layout.push step) := by
  intro i least within
  rw [push, Array.size_push] at within
  obtain rfl : i = layout.steps.size := by omega
  refine ⟨step, by simp [push], inner.mono ?_⟩
  rw [push, Array.size_push]
  exact Nat.le_succ _

end Layout

/-! ### Parts -/

/-- A part of a layout accepts what the meaning takes and then what the steps behind it accept. -/
structure Lays (slots : Nat → Prop) (part : Layout → Layout) (meaning : Meaning) : Prop where
  extends_ : ∀ layout : Layout, layout.Extends (part layout)
  isOpen : ∀ {layout : Layout}, layout.IsOpen → (part layout).IsOpen
  addsInner : ∀ {layout : Layout}, layout.IsOpen → layout.AddsInner slots (part layout)
  sound : ∀ {layout : Layout} {steps : Array Step} {bound : Nat} {before inside after : List Char},
    layout.HasPart (part layout) steps →
    AcceptsWithin steps bound (part layout).entry before inside after →
      Meaning.seq meaning (AcceptsWithin steps bound layout.entry) before inside after
  complete : ∀ {layout : Layout} {steps : Array Step} {before inside after : List Char},
    layout.HasPart (part layout) steps →
    Meaning.seq meaning (AcceptsFrom steps layout.entry) before inside after →
      AcceptsFrom steps (part layout).entry before inside after

section

variable {slots : Nat → Prop} {part part' : Layout → Layout} {meaning meaning' : Meaning}

/-- Parts one after the other: the one that is laid out first comes last. -/
theorem Lays.comp (first : Lays slots part meaning) (second : Lays slots part' meaning') :
    Lays slots (fun layout => part (part' layout)) (Meaning.seq meaning meaning') where
  extends_ layout := (second.extends_ layout).trans (first.extends_ _)
  isOpen isOpen := first.isOpen (second.isOpen isOpen)
  addsInner isOpen := (second.addsInner isOpen).trans (first.addsInner (second.isOpen isOpen))
    (first.extends_ _)
  sound has accepts := by
    obtain ⟨behind, front⟩ := has.split (second.extends_ _) (first.extends_ _)
    rw [Meaning.seq_assoc]
    exact Meaning.seq_mono (second.sound behind) (first.sound front accepts)
  complete has taken := by
    obtain ⟨behind, front⟩ := has.split (second.extends_ _) (first.extends_ _)
    rw [Meaning.seq_assoc] at taken
    exact first.complete front (Meaning.seq_mono (second.complete behind) taken)

theorem lays_id (slots : Nat → Prop) : Lays slots (fun layout => layout) Meaning.nothing where
  extends_ := .refl
  isOpen isOpen := isOpen
  addsInner _ := fun _ least within => absurd within (Nat.not_lt.2 least)
  sound _ accepts := by rwa [Meaning.nothing_seq]
  complete _ taken := by rwa [Meaning.nothing_seq] at taken

/-- A part several times. -/
theorem lays_copies (lays : Lays slots part meaning) (count : Nat) :
    Lays slots (Layout.copies part count) (meaning.power count) := by
  induction count with
  | zero => exact lays_id slots
  | succ count ih =>
    rw [Meaning.power_concat]
    exact ih.comp lays

/-! #### Repetitions that may be left out -/

/-- What `more` adds to a layout accepts what `through` takes and then what follows the layout, or what
`out` takes and then what follows `exit`. -/
structure Adds (slots : Nat → Prop) (layout more : Layout) (through : Meaning) (exit : Nat)
    (out : Meaning) : Prop where
  extends_ : layout.Extends more
  isOpen : layout.IsOpen → 0 < exit ∧ exit < layout.steps.size → more.IsOpen
  addsInner : layout.IsOpen → 0 < exit ∧ exit < layout.steps.size → layout.AddsInner slots more
  sound : ∀ {steps : Array Step} {bound : Nat} {before inside after : List Char},
    layout.HasPart more steps → AcceptsWithin steps bound more.entry before inside after →
      Meaning.seq through (AcceptsWithin steps bound layout.entry) before inside after ∨
        Meaning.seq out (AcceptsWithin steps bound exit) before inside after
  complete : ∀ {steps : Array Step} {before inside after : List Char},
    layout.HasPart more steps →
    Meaning.seq through (AcceptsFrom steps layout.entry) before inside after ∨
        Meaning.seq out (AcceptsFrom steps exit) before inside after →
      AcceptsFrom steps more.entry before inside after

/-- A part once more, and a choice in front of it whether to go to the exit instead. -/
theorem Lays.adds_push (lays : Lays slots part meaning) (greedy : Bool) (exit : Nat) (layout : Layout) :
    Adds slots layout ((part layout).push (Layout.forkOf greedy (part layout).entry exit)) meaning exit
      Meaning.nothing := by
  have isPart := lays.extends_ layout
  have isChoice := Layout.extends_push (part layout)
    (Layout.forkOf greedy (part layout).entry exit)
  refine ⟨isPart.trans isChoice, fun isOpen _ => ?_, fun isOpen isExit => ?_, fun has accepts => ?_,
    fun has taken => ?_⟩
  · have isOpen' := lays.isOpen isOpen
    exact Layout.isOpen_push (Nat.lt_trans isOpen'.1 isOpen'.2) _
  · refine (lays.addsInner isOpen).trans (Layout.addsInner_push ?_) isChoice
    exact Step.isInner_forkOf (lays.isOpen isOpen)
      ⟨isExit.1, Nat.lt_of_lt_of_le isExit.2 isPart.size⟩
  · obtain ⟨hasPart, hasChoice⟩ := has.split isPart isChoice
    rw [Meaning.nothing_seq]
    obtain ⟨less, fewer, later | later⟩ := accepts.of_forkOf hasChoice.of_push
    · exact .inl (lays.sound hasPart (later.mono (Nat.le_of_lt fewer)))
    · exact .inr (later.mono (Nat.le_of_lt fewer))
  · obtain ⟨hasPart, hasChoice⟩ := has.split isPart isChoice
    rw [Meaning.nothing_seq] at taken
    rcases taken with later | later
    · exact acceptsFrom_inner hasChoice.of_push (lays.complete hasPart later)
    · exact acceptsFrom_outer hasChoice.of_push later

/-- A part up to so many times, with a choice in front of each. -/
theorem Lays.adds_optional (lays : Lays slots part meaning) (greedy : Bool) (exit count : Nat)
    (layout : Layout) :
    Adds slots layout (Layout.optional part greedy exit count layout) (meaning.power count) exit
      (fun before inside after => ∃ fewer < count, meaning.power fewer before inside after) := by
  induction count generalizing layout with
  | zero =>
    refine ⟨.refl layout, fun isOpen _ => isOpen, fun isOpen _ => (lays_id slots).addsInner isOpen,
      fun has accepts => .inl ((lays_id slots).sound has accepts), ?_⟩
    rintro steps before inside after has (taken | ⟨_, _, _, ⟨_, none_, _⟩, _⟩)
    · exact (lays_id slots).complete has taken
    · exact absurd none_ (Nat.not_lt_zero _)
  | succ count ih =>
    have one := lays.adds_push greedy exit layout
    have rest := ih ((part layout).push (Layout.forkOf greedy (part layout).entry exit))
    have exits : exit < layout.steps.size → exit <
        ((part layout).push (Layout.forkOf greedy (part layout).entry exit)).steps.size :=
      fun isExit => Nat.lt_of_lt_of_le isExit one.extends_.size
    refine ⟨one.extends_.trans rest.extends_, fun isOpen isExit => ?_, fun isOpen isExit => ?_,
      fun has accepts => ?_, fun has taken => ?_⟩
    · exact rest.isOpen (one.isOpen isOpen isExit) ⟨isExit.1, exits isExit.2⟩
    · exact (one.addsInner isOpen isExit).trans
        (rest.addsInner (one.isOpen isOpen isExit) ⟨isExit.1, exits isExit.2⟩) rest.extends_
    · obtain ⟨hasOne, hasRest⟩ := has.split one.extends_ rest.extends_
      rw [Meaning.power_concat, Meaning.seq_assoc]
      rcases rest.sound hasRest accepts with
        ⟨front, back, rfl, all, later⟩ | ⟨front, back, rfl, ⟨fewer, less, taken⟩, later⟩
      · rcases one.sound hasOne later with one | none_
        · exact .inl ⟨front, back, rfl, all, one⟩
        · rw [Meaning.nothing_seq] at none_
          exact .inr ⟨front, back, rfl, ⟨count, Nat.lt_succ_self _, all⟩, none_⟩
      · exact .inr ⟨front, back, rfl, ⟨fewer, Nat.lt_succ_of_lt less, taken⟩, later⟩
    · obtain ⟨hasOne, hasRest⟩ := has.split one.extends_ rest.extends_
      rw [Meaning.power_concat, Meaning.seq_assoc] at taken
      refine rest.complete hasRest ?_
      rcases taken with ⟨front, back, rfl, all, later⟩ |
        ⟨front, back, rfl, ⟨fewer, less, taken⟩, later⟩
      · exact .inl ⟨front, back, rfl, all, one.complete hasOne (.inl later)⟩
      · rcases Nat.lt_succ_iff_lt_or_eq.1 less with less | rfl
        · exact .inr ⟨front, back, rfl, ⟨fewer, less, taken⟩, later⟩
        · refine .inl ⟨front, back, rfl, taken, one.complete hasOne (.inr ?_)⟩
          rwa [Meaning.nothing_seq]

/-- A part up to so many times. -/
theorem lays_optional (lays : Lays slots part meaning) (greedy : Bool) (limit : Nat) :
    Lays slots (fun layout => Layout.optional part greedy layout.entry limit layout)
      (fun before inside after => ∃ count ≤ limit, meaning.power count before inside after) where
  extends_ layout := (lays.adds_optional greedy layout.entry limit layout).extends_
  isOpen {layout} isOpen := (lays.adds_optional greedy layout.entry limit layout).isOpen isOpen isOpen
  addsInner {layout} isOpen :=
    (lays.adds_optional greedy layout.entry limit layout).addsInner isOpen isOpen
  sound {layout _ _ _ _ _} has accepts := by
    rcases (lays.adds_optional greedy layout.entry limit layout).sound has accepts with
      ⟨front, back, rfl, all, later⟩ | ⟨front, back, rfl, ⟨count, less, taken⟩, later⟩
    · exact ⟨front, back, rfl, ⟨limit, Nat.le_refl _, all⟩, later⟩
    · exact ⟨front, back, rfl, ⟨count, Nat.le_of_lt less, taken⟩, later⟩
  complete {layout _ _ _ _} has taken := by
    obtain ⟨front, back, rfl, ⟨count, within, taken⟩, later⟩ := taken
    refine (lays.adds_optional greedy layout.entry limit layout).complete has ?_
    rcases Nat.lt_or_eq_of_le within with less | rfl
    · exact .inr ⟨front, back, rfl, ⟨count, less, taken⟩, later⟩
    · exact .inl ⟨front, back, rfl, taken, later⟩

/-! #### Loops -/

/-- Steps that have a loop have its part, and the choice at its head. -/
theorem Lays.hasPart_of_loop (lays : Lays slots part meaning) {greedy : Bool} {layout : Layout}
    {steps : Array Step} (has : layout.HasPart (Layout.loop part greedy layout) steps) :
    (layout.push .accept).HasPart (part (layout.push .accept)) steps ∧
      steps[layout.steps.size]? = some
        (Layout.forkOf greedy (part (layout.push .accept)).entry layout.entry) := by
  have isPart := lays.extends_ (layout.push .accept)
  have head : layout.steps.size < (layout.push .accept).steps.size := by
    rw [Layout.push, Array.size_push]
    exact Nat.lt_succ_self _
  have size : (Layout.loop part greedy layout).steps.size =
      (part (layout.push .accept)).steps.size := Array.size_setIfInBounds
  constructor
  · intro i least within
    have other : layout.steps.size ≠ i := Nat.ne_of_lt (Nat.lt_of_lt_of_le head least)
    rw [has i (Nat.le_trans (Nat.le_of_lt head) least) (size ▸ within), Layout.loop,
      Array.getElem?_setIfInBounds_ne other]
  · have within := Nat.lt_of_lt_of_le head isPart.size
    rw [has _ (Nat.le_refl _) (size ▸ within), Layout.loop, Array.getElem?_setIfInBounds_self,
      if_pos within]

/-- A part once or more: it comes to the head of the loop, where it may begin again. -/
theorem lays_loop (lays : Lays slots part meaning) (greedy : Bool) :
    Lays slots (Layout.loop part greedy)
      (fun before inside after => ∃ count, meaning.power (count + 1) before inside after) where
  extends_ layout := by
    have isHead := Layout.extends_push layout .accept
    have isPart := isHead.trans (lays.extends_ _)
    refine ⟨?_, fun i within => ?_⟩
    · rw [Layout.loop, Array.size_setIfInBounds]
      exact isPart.size
    · rw [Layout.loop, Array.getElem?_setIfInBounds_ne (Nat.ne_of_gt within)]
      exact isPart.same i within
  isOpen {layout} isOpen := by
    have isOpen' := lays.isOpen (Layout.isOpen_push (Nat.lt_trans isOpen.1 isOpen.2) .accept)
    refine ⟨isOpen'.1, ?_⟩
    rw [Layout.loop, Array.size_setIfInBounds]
    exact isOpen'.2
  addsInner {layout} isOpen i least within := by
    have isHead := Layout.isOpen_push (Nat.lt_trans isOpen.1 isOpen.2) .accept
    have isPart := lays.extends_ (layout.push .accept)
    rw [Layout.loop, Array.size_setIfInBounds] at within ⊢
    rcases Nat.lt_or_eq_of_le least with behind | rfl
    · rw [Array.getElem?_setIfInBounds_ne (Nat.ne_of_lt behind)]
      refine lays.addsInner isHead i ?_ within
      rw [Layout.push, Array.size_push]
      exact behind
    · rw [Array.getElem?_setIfInBounds_self, if_pos within]
      exact ⟨_, rfl, Step.isInner_forkOf (lays.isOpen isHead)
        ⟨isOpen.1, Nat.lt_trans isOpen.2 within⟩⟩
  sound {layout steps bound before inside after} has accepts := by
    obtain ⟨hasPart, is⟩ := lays.hasPart_of_loop has
    -- The text need not get shorter from one time to the next, but the steps that are left get fewer.
    induction bound using Nat.strongRecOn generalizing before inside with
    | ind bound ih =>
      obtain ⟨front, back, rfl, one, later⟩ := lays.sound hasPart accepts
      obtain ⟨less, fewer, again | out⟩ := later.of_forkOf is
      · obtain ⟨middle, back, rfl, ⟨count, more⟩, later⟩ := ih less fewer again
        refine ⟨front ++ middle, back, by rw [List.append_assoc],
          ⟨count + 1, front, middle, rfl, ?_, more⟩, ?_⟩
        · rwa [List.append_assoc] at one
        · rw [← List.append_assoc]
          exact later.mono (Nat.le_of_lt fewer)
      · refine ⟨front, back, rfl, ⟨0, ?_⟩, out.mono (Nat.le_of_lt fewer)⟩
        rwa [Meaning.power_one]
  complete {layout steps before inside after} has taken := by
    obtain ⟨hasPart, is⟩ := lays.hasPart_of_loop has
    obtain ⟨front, back, rfl, ⟨count, taken⟩, later⟩ := taken
    induction count generalizing before front with
    | zero =>
      rw [Meaning.power_one] at taken
      exact lays.complete hasPart ⟨front, back, rfl, taken, acceptsFrom_outer is later⟩
    | succ count ih =>
      obtain ⟨front, middle, rfl, one, more⟩ := taken
      rw [List.append_assoc]
      rw [← List.append_assoc] at later
      refine lays.complete hasPart ⟨front, middle ++ back, rfl, ?_,
        acceptsFrom_inner is (ih middle later more)⟩
      rwa [List.append_assoc]

/-- A part any number of times: a loop, and a choice in front whether to enter it. -/
theorem lays_star (lays : Lays slots part meaning) (greedy : Bool) :
    Lays slots (Layout.star part greedy)
      (fun before inside after => ∃ count, meaning.power count before inside after) where
  extends_ layout := ((lays_loop lays greedy).adds_push greedy layout.entry layout).extends_
  isOpen {layout} isOpen :=
    ((lays_loop lays greedy).adds_push greedy layout.entry layout).isOpen isOpen isOpen
  addsInner {layout} isOpen :=
    ((lays_loop lays greedy).adds_push greedy layout.entry layout).addsInner isOpen isOpen
  sound {layout _ _ _ _ _} has accepts := by
    rcases ((lays_loop lays greedy).adds_push greedy layout.entry layout).sound has accepts with
      ⟨front, back, rfl, ⟨count, taken⟩, later⟩ | ⟨front, back, rfl, taken, later⟩
    · exact ⟨front, back, rfl, ⟨count + 1, taken⟩, later⟩
    · exact ⟨front, back, rfl, ⟨0, taken⟩, later⟩
  complete {layout _ _ _ _} has taken := by
    refine ((lays_loop lays greedy).adds_push greedy layout.entry layout).complete has ?_
    obtain ⟨front, back, rfl, ⟨count, taken⟩, later⟩ := taken
    cases count with
    | zero => exact .inr ⟨front, back, rfl, taken, later⟩
    | succ count => exact .inl ⟨front, back, rfl, ⟨count, taken⟩, later⟩

end

/-! #### Expressions -/

section

variable {slots : Nat → Prop}

/-- A part that is one step. -/
theorem lays_push {step : Nat → Step} {meaning : Meaning}
    (inner : ∀ {next bound}, 0 < next ∧ next < bound → (step next).IsInner slots bound)
    (sound : ∀ {steps : Array Step} {start next length before inside after},
      steps[start]? = some (step next) → Accepts steps length start before inside after →
        Meaning.seq meaning (AcceptsWithin steps length next) before inside after)
    (complete : ∀ {steps : Array Step} {start next before inside after},
      steps[start]? = some (step next) →
        Meaning.seq meaning (AcceptsFrom steps next) before inside after →
        AcceptsFrom steps start before inside after) :
    Lays slots (fun layout => layout.push (step layout.entry)) meaning where
  extends_ layout := Layout.extends_push layout _
  isOpen isOpen := Layout.isOpen_push (Nat.lt_trans isOpen.1 isOpen.2) _
  addsInner isOpen := Layout.addsInner_push (inner isOpen)
  sound has accepts := by
    obtain ⟨length, within, accepts⟩ := accepts
    exact Meaning.seq_mono (·.mono within) (sound has.of_push accepts)
  complete has taken := complete has.of_push taken

theorem lays_read (set : Text.CharSet) :
    Lays slots (fun layout => layout.push (.read set layout.entry)) (Expr.chars set).Matches := by
  refine lays_push (fun inside => inside) (fun is accepts => ?_) fun is taken => ?_
  · obtain ⟨c, rest, less, rfl, fewer, inSet, later⟩ := accepts.of_read is
    exact ⟨[c], rest, rfl, ⟨c, inSet, rfl⟩, less, Nat.le_of_lt fewer, later⟩
  · obtain ⟨_, rest, rfl, ⟨c, inSet, rfl⟩, length, later⟩ := taken
    exact ⟨length + 1, .read is inSet later⟩

theorem lays_check (look : Look) :
    Lays slots (fun layout => layout.push (.check look layout.entry)) (Expr.look look).Matches := by
  refine lays_push (fun inside => inside)
    (fun {steps start next length before inside after} is accepts => ?_) fun is taken => ?_
  · obtain ⟨holds, less, fewer, later⟩ := accepts.of_check is
    rw [← List.append_nil before] at later
    exact ⟨[], inside, rfl, ⟨holds, rfl⟩, less, Nat.le_of_lt fewer, later⟩
  · obtain ⟨_, rest, rfl, ⟨holds, rfl⟩, length, later⟩ := taken
    rw [List.append_nil] at later
    exact ⟨length + 1, .check is holds later⟩

theorem lays_save (slot : Nat) (inner : slots slot) :
    Lays slots (fun layout => layout.push (.save slot layout.entry)) Meaning.nothing := by
  refine lays_push (fun inside => ⟨inner, inside⟩) (fun is accepts => ?_) fun is taken => ?_
  · obtain ⟨less, fewer, later⟩ := accepts.of_save is
    rw [Meaning.nothing_seq]
    exact ⟨less, Nat.le_of_lt fewer, later⟩
  · rw [Meaning.nothing_seq] at taken
    obtain ⟨length, later⟩ := taken
    exact ⟨length + 1, .save is later⟩

/-- A choice between two parts, which are followed by the same steps. -/
theorem lays_alt {part part' : Layout → Layout} {meaning meaning' : Meaning}
    (first : Lays slots part meaning) (second : Lays slots part' meaning') :
    Lays slots (fun layout =>
        let one := part ((part' layout).enterAt layout.entry)
        one.push (.fork one.entry (part' layout).entry))
      (fun before inside after => meaning before inside after ∨ meaning' before inside after) := by
  have extends_ : ∀ layout : Layout, let one := part ((part' layout).enterAt layout.entry)
      layout.Extends (part' layout) ∧ (part' layout).Extends one ∧
        one.Extends (one.push (.fork one.entry (part' layout).entry)) := fun layout =>
    ⟨second.extends_ layout, ⟨(first.extends_ ((part' layout).enterAt layout.entry)).size,
      (first.extends_ ((part' layout).enterAt layout.entry)).same⟩, Layout.extends_push _ _⟩
  have isOpen : ∀ {layout : Layout}, layout.IsOpen →
      ((part' layout).enterAt layout.entry).IsOpen := fun {layout} isOpen =>
    ⟨isOpen.1, Nat.lt_of_lt_of_le isOpen.2 (second.extends_ layout).size⟩
  refine ⟨fun layout => ?_, fun {layout} open_ => ?_, fun {layout} open_ => ?_,
    fun {layout steps bound before inside after} has accepts => ?_,
    fun {layout steps before inside after} has taken => ?_⟩
  · obtain ⟨isSecond, isFirst, isChoice⟩ := extends_ layout
    exact isSecond.trans (isFirst.trans isChoice)
  · have isFirst := first.isOpen (isOpen open_)
    exact Layout.isOpen_push (Nat.lt_trans isFirst.1 isFirst.2) _
  · obtain ⟨_, isFirst, isChoice⟩ := extends_ layout
    have isSecond := second.isOpen open_
    have inner := first.addsInner (isOpen open_)
    refine ((second.addsInner open_).trans inner isFirst).trans
      (Layout.addsInner_push ?_) isChoice
    exact ⟨first.isOpen (isOpen open_), isSecond.1, Nat.lt_of_lt_of_le isSecond.2 isFirst.size⟩
  · obtain ⟨isSecond, isFirst, isChoice⟩ := extends_ layout
    obtain ⟨hasParts, hasChoice⟩ := has.split (isSecond.trans isFirst) isChoice
    obtain ⟨hasSecond, hasFirst⟩ := hasParts.split isSecond isFirst
    have is : steps[_]? = some (Layout.forkOf true _ _) := hasChoice.of_push
    obtain ⟨less, fewer, later | later⟩ := accepts.of_forkOf is
    · obtain ⟨front, back, rfl, taken, later⟩ := first.sound hasFirst later
      exact ⟨front, back, rfl, .inl taken, later.mono (Nat.le_of_lt fewer)⟩
    · obtain ⟨front, back, rfl, taken, later⟩ := second.sound hasSecond later
      exact ⟨front, back, rfl, .inr taken, later.mono (Nat.le_of_lt fewer)⟩
  · obtain ⟨isSecond, isFirst, isChoice⟩ := extends_ layout
    obtain ⟨hasParts, hasChoice⟩ := has.split (isSecond.trans isFirst) isChoice
    obtain ⟨hasSecond, hasFirst⟩ := hasParts.split isSecond isFirst
    have is : steps[_]? = some (Layout.forkOf true _ _) := hasChoice.of_push
    obtain ⟨front, back, rfl, taken | taken, later⟩ := taken
    · exact acceptsFrom_inner is (first.complete hasFirst ⟨front, back, rfl, taken, later⟩)
    · exact acceptsFrom_outer is (second.complete hasSecond ⟨front, back, rfl, taken, later⟩)

theorem Lays.congr {part : Layout → Layout} {meaning meaning' : Meaning}
    (lays : Lays slots part meaning)
    (same : ∀ before inside after, meaning before inside after ↔ meaning' before inside after) :
    Lays slots part meaning' := by
  have eq : meaning = meaning' := by
    funext before inside after
    exact propext (same before inside after)
  exact eq ▸ lays

/-- **The part of an expression accepts what the expression matches**, and remembers the places of its
groups. -/
theorem lays_prepend {expr : Expr} (wellFormed : expr.WellFormed)
    (saves : ∀ index ∈ expr.groups, slots (2 * index) ∧ slots (2 * index + 1)) :
    Lays slots (Layout.prepend expr) expr.Matches := by
  induction expr with
  | empty => exact lays_id slots
  | chars set => exact lays_read set
  | look look => exact lays_check look
  | group index body ih =>
    obtain ⟨⟨start, stop⟩, inside⟩ := List.forall_mem_cons.1 saves
    have lays := (lays_save (2 * index) start).comp
      ((ih wellFormed.2 inside).comp (lays_save (2 * index + 1) stop))
    rwa [Meaning.nothing_seq, Meaning.seq_nothing] at lays
  | seq first second ih ih' =>
    obtain ⟨isFirst, isSecond⟩ := List.forall_mem_append.1 saves
    exact (ih wellFormed.1 isFirst).comp (ih' wellFormed.2 isSecond)
  | alt first second ih ih' =>
    obtain ⟨isFirst, isSecond⟩ := List.forall_mem_append.1 saves
    exact lays_alt (ih wellFormed.1 isFirst) (ih' wellFormed.2 isSecond)
  | times body least most greedy ih =>
    have lays := ih wellFormed.2 saves
    cases most with
    | some most =>
      have enough : least ≤ most := wellFormed.1 most rfl
      refine ((lays_copies lays least).comp (lays_optional lays greedy (most - least))).congr
        fun before inside after => ⟨?_, ?_⟩
      · rintro ⟨front, back, rfl, some_, more, within, taken⟩
        refine ⟨least + more, Nat.le_add_right _ _, fun limit is => ?_, ?_⟩
        · obtain rfl := Option.some.inj is
          omega
        · rw [Meaning.power_add]
          exact ⟨front, back, rfl, some_, taken⟩
      · rintro ⟨count, atLeast, atMost, taken⟩
        have within := atMost most rfl
        obtain ⟨more, rfl⟩ := Nat.exists_eq_add_of_le atLeast
        rw [Meaning.power_add] at taken
        obtain ⟨front, back, rfl, some_, taken⟩ := taken
        exact ⟨front, back, rfl, some_, more, by omega, taken⟩
    | none =>
      cases least with
      | zero =>
        refine (lays_star lays greedy).congr fun before inside after => ⟨?_, ?_⟩
        · rintro ⟨count, taken⟩
          exact ⟨count, Nat.zero_le _, (fun limit is => by cases is), taken⟩
        · rintro ⟨count, _, _, taken⟩
          exact ⟨count, taken⟩
      | succ least =>
        refine ((lays_copies lays least).comp (lays_loop lays greedy)).congr
          fun before inside after => ⟨?_, ?_⟩
        · rintro ⟨front, back, rfl, some_, more, taken⟩
          refine ⟨least + (more + 1), by omega, (fun limit is => by cases is), ?_⟩
          rw [Meaning.power_add]
          exact ⟨front, back, rfl, some_, taken⟩
        · rintro ⟨count, atLeast, _, taken⟩
          obtain ⟨more, rfl⟩ : ∃ more, count = least + (more + 1) :=
            ⟨count - least - 1, by omega⟩
          rw [Meaning.power_add] at taken
          obtain ⟨front, back, rfl, some_, taken⟩ := taken
          exact ⟨front, back, rfl, some_, more, taken⟩

end

/-! ### Whole programs -/

/-- The steps of a program around the part of its expression: those that end a match and remember where
it ends, and the one that remembers where it starts. The part remembers places in the given slots. -/
structure Program.Framed (slots : Nat → Prop) (program : Program) : Prop where
  accept : program.steps[0]? = some .accept
  stop : program.steps[1]? = some (.save 1 0)
  start : ∃ next, (0 < next ∧ next < program.start) ∧
    program.steps[program.start]? = some (.save 0 next)
  inner : ∀ i, 1 < i → i < program.start →
    ∃ step, program.steps[i]? = some step ∧ step.IsInner slots program.start
  ofGroups : ∀ slot, slots slot → 1 < slot
  size : program.steps.size = program.start + 1

/-- The slots of the groups of an expression. -/
def Expr.slots (expr : Expr) (slot : Nat) : Prop := 1 < slot ∧ slot / 2 ∈ expr.groups

/-- The steps behind the part of an expression. -/
def Layout.ending : Layout := Layout.push { steps := #[.accept], entry := 0 } (.save 1 0)

section

variable {expr : Expr} (wellFormed : expr.WellFormed)
include wellFormed

theorem lays_expr : Lays expr.slots (Layout.prepend expr) expr.Matches := by
  refine lays_prepend wellFormed fun index member => ?_
  have positive := wellFormed.pos_of_mem_groups index member
  have start : 2 * index / 2 = index := by omega
  have stop : (2 * index + 1) / 2 = index := by omega
  refine ⟨⟨by omega, ?_⟩, by omega, ?_⟩
  · rwa [start]
  · rwa [stop]

theorem Program.framed_ofExpr : (Program.ofExpr expr).Framed expr.slots := by
  have lays := lays_expr wellFormed
  have isOpen : Layout.ending.IsOpen := ⟨Nat.one_pos, Nat.lt_succ_self _⟩
  have isPart := lays.extends_ .ending
  have isWhole := isPart.trans (Layout.extends_push _ (.save 0 (Layout.prepend expr .ending).entry))
  refine ⟨isWhole.same 0 Nat.two_pos, isWhole.same 1 (Nat.lt_succ_self 1),
    ⟨_, lays.isOpen isOpen, ?_⟩, fun i least within => ?_, fun _ isSlot => isSlot.1, ?_⟩
  · exact Array.getElem?_push_size
  · obtain ⟨step, is, inner⟩ := lays.addsInner isOpen i least within
    refine ⟨step, ?_, inner⟩
    rw [← is]
    exact (Layout.extends_push _ _).same i within
  · exact Array.size_push _

/-- **The program of an expression accepts what the expression matches.** -/
theorem accepts_ofExpr_iff {before inside after : List Char} :
    AcceptsFrom (Program.ofExpr expr).steps (Program.ofExpr expr).start before inside after ↔
      expr.Matches before inside after := by
  have lays := lays_expr wellFormed
  have framed := Program.framed_ofExpr wellFormed
  have isPart := lays.extends_ .ending
  have hasPart : Layout.ending.HasPart (Layout.prepend expr .ending) (Program.ofExpr expr).steps :=
    fun i _ within => (Layout.extends_push _ _).same i within
  have isStart : (Program.ofExpr expr).steps[(Program.ofExpr expr).start]? =
      some (.save 0 (Layout.prepend expr .ending).entry) := Array.getElem?_push_size
  constructor
  · rintro ⟨length, accepts⟩
    obtain ⟨less, _, later⟩ := accepts.of_save isStart
    obtain ⟨front, back, rfl, matches_, _, _, ending⟩ :=
      lays.sound hasPart ⟨less, Nat.le_refl _, later⟩
    obtain ⟨_, _, last⟩ := ending.of_save framed.stop
    cases last with
    | accept is => rwa [List.append_nil]
    | read is | first is | second is | save is | check is => cases framed.accept.symm.trans is
  · intro matches_
    obtain ⟨length, later⟩ := lays.complete hasPart ⟨inside, [], by rw [List.append_nil], matches_, 1,
      .save framed.stop (.accept framed.accept)⟩
    exact ⟨length + 1, .save isStart later⟩

end

end ServiceLocation.Pattern
