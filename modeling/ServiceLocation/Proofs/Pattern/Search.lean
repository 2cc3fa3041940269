import ServiceLocation.Proofs.Pattern.Follow

/-!
**The search for a match finds one that starts first.**

A text is gone through with the ways that have started so far, those that started first being preferred.
So a way that accepts a match stays in front of all that start later, until it has come to its end.

* `scan_induct`: what holds at each place on the way through a text;
* `search_sound`: **the places that are found are those of a match**;
* `Headway`: how far the search for a match is;
* `Headway.followedAt`, `Headway.advance`: it gets on at each place, and from one to the next;
* `search_complete`: **for every match one is found that starts no later.**
-/

namespace ServiceLocation.Pattern

/-! ### Going through a text -/

/-- The ways to follow at a place: one more starts there if nothing is found yet. -/
def waysAt (program : Program) (threads : List Thread) (found : Option Slots) : List Thread :=
  if found.isSome then threads else threads ++ [⟨program.start, []⟩]

/-- The ways that wait when those at a place are followed, and what is found by then. -/
def followedAt (program : Program) (front rest : List Char) (threads : List Thread)
    (found : Option Slots) : List Thread × Option Slots :=
  let followed := follow program (placeBetween front rest)
    (Array.replicate program.steps.size false) [] (waysAt program threads found)
  (followed.1.reverse, followed.2.or found)

section

variable {program : Program} {front rest : List Char} {threads : List Thread} {found : Option Slots}

theorem scan_nil : scan program front.length front.getLast? threads found [] =
    (followedAt program front [] threads found).2 := by
  rw [scan]
  rfl

theorem scan_cons {c : Char} : scan program front.length front.getLast? threads found (c :: rest) =
    let followed := followedAt program front (c :: rest) threads found
    if followed.2.isSome && followed.1.isEmpty then followed.2
    else scan program (front ++ [c]).length (front ++ [c]).getLast?
      (followed.1.filterMap (advance program c)) followed.2 rest := by
  rw [scan, List.length_append, List.getLast?_concat]
  simp only [followedAt, List.isEmpty_reverse]
  rfl

/-- What holds of the ways at each place on the way through a text, up to the end or to a place where
nothing is left to be followed. -/
theorem scan_induct (front : List Char)
    (Holds : List Char → List Char → List Thread → Option Slots → Prop)
    (Ends : Option Slots → Prop)
    (ends : ∀ {front rest threads found}, Holds front rest threads found →
      let followed := followedAt program front rest threads found
      rest = [] ∨ (followed.2.isSome ∧ followed.1 = []) → Ends followed.2)
    (goesOn : ∀ {front c rest threads found}, Holds front (c :: rest) threads found →
      let followed := followedAt program front (c :: rest) threads found
      Holds (front ++ [c]) rest (followed.1.filterMap (advance program c)) followed.2)
    (holds : Holds front rest threads found) :
    Ends (scan program front.length front.getLast? threads found rest) := by
  induction rest generalizing front threads found with
  | nil =>
    rw [scan_nil]
    exact ends holds (.inl rfl)
  | cons c rest ih =>
    rw [scan_cons]
    dsimp only
    split
    · rename_i exit
      rw [Bool.and_eq_true, List.isEmpty_iff] at exit
      exact ends holds (.inr exit)
    · exact ih _ (goesOn holds)

theorem followedAt_waits :
    ∀ thread ∈ (followedAt program front rest threads found).1, thread.Waits program := by
  intro thread member
  exact follow_waits _ (List.forall_mem_nil _) thread
    (List.mem_reverse.1 member)

end

/-! ### Matches that are found -/

section

variable {slots : Nat → Prop} {program : Program} {limit : Nat} {front rest : List Char}
  {threads : List Thread} {found : Option Slots}

theorem advance_eq_some {c : Char} {thread next : Thread}
    (goesOn : advance program c thread = some next) : ∃ set target,
      program.steps[thread.step]? = some (.read set target) ∧ set.contains c = true ∧
        next = { thread with step := target } := by
  unfold advance at goesOn
  split at goesOn
  · rename_i set target is
    split at goesOn
    · rename_i inSet
      exact ⟨set, target, is, inSet, (Option.some.inj goesOn).symm⟩
    · cases goesOn
  · cases goesOn

variable (framed : program.Framed slots)
include framed

theorem arrive_advance {c : Char}
    (arrive : ∀ thread ∈ threads, thread.Arrives program limit front (c :: rest)) :
    ∀ thread ∈ threads.filterMap (advance program c),
      thread.Arrives program limit (front ++ [c]) rest := by
  intro next isNext
  obtain ⟨thread, member, goesOn⟩ := List.mem_filterMap.1 isNext
  obtain ⟨set, target, is, inSet, rfl⟩ := advance_eq_some goesOn
  exact (arrive thread member).of_read framed is inSet

/-- Where a match may start only within `limit`, ways that arrive are followed to ways that arrive, and
what is found is a match that starts within it. -/
theorem followedAt_arrives (found : Option Slots)
    (arrive : ∀ thread ∈ threads, thread.Arrives program limit front rest)
    (foundIs : ∀ slots, found = some slots → Found program limit (front ++ rest) slots)
    (within : found = none → front.length ≤ limit) :
    let followed := followedAt program front rest threads found
    (∀ thread ∈ followed.1, thread.Arrives program limit front rest) ∧
      ∀ slots, followed.2 = some slots → Found program limit (front ++ rest) slots := by
  have ways : ∀ thread ∈ waysAt program threads found,
      thread.Arrives program limit front rest := by
    unfold waysAt
    split
    · exact arrive
    · rename_i nothing
      refine List.forall_mem_append.2 ⟨arrive, List.forall_mem_singleton.2 ?_⟩
      exact Thread.arrives_start (within (by simpa using nothing))
  obtain ⟨arrive', accepted⟩ := follow_arrives framed (Array.replicate program.steps.size false) ways
    (List.forall_mem_nil _)
  refine ⟨fun thread member => arrive' thread (List.mem_reverse.1 member), fun slots is => ?_⟩
  rcases Option.or_eq_some_iff.1 is with new | ⟨_, old⟩
  · exact accepted slots new
  · exact foundIs slots old

/-- **What a search finds is a match.** -/
theorem search_sound {text : List Char} {slots : Slots} (is : search program text = some slots) :
    Found program text.length text slots := by
  refine scan_induct []
    (fun front rest threads found => text = front ++ rest ∧
      (∀ thread ∈ threads, thread.Arrives program text.length front rest) ∧
      ∀ slots, found = some slots → Found program text.length (front ++ rest) slots)
    (fun found => ∀ slots, found = some slots → Found program text.length text slots)
    ?_ ?_ ⟨rfl, ?_, ?_⟩ slots is
  · rintro front rest threads found ⟨rfl, arrive, foundIs⟩ _ _
    exact (followedAt_arrives framed found arrive foundIs fun _ => by simp).2
  · rintro front c rest threads found ⟨rfl, arrive, foundIs⟩
    obtain ⟨arrive', foundIs'⟩ := followedAt_arrives framed found arrive foundIs fun _ => by simp
    refine ⟨by simp, arrive_advance framed arrive', fun slots is => ?_⟩
    rw [List.append_assoc]
    exact foundIs' slots is
  · exact List.forall_mem_nil _
  · intro slots nothing
    cases nothing

/-- If all ways arrive and one accepts, a match within the limit ends here, or one that waits accepts. -/
theorem follow_all (arrive : ∀ thread ∈ threads, thread.Arrives program limit front rest)
    (live : ∃ thread ∈ threads, ∃ length, AcceptsAhead program front rest length thread.step) :
    let followed := follow program (placeBetween front rest)
      (Array.replicate program.steps.size false) [] threads
    (∀ thread ∈ followed.1, thread.Arrives program limit front rest) ∧
      (∀ slots, followed.2 = some slots → Found program limit (front ++ rest) slots) ∧
      (followed.2 = none →
        ∃ thread ∈ followed.1, ∃ length, AcceptsAhead program front rest length thread.step) := by
  obtain ⟨arrive', accepted⟩ := follow_arrives framed (Array.replicate program.steps.size false) arrive
    (List.forall_mem_nil _)
  refine ⟨arrive', accepted, fun none_ => ?_⟩
  have isLive : Live program front rest (Array.replicate program.steps.size false) [] threads := by
    obtain ⟨thread, member, length, accepts⟩ := live
    refine ⟨Array.size_replicate, fun _ step marked => ?_, length + 1,
      .inr ⟨thread, member, length, Nat.lt_succ_self _, accepts⟩⟩
    rw [Array.getElem?_replicate] at marked
    split at marked <;> cases marked
  rcases follow_live isLive with some_ | ⟨_, ⟨thread, member, less, _, accepts⟩ | ⟨_, member, _⟩⟩
  · exact absurd none_ some_
  · exact ⟨thread, member, less, accepts⟩
  · exact absurd member List.not_mem_nil

end

/-- How far the search for a match that starts behind `before` is: the match lies ahead by at least
`least` characters, a match that starts no later is found, or a way to one is preferred to all that
start later. -/
inductive Headway (program : Program) (before after : List Char) (least : Nat)
    (front rest : List Char) (threads : List Thread) : Option Slots → Prop where
  | ahead {more : List Char} (isFront : before = front ++ more) (isRest : rest = more ++ after)
    (enough : least ≤ more.length)
    (arrive : ∀ thread ∈ threads, thread.Arrives program before.length front rest) :
    Headway program before after least front rest threads none
  | settled {slots : Slots} (isFound : Found program before.length (front ++ rest) slots)
    (arrive : ∀ thread ∈ threads, thread.Arrives program before.length front rest) :
    Headway program before after least front rest threads (some slots)
  | live {early late : List Thread} {found : Option Slots} (split : threads = early ++ late)
    (arrive : ∀ thread ∈ early, thread.Arrives program before.length front rest)
    (accepts : ∃ thread ∈ early, ∃ length, AcceptsAhead program front rest length thread.step) :
    Headway program before after least front rest threads found

section

variable {slots : Nat → Prop} {program : Program} {before inside after front rest : List Char}
  {threads : List Thread} {found : Option Slots} {c : Char}

/-- Nothing is left to be followed, or nothing to be read: then a match is found. -/
theorem Headway.ends (headway : Headway program before after 1 front rest threads found)
    (wait : ∀ thread ∈ threads, thread.Waits program)
    (atEnd : rest = [] ∨ (found.isSome ∧ threads = [])) :
    ∃ slots, found = some slots ∧ Found program before.length (front ++ rest) slots := by
  cases headway with
  | ahead isFront isRest enough arrive =>
    rcases atEnd with rfl | ⟨some_, _⟩
    · obtain ⟨rfl, _⟩ := List.append_eq_nil_iff.1 isRest.symm
      exact absurd enough (Nat.not_succ_le_zero 0)
    · cases some_
  | settled isFound arrive => exact ⟨_, rfl, isFound⟩
  | live split arrive accepts =>
    obtain ⟨thread, member, length, more, after', cut, accepts⟩ := accepts
    have isThread : thread ∈ threads := split ▸ List.mem_append_left _ member
    rcases atEnd with rfl | ⟨_, rfl⟩
    · obtain ⟨set, next, is⟩ := wait thread isThread
      obtain ⟨c, rest', _, rfl, _⟩ := accepts.of_read is
      cases cut
    · exact absurd isThread List.not_mem_nil

variable (framed : program.Framed slots)
include framed

theorem Headway.advance (headway : Headway program before after 1 front (c :: rest) threads found)
    (wait : ∀ thread ∈ threads, thread.Waits program) :
    Headway program before after 0 (front ++ [c]) rest (threads.filterMap (advance program c))
      found := by
  cases headway with
  | @ahead more isFront isRest enough arrive =>
    cases more with
    | nil => exact absurd enough (Nat.not_succ_le_zero 0)
    | cons d more =>
      obtain ⟨rfl, rfl⟩ := List.cons.inj isRest
      exact .ahead (by rw [isFront, List.append_assoc]; rfl) rfl (Nat.zero_le _)
        (arrive_advance framed arrive)
  | settled isFound arrive =>
    exact .settled (by rwa [List.append_assoc]) (arrive_advance framed arrive)
  | @live early late _ split arrive accepts =>
    refine .live (by rw [split, List.filterMap_append]) (arrive_advance framed arrive) ?_
    obtain ⟨thread, member, length, more, after', cut, accepts⟩ := accepts
    obtain ⟨set, next, is⟩ := wait thread (split ▸ List.mem_append_left _ member)
    obtain ⟨d, more', less, rfl, _, inSet, later⟩ := accepts.of_read is
    obtain ⟨rfl, rfl⟩ := List.cons.inj cut
    refine ⟨{ thread with step := next }, List.mem_filterMap.2 ⟨thread, member, ?_⟩, less, more',
      after', rfl, later⟩
    rw [Pattern.advance, is]
    exact if_pos inSet

/-- A way that accepts is followed, and so are those that are preferred to it, before all others. -/
theorem Headway.of_early {early : List Thread} (late : List Thread)
    (ways : waysAt program threads found = early ++ late)
    (arrive : ∀ thread ∈ early, thread.Arrives program before.length front rest)
    (accepts : ∃ thread ∈ early, ∃ length, AcceptsAhead program front rest length thread.step) :
    let followed := followedAt program front rest threads found
    Headway program before after 1 front rest followed.1 followed.2 := by
  obtain ⟨arrive', isFound, waits⟩ := follow_all framed arrive accepts
  unfold Pattern.followedAt
  rw [ways]
  dsimp only
  rcases follow_append (placeBetween front rest) (Array.replicate program.steps.size false) [] early
    late with ⟨none_, more, both⟩ | ⟨some_, both⟩
  · obtain ⟨thread, member, accepts⟩ := waits none_
    refine .live (by rw [both, List.reverse_append])
      (fun thread member => arrive' thread (List.mem_reverse.1 member))
      ⟨thread, List.mem_reverse.2 member, accepts⟩
  · obtain ⟨slots, is⟩ := Option.ne_none_iff_exists'.1 some_
    rw [both, is]
    exact .settled (isFound slots is) fun thread member => arrive' thread (List.mem_reverse.1 member)

/-- Following the ways at a place makes headway. -/
theorem Headway.followedAt
    (isMatch : AcceptsFrom program.steps program.start before inside after)
    (headway : Headway program before (inside ++ after) 0 front rest threads found) :
    let followed := followedAt program front rest threads found
    Headway program before (inside ++ after) 1 front rest followed.1 followed.2 := by
  cases headway with
  | @ahead more isFront isRest _ arrive =>
    cases more with
    | nil =>
      -- The match starts here, and nothing is found yet, so a way to it does.
      rw [List.append_nil] at isFront
      subst isFront isRest
      obtain ⟨length, accepts⟩ := isMatch
      refine .of_early framed [] (List.append_nil _).symm ?_
        ⟨_, List.mem_append_right _ (List.mem_singleton_self _), length, inside, after, rfl, accepts⟩
      exact List.forall_mem_append.2
        ⟨arrive, List.forall_mem_singleton.2 (Thread.arrives_start (Nat.le_refl _))⟩
    | cons c more =>
      obtain ⟨arrive', isFound⟩ := followedAt_arrives framed none arrive (fun _ is => by cases is)
        fun _ => by simp [isFront]
      dsimp only
      cases is : (Pattern.followedAt program front rest threads none).2 with
      | none => exact .ahead isFront isRest (Nat.succ_le_succ (Nat.zero_le _)) arrive'
      | some slots => exact .settled (isFound slots is) arrive'
  | @settled slots isFound arrive =>
    obtain ⟨arrive', isFound'⟩ := followedAt_arrives framed (some slots) arrive
      (fun _ is => Option.some.inj is ▸ isFound) fun none_ => by cases none_
    dsimp only
    cases is : (Pattern.followedAt program front rest threads (some slots)).2 with
    | none => exact absurd (Option.or_eq_none_iff.1 is).2 (Option.some_ne_none _)
    | some slots => exact .settled (isFound' slots is) arrive'
  | @live early late _ split arrive accepts =>
    subst split
    refine .of_early framed (if found.isSome then late else late ++ [⟨program.start, []⟩]) ?_
      arrive accepts
    unfold waysAt
    split
    · rfl
    · rw [List.append_assoc]

/-- **For every match, a search finds one that starts no later.** -/
theorem search_complete (isMatch : AcceptsFrom program.steps program.start before inside after) :
    ∃ slots, search program (before ++ inside ++ after) = some slots ∧
      Found program before.length (before ++ inside ++ after) slots := by
  refine scan_induct []
    (fun front rest threads found => before ++ inside ++ after = front ++ rest ∧
      Headway program before (inside ++ after) 0 front rest threads found)
    (fun found => ∃ slots, found = some slots ∧
      Found program before.length (before ++ inside ++ after) slots) ?_ ?_ ⟨rfl, ?_⟩
  · rintro front rest threads found ⟨whole, headway⟩ _ atEnd
    rw [whole]
    exact (headway.followedAt framed isMatch).ends followedAt_waits atEnd
  · rintro front c rest threads found ⟨whole, headway⟩
    refine ⟨by rw [whole, List.append_assoc]; rfl, ?_⟩
    exact (headway.followedAt framed isMatch).advance framed followedAt_waits
  · exact .ahead rfl (List.append_assoc ..) (Nat.zero_le _)
      (List.forall_mem_nil _)

end

end ServiceLocation.Pattern
