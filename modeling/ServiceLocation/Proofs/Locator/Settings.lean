import ServiceLocation.Proofs.Locator.Session

/-!
**Settings of different parts may be changed in any order.**

* `Setting.Part`, `Setting.part`: the part of a locator that a setting changes;
* `Setting.apply_comm`: two changes of different parts lead to the same locator in either order;
* `Locator.withSettings_perm`: **and so do any number of them**;
* `Session.run_change`, `Session.run_change_append`: a locator in use whose settings are changed is the
  changed locator in use.
-/

namespace ServiceLocation

namespace Setting

/-- What a setting changes. -/
inductive Part where
  | service
  | lowercase
  | addScheme
  | useCache
  | labelPrefix
  | policy
  | servers
  deriving DecidableEq

/-- The part of a locator that a setting changes. -/
def part : Setting → Part
  | .service _ => .service
  | .lowercase _ => .lowercase
  | .addScheme _ => .addScheme
  | .useCache _ => .useCache
  | .labelPrefix _ => .labelPrefix
  | .policy _ => .policy
  | .servers _ => .servers
  | .addServer _ => .servers

/-- A server is added before or after a change of another part. -/
theorem addServer_comm (text : String) {other : Setting} (different : other.part ≠ .servers)
    (locator : Locator) :
    ((Setting.addServer text).apply locator >>= fun after => other.apply after) =
      (other.apply locator >>= fun after => (Setting.addServer text).apply after) := by
  cases read : Locator.readServer text <;> cases other <;>
    first
    | exact absurd rfl different
    | simp only [apply, Locator.addServer, read, bind, Except.bind]

/-- **Two changes of different parts lead to the same locator in either order.** -/
theorem apply_comm {first second : Setting} (different : first.part ≠ second.part)
    (locator : Locator) :
    (first.apply locator >>= fun after => second.apply after) =
      (second.apply locator >>= fun after => first.apply after) := by
  cases first with
  | addServer text => exact addServer_comm text (Ne.symm different) locator
  | _ =>
    cases second with
    | addServer text => exact (addServer_comm text different locator).symm
    | _ => first | rfl | exact absurd rfl different

end Setting

namespace Locator

variable {locator : Locator} {setting : Setting} {rest settings settings' : List Setting}

theorem withSettings_cons :
    locator.withSettings (setting :: rest) =
      setting.apply locator >>= fun after => after.withSettings rest := rfl

/-- **Changes of different parts lead to the same locator in any order.** -/
theorem withSettings_perm (perm : settings.Perm settings')
    (different : (settings.map Setting.part).Nodup) :
    locator.withSettings settings = locator.withSettings settings' := by
  induction perm generalizing locator with
  | nil => rfl
  | cons setting _ ih =>
    have later := (List.nodup_cons.1 different).2
    rw [withSettings_cons, withSettings_cons]
    exact congrArg _ (funext fun after => ih later)
  | swap first second rest =>
    have apart : second.part ≠ first.part := fun same =>
      (List.nodup_cons.1 different).1 (same ▸ List.mem_cons_self)
    simp only [withSettings_cons, ← bind_assoc]
    rw [Setting.apply_comm apart]
  | trans earlier _ ih ih' =>
    exact (ih different).trans (ih' ((earlier.map Setting.part).nodup_iff.1 different))

end Locator

namespace Session

/-- A locator in use whose settings are changed is the changed locator in use. -/
theorem run_change {session : Session} {settings : List Setting} {after : Locator}
    (changed : session.locator.withSettings settings = .ok after) :
    session.run (settings.map Step.change) = .ok { session with locator := after } := by
  induction settings generalizing session with
  | nil =>
    obtain rfl := Except.ok.inj changed
    rfl
  | cons setting rest ih =>
    rw [Locator.withSettings_cons, bind_eq_ok_iff] at changed
    obtain ⟨between, here, later⟩ := changed
    rw [List.map_cons, run_cons_iff]
    refine ⟨{ session with locator := between }, ?_, ih later⟩
    rw [next, here]
    rfl

/-- What is done after the settings are changed is done to the changed locator in use. -/
theorem run_change_append {session : Session} {settings : List Setting} {after : Locator}
    (changed : session.locator.withSettings settings = .ok after) (steps : List Step) :
    session.run (settings.map Step.change ++ steps) =
      ({ session with locator := after } : Session).run steps := by
  have first := run_change changed
  rw [run] at first ⊢
  rw [List.foldlM_append, first]
  rfl

end Session

end ServiceLocation
