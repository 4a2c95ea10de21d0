import ServiceSupervisor.Proofs.Past

/-!
Applications that differ in their teardowns alone.

Up to the end of the drain a run does not look at a teardown routine, at a deadline of either kind
or at the default one.  So two such applications run in the same way until then.

* `Application.withoutTeardown`: an application with all of that left out;
* `Run.gather_withoutTeardown`, `Run.isQuiet_withoutTeardown`: what does not depend on it;
* `Run.step?_twin`, `Run.steps?_twin`: a step and a schedule up to the end of the drain;
* `Run.initial_twin`: two such applications begin in the same way, but for what is on record of
  their registration;
* `Run.steps?_initial_twin`: so the same schedule leads both to the same state, but for that.
-/

namespace ServiceSupervisor

/-! ### Without teardowns -/

/-- The component without its teardown routine and the deadline that it prefers. -/
def Component.withoutTeardown (c : Component) : Component :=
  { c with advertised := none, teardown := fun _ => .done }

/-- The registration without what concerns its teardown. -/
def Registration.withoutTeardown (r : Registration) : Registration :=
  { r with component := r.component.withoutTeardown, explicit := none }

/-- The registrations without what concerns their teardowns. -/
def Registry.withoutTeardown (r : Registry) : Registry :=
  ⟨r.entries.map Registration.withoutTeardown⟩

/-- The application without what concerns its teardown. -/
def Application.withoutTeardown (app : Application) : Application :=
  { app with registry := app.registry.withoutTeardown, shutdownTimeout := .zero }

namespace Registry

variable (registry : Registry)

lemma getElem?_withoutTeardown (index : Nat) :
    registry.withoutTeardown.entries[index]?
      = registry.entries[index]?.map Registration.withoutTeardown :=
  List.getElem?_map ..

lemma size_withoutTeardown : registry.withoutTeardown.size = registry.size := List.length_map ..

/-- The jobs of a component do not belong to its teardown. -/
lemma schedulersOf_withoutTeardown :
    World.schedulersOf registry.withoutTeardown = World.schedulersOf registry := by
  rw [World.schedulersOf, World.schedulersOf, withoutTeardown, List.zipIdx_map, List.map_map]
  rfl

end Registry

namespace Startup

variable (registry : Registry) (index : Nat) (s : Startup) (w : World)

lemma launch_withoutTeardown : launch registry.withoutTeardown = launch registry := by
  rw [launch, launch, Registry.withoutTeardown, List.map_map]
  rfl

lemma watch_withoutTeardown :
    s.watch registry.withoutTeardown index w = s.watch registry index w := by
  rw [watch, watch, Registry.getElem?_withoutTeardown]
  cases registry.entries[index]? with
  | none => rfl
  | some entry =>
      cases s.entries[index]? with
      | none => rfl
      | some task =>
          cases task with
          | watched task => cases task <;> rfl
          | _ => rfl

lemma ready_withoutTeardown :
    s.ready registry.withoutTeardown w index = s.ready registry w index := by
  rw [ready, ready, Registry.getElem?_withoutTeardown]
  cases registry.entries[index]? with
  | none => rfl
  | some entry => cases s.entries[index]? <;> rfl

lemma poll_withoutTeardown :
    s.poll registry.withoutTeardown index w = s.poll registry index w := by
  rw [poll, poll, Registry.getElem?_withoutTeardown]
  cases registry.entries[index]? with
  | none => rfl
  | some entry => cases s.entries[index]? <;> rfl

end Startup

namespace Teardown

variable (registry : Registry) (t : Teardown) (w : World) (number : Nat)

/-- To whom a teardown routine in execution belongs is not forgotten. -/
lemma owner_withoutTeardown (task : TeardownTask) :
    owner registry.withoutTeardown task = owner registry task := by
  rw [owner, owner, Registry.getElem?_withoutTeardown, Option.map_map]
  rfl

lemma taskReady_withoutTeardown :
    t.taskReady registry.withoutTeardown w number = t.taskReady registry w number := by
  rw [taskReady, taskReady]
  cases t.tasks[number]? with
  | none => rfl
  | some task =>
      exact congrArg (fun owner => task.task.ready w owner) (owner_withoutTeardown registry task)

lemma pollTask_withoutTeardown :
    t.pollTask registry.withoutTeardown number w = t.pollTask registry number w := by
  rw [pollTask, pollTask]
  cases t.tasks[number]? with
  | none => rfl
  | some task => simp only [owner_withoutTeardown]

end Teardown

/-! ### Runs -/

namespace Run

section Erasure

variable (app : Application) (r : Run)

lemma launch_withoutTeardown : r.launch app.withoutTeardown = r.launch app := by
  have hregistry : app.withoutTeardown.registry = app.registry.withoutTeardown := rfl
  have hinstall : r.installListener app.withoutTeardown = r.installListener app := rfl
  rw [launch, launch, hinstall, hregistry, Startup.launch_withoutTeardown,
    Registry.size_withoutTeardown]

/-- **Up to the end of the drain** a poll does not look at anything that concerns the teardown. -/
theorem gather_withoutTeardown (patience : Nat) (prefers : Signal) :
    r.gather app.withoutTeardown patience prefers = r.gather app patience prefers := by
  rw [gather, gather, launch_withoutTeardown]
  rfl

lemma isQuiet_withoutTeardown : r.isQuiet app.withoutTeardown = r.isQuiet app := by
  have hsupervisor : r.supervisorReady app.withoutTeardown = r.supervisorReady app := rfl
  have hentries : r.readyEntries app.withoutTeardown = r.readyEntries app :=
    List.filter_congr fun index _ => r.startup.ready_withoutTeardown app.registry index r.world
  have hteardowns : r.readyTeardowns app.withoutTeardown = r.readyTeardowns app :=
    List.filter_congr fun number _ =>
      r.teardown.taskReady_withoutTeardown app.registry r.world number
  rw [isQuiet, isQuiet, hsupervisor, hentries, hteardowns]

/-- A step that is not the supervisor's does not look at it either. -/
lemma step?_withoutTeardown {label : Label}
    (hl : ∀ patience prefers, label ≠ .supervisor patience prefers) :
    r.step? app.withoutTeardown label = r.step? app label := by
  have hregistry : app.withoutTeardown.registry = app.registry.withoutTeardown := rfl
  cases label with
  | supervisor patience prefers => exact absurd rfl (hl patience prefers)
  | watch index => rw [step?, step?, hregistry, Startup.watch_withoutTeardown]
  | entry index =>
      rw [step?, step?, hregistry, Startup.ready_withoutTeardown, Startup.poll_withoutTeardown]
  | teardown number =>
      rw [step?, step?, hregistry, Teardown.taskReady_withoutTeardown,
        Teardown.pollTask_withoutTeardown]
  | job owner number fires => rfl
  | deliver => rfl
  | tick =>
      have hwake : r.nextWake app.withoutTeardown = r.nextWake app := rfl
      rw [step?, step?, isQuiet_withoutTeardown, hwake]

end Erasure

/-! ### The same run of two applications -/

section Twins

variable {app app' : Application} {r s : Run} (htwin : app.withoutTeardown = app'.withoutTeardown)

include htwin

lemma gather_twin (r : Run) (patience : Nat) (prefers : Signal) :
    r.gather app' patience prefers = r.gather app patience prefers := by
  rw [← gather_withoutTeardown app' r, ← htwin, gather_withoutTeardown]

lemma supervisorReady_twin (r : Run) : r.supervisorReady app' = r.supervisorReady app := by
  have herase : ∀ app : Application,
      r.supervisorReady app.withoutTeardown = r.supervisorReady app := fun _ => rfl
  rw [← herase app', ← htwin, herase]

/-- A step before the end of the drain is one of both. -/
lemma step?_twin {label : Label} (hr : r.isGathering = true) (hs : s.isGathering = true)
    (h : r.step? app label = some s) : r.step? app' label = some s := by
  rcases label.supervisor_or with ⟨patience, prefers, rfl⟩ | hl
  · obtain ⟨hready, h⟩ := Option.ite_none_right_eq_some.mp h
    obtain rfl := Option.some.inj h
    have hready' : r.supervisorReady app' = true := (supervisorReady_twin htwin r).trans hready
    -- Neither poll comes to the end of the drain, so all that both do is gather.
    have hopen : ∀ first drained, ¬ DrainOver first drained (r.gather app patience prefers) := by
      intro first drained hover
      rw [supervise_eq hr, hover.isGathering_conclude] at hs
      cases hs
    have hself : ∀ other : Application,
        r.gather other patience prefers = r.gather app patience prefers →
          r.supervise other patience prefers = r.gather app patience prefers := by
      intro other hgather
      rcases supervise_cases other hr patience prefers with ⟨first, drained, hover⟩ | ⟨hself, -⟩
      · exact absurd (hgather ▸ hover) (hopen first drained)
      · rw [hself, hgather]
    rw [step?, if_pos hready', hself app' (gather_twin htwin r patience prefers), hself app rfl]
  · rw [← h, ← step?_withoutTeardown app' r hl, ← htwin, step?_withoutTeardown app r hl]

/-- A schedule before the end of the drain is one of both. -/
theorem steps?_twin {labels : List Label} (hs : s.isGathering = true)
    (h : r.steps? app labels = some s) : r.steps? app' labels = some s := by
  induction labels generalizing r with
  | nil => exact h
  | cons label labels ih =>
      obtain ⟨next, hnext, hrest⟩ := Option.bind_eq_some_iff.mp h
      have hgathering := isGathering_of_steps? hs hrest
      rw [steps?, step?_twin htwin (isGathering_of_step? hgathering hnext) hgathering hnext]
      exact ih hrest

/-- The two begin in the same way, but for what is on record of the registration. -/
lemma initial_twin (signals : Signals) (wallClock : Nat → Timestamp) :
    Run.initial app' signals wallClock
      = (Run.initial app signals wallClock).unrecorded.withPast
          (Run.initial app' signals wallClock).world.trace := by
  have hschedulers : World.schedulersOf app'.registry = World.schedulersOf app.registry := by
    rw [← Registry.schedulersOf_withoutTeardown app'.registry,
      ← Registry.schedulersOf_withoutTeardown app.registry]
    exact congrArg (fun app : Application => World.schedulersOf app.registry) htwin.symm
  simp only [Run.initial, World.ofRegistry, World.emitAll_eq, hschedulers, withPast, unrecorded,
    World.withPast]
  rfl

/-- **A schedule up to the end of the drain** leads both to the same state, but for what is on
record of the registration. -/
theorem steps?_initial_twin {signals : Signals} {wallClock : Nat → Timestamp}
    {labels : List Label} (hr : r.isGathering = true)
    (h : (Run.initial app signals wallClock).steps? app labels = some r) :
    ∃ q : Run, r = q.withPast (Run.initial app signals wallClock).world.trace ∧
      (Run.initial app' signals wallClock).steps? app' labels
        = some (q.withPast (Run.initial app' signals wallClock).world.trace) := by
  rw [initial_twin rfl signals wallClock, steps?_withPast] at h
  obtain ⟨q, hq, rfl⟩ := Option.map_eq_some_iff.mp h
  have hgathering : q.isGathering = true := hr
  refine ⟨q, rfl, ?_⟩
  rw [initial_twin htwin signals wallClock, steps?_withPast, steps?_twin htwin hgathering hq]
  rfl

end Twins

end Run

end ServiceSupervisor
