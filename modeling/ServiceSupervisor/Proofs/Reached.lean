import ServiceSupervisor.Proofs.Gathering

/-!
Every step of a schedule as a sequence of moves.

* `Run.supervise_moves`: one poll of the supervisor;
* `Run.step?_moves`, `Run.steps?_moves`: one step of a schedule, and a schedule;
* `Run.Reached`: the states that moves lead to from the state before a run, which are those of every
  schedule (`Run.reached_of_steps?`);
* `Application.storeAndServer`: a small service, and a schedule of it, for the cases of theorems.
-/

namespace ServiceSupervisor

namespace Run

variable (app : Application)

/-! ### The supervisor -/

/-- One poll of the supervisor is a sequence of moves that ends parked. -/
lemma supervise_moves (patience : Nat) (prefers : Signal) (r : Run) (hp : r.Parked) :
    Moves app r (r.supervise app patience prefers) ∧
      (r.supervise app patience prefers).Parked := by
  by_cases hgathering : r.isGathering = true
  · rw [supervise_eq hgathering]
    have hmoves := gather_moves app patience prefers r
    have hafter := isGathering_gather app hgathering patience prefers
    obtain ⟨hmoves', hparked⟩ := conclude_moves app hafter
    exact ⟨hmoves.trans hmoves', hparked⟩
  rw [supervise]
  split
  case h_1 hc => exact absurd (by rw [isGathering, hc]) hgathering
  case h_2 hc => exact absurd (by rw [isGathering, hc]) hgathering
  case h_3 hc => exact absurd (by rw [isGathering, hc]) hgathering
  case h_4 first hc =>
      have hself : ({ r with control := .stopping first } : Run) = r := by rw [← hc]
      obtain ⟨hmoves, hparked⟩ := tearDown_moves app first r
      exact ⟨hself ▸ hmoves, hparked⟩
  case h_5 hc =>
      obtain ⟨hmoves, hend⟩ :=
        Teardown.proceed_moves app.registry app.shutdownTimeout r.teardown r.world
      exact ⟨coordinate_moves app (Or.inr hc) hmoves, by simpa only [Parked, hc] using hend⟩
  case h_6 => exact ⟨.refl, hp⟩
  case h_7 => exact ⟨.refl, hp⟩

/-! ### The tasks -/

/-- A poll of a watching task is at most one move. -/
lemma watch_moves (index : Nat) (r : Run) :
    Moves app r { r with
      startup := (r.startup.watch app.registry index r.world).1
      world := (r.startup.watch app.registry index r.world).2 } := by
  rw [Startup.watch]
  split
  case h_1 entry routine he ht => exact .single (.spawnEntry he ht)
  case h_2 entry ending he ht => exact .single (.reportExit he ht)
  case h_3 => exact .refl

/-- A poll of an entry routine is at most one move. -/
lemma entry_moves (index : Nat) (r : Run) :
    Moves app r { r with
      startup := (r.startup.poll app.registry index r.world).1
      world := (r.startup.poll app.registry index r.world).2 } := by
  rw [Startup.poll]
  split
  case h_1 entry task he ht =>
      split
      · exact .single (.entry he ht ‹_› rfl)
      · exact .refl
  case h_2 => exact .refl

/-- A poll of a teardown routine that is ready is one move. -/
lemma teardown_moves {number : Nat} {r : Run}
    (hr : r.teardown.taskReady app.registry r.world number = true) :
    Moves app r { r with
      teardown := (r.teardown.pollTask app.registry number r.world).1
      world := (r.teardown.pollTask app.registry number r.world).2 } := by
  rw [Teardown.taskReady] at hr
  rw [Teardown.pollTask]
  cases ht : r.teardown.tasks[number]? with
  | none => exact .refl
  | some task =>
      rw [ht] at hr
      exact .single (.teardown ht hr rfl)

/-! ### Schedules -/

/-- Whether the coordinator is at rest depends on the supervisor, on whom it waits for and on what
is left. -/
lemma Parked.of_teardown {r r' : Run} (hp : r.Parked) (hc : r'.control = r.control)
    (ha : r'.teardown.awaited.isSome = r.teardown.awaited.isSome)
    (hr : r'.teardown.remaining = r.teardown.remaining) : r'.Parked := by
  have hover : r'.teardown.isOver = r.teardown.isOver := by
    rw [Teardown.isOver, Teardown.isOver, hr, ← Option.not_isSome, ← Option.not_isSome, ha]
  rw [Parked, hc, ha, hover]
  exact hp

/-- A poll of a teardown routine leaves the coordinator at rest. -/
lemma parked_pollTask {r : Run} (hp : r.Parked) (number : Nat) (w : World) :
    Parked { r with
      teardown := (r.teardown.pollTask app.registry number r.world).1
      world := w } := by
  refine hp.of_teardown rfl ?_ ?_
  · rw [Teardown.pollTask]
    split
    · rfl
    · exact r.teardown.isSome_awaited_set number _
  · rw [Teardown.pollTask]
    split <;> rfl

/-- Every step of a schedule from a parked state is a sequence of moves to a parked one. -/
theorem step?_moves {r r' : Run} {label : Label} (hp : r.Parked)
    (h : r.step? app label = some r') : Moves app r r' ∧ r'.Parked := by
  cases label with
  | supervisor patience prefers =>
      obtain ⟨-, h⟩ := Option.ite_none_right_eq_some.mp h
      obtain rfl := Option.some.inj h
      exact supervise_moves app patience prefers r hp
  | watch index =>
      obtain ⟨-, h⟩ := Option.ite_none_right_eq_some.mp h
      obtain rfl := Option.some.inj h
      exact ⟨watch_moves app index r, hp.of_teardown rfl rfl rfl⟩
  | entry index =>
      obtain ⟨-, h⟩ := Option.ite_none_right_eq_some.mp h
      obtain rfl := Option.some.inj h
      exact ⟨entry_moves app index r, hp.of_teardown rfl rfl rfl⟩
  | teardown number =>
      obtain ⟨hr, h⟩ := Option.ite_none_right_eq_some.mp h
      obtain rfl := Option.some.inj h
      exact ⟨teardown_moves app hr, parked_pollTask app hp number _⟩
  | job owner number fires =>
      obtain ⟨hr, h⟩ := Option.ite_none_right_eq_some.mp h
      obtain rfl := Option.some.inj h
      exact ⟨.single (.job fires hr), hp.of_teardown rfl rfl rfl⟩
  | deliver =>
      obtain ⟨hw, h⟩ := Option.ite_none_left_eq_some.mp h
      obtain rfl := Option.some.inj h
      exact ⟨.single (.deliver (Bool.eq_false_iff.mpr hw)), hp.of_teardown rfl rfl rfl⟩
  | tick =>
      obtain ⟨hq, h⟩ := Option.ite_none_right_eq_some.mp h
      obtain ⟨instant, hn, rfl⟩ := Option.map_eq_some_iff.mp h
      exact ⟨.single (.tick hq hp hn), hp.of_teardown rfl rfl rfl⟩

/-- Every schedule from a parked state is a sequence of moves to a parked one. -/
theorem steps?_moves {r r' : Run} {labels : List Label} (hp : r.Parked)
    (h : r.steps? app labels = some r') : Moves app r r' ∧ r'.Parked := by
  induction labels generalizing r with
  | nil =>
      obtain rfl := Option.some.inj h
      exact ⟨.refl, hp⟩
  | cons label labels ih =>
      obtain ⟨next, hnext, hrest⟩ := Option.bind_eq_some_iff.mp h
      obtain ⟨hmoves, hparked⟩ := step?_moves app hp hnext
      obtain ⟨hmoves', hparked'⟩ := ih hparked hrest
      exact ⟨hmoves.trans hmoves', hparked'⟩

variable {app}

/-! ### The states of a run -/

/-- The states of a run, those in the middle of a poll included. -/
inductive Reached (app : Application) : Run → Prop
  | initial (signals : Signals) (wallClock : Nat → Timestamp) :
      Reached app (.initial app signals wallClock)
  | move {r r' : Run} (h : Reached app r) (hm : Move app r r') : Reached app r'

lemma Reached.moves {r r' : Run} (h : Reached app r) (hm : Moves app r r') : Reached app r' := by
  induction hm with
  | refl => exact h
  | tail _ hm ih => exact ih.move hm

/-- A schedule leads to a state of the run at which the coordinator is at rest. -/
theorem reached_of_steps? {signals : Signals} {wallClock : Nat → Timestamp} {labels : List Label}
    {r : Run} (h : (Run.initial app signals wallClock).steps? app labels = some r) :
    Reached app r ∧ r.Parked := by
  obtain ⟨hmoves, hparked⟩ := steps?_moves app (r := .initial app signals wallClock) trivial h
  exact ⟨(Reached.initial signals wallClock).moves hmoves, hparked⟩

end Run

/-! ### A small service -/

/-- A store whose teardown is given no time, and a server that fails after three milliseconds. -/
def Application.storeAndServer : Application where
  registry := ⟨[
    { component :=
        { name := "store"
          entry := .awaitCancel (.sleep ⟨1⟩ .done)
          teardown := fun _ => .done }
      instanceId := 0
      explicit := some .zero },
    { component :=
        { name := "server"
          entry := .sleep ⟨3⟩ (.stop (.failed { root := "boom" }))
          teardown := fun _ => .sleep ⟨2⟩ .done }
      instanceId := 1
      explicit := none }]⟩
  shutdownTimeout := ⟨5⟩
  trigger := .never

/-- A schedule on which the store and the server run until the supervisor returns. -/
def Run.storeAndServerSchedule : List Run.Label :=
  [.supervisor 0 .interrupt, .watch 0, .watch 1, .entry 0, .entry 1, .tick, .entry 1, .watch 1,
    .supervisor 0 .interrupt, .entry 0, .tick, .entry 0, .watch 0, .supervisor 0 .interrupt,
    .teardown 0, .tick, .teardown 0, .supervisor 0 .interrupt]

end ServiceSupervisor
