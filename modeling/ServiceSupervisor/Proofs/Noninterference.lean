import ServiceSupervisor.Proofs.Termination
import ServiceSupervisor.Proofs.Twins

/-!
Teardowns do not influence the result.

Take two applications that differ in nothing but their teardown routines and the deadlines of these.
One schedule leads both to the end of the drain, in the same way; and then each returns, in its own
time, with the result that was fixed there.

* `Run.Ends`: how a run ends once its drain is over;
* `Run.DrainOver.ends`: every drain that is over makes the run end so, whatever the teardowns do;
* `Run.teardown_without_influence`: the theorem on two applications.
-/

namespace ServiceSupervisor

namespace Run

variable {app app' : Application} {r s q : Run} {start : Nat} {trigger : Option Culprit}
  {drained : List Exit}

/-- The poll that leads from the first state to the second comes to the end of the drain, and from
then on the run goes to its end.  What triggered the shutdown is a component at fault, or else the
external trigger; `past` is on record since before the run, and `happened` since then. -/
structure Ends (app : Application) (past happened : Trace) (trigger : Option Culprit)
    (drained : List Exit) (instant : Nat) (result : Option Culprit) (r s : Run) : Prop where
  /-- In the middle of the poll the drain is over, at an instant, and the rest of the poll goes on
  from there. -/
  drain : ∃ q, Moves app r q ∧ DrainOver trigger drained q ∧ s = q.drain app trigger drained ∧
    q.world.now = instant ∧ q.world.trace = happened ++ past
  /-- The first teardown is spawned at that instant. -/
  spawn : 0 < app.registry.size → s.world.trace.spawns.head?
    = some (instant, app.registry.turn 0,
        app.registry.deadlineAt app.shutdownTimeout (app.registry.turn 0))
  /-- Whatever the next steps are, the supervisor returns with this result, no later than all
  effective deadlines together after that instant. -/
  returns : Inevitably app (fun t => t.result? = some result ∧
    t.world.now ≤ instant + app.registry.totalDeadline app.shutdownTimeout) s

/-- A teardown that has begun at an instant has spawned its first routine then. -/
lemma Tearing.head_spawns (h : Tearing app start r) (hp : r.Parked)
    (hsize : 0 < app.registry.size) :
    r.world.trace.spawns.head? = some (start, app.registry.turn 0,
      app.registry.deadlineAt app.shutdownTimeout (app.registry.turn 0)) := by
  obtain ⟨p, hledger⟩ := h.ledger
  have hspawned : r.teardown.tasks.length ≠ 0 := by
    -- A coordinator at rest with something left to do has spawned what it waits for.
    intro hnone
    have hlength := hledger.books.length_eq
    have hover : r.teardown.isOver = false := by
      have hleft : r.teardown.remaining ≠ 0 := by omega
      simp [Teardown.isOver, hleft]
    have hidle : r.teardown.awaited.isSome = false := by
      simp [Teardown.isSome_awaited, List.length_eq_zero_iff.mp hnone]
    rw [Parked] at hp
    rcases h.works_of_not_over hover with ⟨first, hc⟩ | hc <;> simp [hc, hidle, hover] at hp
  obtain ⟨n, hn⟩ := Nat.exists_eq_succ_of_ne_zero hspawned
  rw [hledger.books.spawns_eq, ← hledger.origin, hn, List.range_succ_eq_map]
  rfl

/-- Once the drain is over the teardown begins, and takes no time for that. -/
lemma DrainOver.begins (ho : DrainOver trigger drained q) (hq : Reached app q) :
    Reached app (q.conclude app) ∧ (q.conclude app).Parked ∧
      Tearing app q.world.now (q.conclude app) ∧
      (q.conclude app).world.now = q.world.now ∧
      ((q.conclude app).control = .stopping (reportFailures trigger drained).1 ∨
        (q.conclude app).control = .returned (reportFailures trigger drained).1) := by
  have hjudge := hq.move (.judge ho.control ho.exits ho.reported)
  have htearing := hq.tearing_of_draining ho.control
  have hreports : (q.world.emitAll (reportFailures trigger drained).2).now = q.world.now := by
    rw [World.emitAll_eq]
  rw [ho.conclude_eq]
  generalize hbegun : ({ q with
    world := q.world.emitAll (reportFailures trigger drained).2
    teardown := q.teardown.begin_ app.registry } : Run) = begun
  subst hbegun
  obtain ⟨hmoves, hparked⟩ := tearDown_moves app (reportFailures trigger drained).1 _
  obtain ⟨-, hnow, hcontrol⟩ := tearDown_spec app (reportFailures trigger drained).1 _
  exact ⟨hjudge.moves hmoves, hparked, htearing.moves hmoves,
    hnow.trans ((Teardown.now_proceed ..).trans hreports), hcontrol⟩

/-- **From the end of the drain on** a run goes to its end, whatever its teardowns do. -/
theorem DrainOver.ends (ho : DrainOver trigger drained q) (hr : Reached app r) (hm : Moves app r q)
    {past happened : Trace} (htrace : q.world.trace = happened ++ past) :
    Ends app past happened trigger drained q.world.now (reportFailures trigger drained).1 r
      (q.conclude app) := by
  obtain ⟨hreached, hparked, htearing, hnow, hcontrol⟩ := ho.begins (hr.moves hm)
  have hdrain : q.conclude app = q.drain app trigger drained := by rw [conclude, ho.control]
  refine ⟨⟨q, hm, ho, hdrain, rfl, htrace⟩, htearing.head_spawns hparked, ?_⟩
  rcases hcontrol with hstopping | hreturned
  · exact Stopping.inevitably ⟨hreached, hparked, htearing, hstopping⟩
  · exact .now ⟨by rw [result?, hreturned], by rw [hnow]; exact Nat.le_add_right _ _⟩

/-- **Teardowns do not influence the result.**  Two applications have the same components in the
same order, with the same entry routines and recurring jobs, and the same trigger; their teardown
routines, their explicit and advertised deadlines and their default deadlines are arbitrary.  A
schedule that leads the first one to the end of its drain leads the second one to the end of its
drain, in the same way: with the same record of what happened, the same trigger and the same drained
exits.  The first teardown of each is spawned at the same instant; and whatever the next steps of
each are, it returns, no later than all its own effective deadlines together after that instant,
with the same result. -/
theorem teardown_without_influence (app app' : Application)
    (htwin : app.withoutTeardown = app'.withoutTeardown) (signals : Signals)
    (wallClock : Nat → Timestamp) (labels : List Label) (label : Label) (r s : Run)
    (hr : (Run.initial app signals wallClock).steps? app labels = some r)
    (hbefore : r.isGathering = true) (hs : r.step? app label = some s)
    (hafter : s.isGathering = false) :
    ∃ r' s' happened trigger drained instant result,
      (Run.initial app' signals wallClock).steps? app' labels = some r' ∧
      r'.step? app' label = some s' ∧
      Ends app (Run.initial app signals wallClock).world.trace happened trigger drained instant
        result r s ∧
      Ends app' (Run.initial app' signals wallClock).world.trace happened trigger drained instant
        result r' s' := by
  obtain ⟨q, rfl, hr'⟩ := steps?_initial_twin htwin hbefore hr
  have hreached := (reached_of_steps? hr).1
  have hreached' := (reached_of_steps? hr').1
  generalize (Run.initial app signals wallClock).world.trace = past at *
  generalize (Run.initial app' signals wallClock).world.trace = past' at *
  rcases label.supervisor_or with ⟨patience, prefers, rfl⟩ | hl
  · obtain ⟨hready, heq⟩ := Option.ite_none_right_eq_some.mp hs
    obtain rfl := Option.some.inj heq
    have hready' : (q.withPast past').supervisorReady app' = true :=
      supervisorReady_twin htwin q ▸ hready
    have hbefore' : (q.withPast past').isGathering = true := hbefore
    -- The middle of the poll is the same, but for what is on record since before the run.
    have hmid : (q.withPast past).gather app patience prefers
        = (q.gather app patience prefers).withPast past := gather_withPast ..
    have hmid' : (q.withPast past').gather app' patience prefers
        = (q.gather app patience prefers).withPast past' := by
      rw [gather_withPast, gather_twin htwin]
    have hmoves := gather_moves app patience prefers (q.withPast past)
    have hmoves' := gather_moves app' patience prefers (q.withPast past')
    rcases supervise_cases app hbefore patience prefers with ⟨trigger, drained, hover⟩ | ⟨-, hnot⟩
    · rw [hmid] at hmoves hover
      rw [hmid'] at hmoves'
      have hover' : DrainOver trigger drained ((q.gather app patience prefers).withPast past') :=
        ⟨hover.control, hover.exits, hover.reported⟩
      refine ⟨_, _, _, trigger, drained, _, _, hr', ?_, ?_, hover'.ends hreached' hmoves' rfl⟩
      · rw [step?, if_pos hready', supervise_eq hbefore', hmid']
      · rw [supervise_eq hbefore, hmid]
        exact hover.ends hreached hmoves rfl
    · rw [hnot] at hafter
      cases hafter
  · rw [isGathering, control_of_step? hl hs, ← isGathering, hbefore] at hafter
    cases hafter

end Run

/-- The same store and server with other teardowns: the store's takes a millisecond and then panics,
the server's never ends, and their deadlines are others. -/
def Application.stubborn : Application where
  registry := ⟨[
    { component :=
        { name := "store"
          advertised := some ⟨2⟩
          entry := .awaitCancel (.sleep ⟨1⟩ .done)
          teardown := fun _ => .sleep ⟨1⟩ (.stop (.panicked none)) }
      instanceId := 0
      explicit := none },
    { component :=
        { name := "server"
          entry := .sleep ⟨3⟩ (.stop (.failed { root := "boom" }))
          teardown := fun _ => .hang }
      instanceId := 1
      explicit := none }]⟩
  shutdownTimeout := ⟨7⟩
  trigger := .never

namespace Run

/-- The schedule of the store and the server up to the poll at which the drain ends. -/
def drainSchedule : List Label := storeAndServerSchedule.take 13

/-- The store and the server end with the same result, whichever teardowns they have. -/
theorem influence_of_stubborn :
    Application.storeAndServer.withoutTeardown = Application.stubborn.withoutTeardown ∧
      ∃ r s, (Run.initial .storeAndServer .fresh fun _ => 0).steps? .storeAndServer drainSchedule
          = some r ∧ r.isGathering = true ∧
        r.step? .storeAndServer (.supervisor 0 .interrupt) = some s ∧ s.isGathering = false ∧
        ∃ r' s' happened trigger drained instant result,
          (Run.initial .stubborn .fresh fun _ => 0).steps? .stubborn drainSchedule = some r' ∧
          r'.step? .stubborn (.supervisor 0 .interrupt) = some s' ∧
          Ends .storeAndServer (Run.initial .storeAndServer .fresh fun _ => 0).world.trace happened
            trigger drained instant result r s ∧
          Ends .stubborn (Run.initial .stubborn .fresh fun _ => 0).world.trace happened
            trigger drained instant result r' s' :=
  ⟨rfl, _, _, rfl, rfl, rfl, rfl, teardown_without_influence .storeAndServer .stubborn rfl .fresh
    (fun _ => 0) drainSchedule (.supervisor 0 .interrupt) _ _ rfl rfl rfl rfl⟩

end Run

end ServiceSupervisor
