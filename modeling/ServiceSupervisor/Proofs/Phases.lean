import ServiceSupervisor.Proofs.Beginnings

/-!
The phases of a run, and who cancels the shared token.

The supervisor shows how far it has come in two places: the visible phase and the token.  The
components hold the token as well, so that only the first of the two is the supervisor's own.

* `Trace.milestones`: the phases entered and the supervisor's own cancellation, in their order; in
  every state they are those of `Control.milestones` (`Run.Reached.milestones_eq`);
* `Run.Reached.told`: the trace tells whether the token is cancelled, and by whom;
* `Run.Reached.waiting`: a supervisor without a reason to leave the wait has not left it;
* `Run.Reached.shuttingDown_of_entry`: when an entry routine finds the token cancelled the run shuts
  down, unless a component has cancelled it;
* `Run.Reached.stopped_last`: the last phase is entered after everything else;
* `Run.no_spurious_shutdown`: the theorem on runs that nothing has called to an end;
* `Run.phases_in_order`: the theorem on phases and cancellation.
-/

namespace ServiceSupervisor

/-- The turns go through the places from the last one on. -/
lemma Registry.map_turn (registry : Registry) :
    (List.range registry.size).map registry.turn = (List.range registry.size).reverse := by
  refine List.ext_getElem (by simp) fun k hk hk' => ?_
  simp [turn]

/-! ### Milestones -/

/-- Whether an event is a phase or the supervisor's own cancellation of the shared token. -/
def Event.isMilestone : Event → Bool
  | .entered _ | .cancelled none => true
  | _ => false

/-- The milestones are the supervisor's. -/
lemma Event.isOfSupervisor_of_isMilestone (e : Event) (he : e.isMilestone = true) :
    e.isOfSupervisor = true := by
  cases e with
  | cancelled actor => cases actor <;> first | rfl | cases he
  | _ => first | rfl | cases he

/-- The phase that an event enters. -/
def Event.entered? : Event → Option Phase
  | .entered phase => some phase
  | _ => none

/-- The milestones of a supervisor that has come so far, each with the phase visible then, latest
first. -/
def Control.milestones : Control → List (Phase × Event)
  | .idle | .abandoned | .byHand => []
  | .waiting => [(.running, .entered .running), (.starting, .entered .starting)]
  | .draining _ _ | .stopping _ =>
    [(.shuttingDown, .cancelled none), (.shuttingDown, .entered .shuttingDown),
      (.running, .entered .running), (.starting, .entered .starting)]
  | .returned _ =>
    [(.stopped, .entered .stopped), (.shuttingDown, .cancelled none),
      (.shuttingDown, .entered .shuttingDown), (.running, .entered .running),
      (.starting, .entered .starting)]

namespace Trace

/-- The phases entered and the supervisor's own cancellation, each with the phase visible then,
latest first. -/
def milestones (tr : Trace) : List (Phase × Event) :=
  (tr.about Event.isMilestone).map fun x => (x.phase, x.event)

/-- The phases entered, in order. -/
def phases (tr : Trace) : List Phase := tr.reverse.filterMap fun x => x.event.entered?

@[simp] lemma milestones_cons (x : Record) (tr : Trace) :
    milestones (x :: tr)
      = if x.event.isMilestone then (x.phase, x.event) :: milestones tr else milestones tr := by
  rw [milestones, about_cons]
  split <;> rfl

/-- The supervisor's events tell which milestones there are. -/
lemma milestones_congr {tr tr' : Trace}
    (h : tr'.about Event.isOfSupervisor = tr.about Event.isOfSupervisor) :
    tr'.milestones = tr.milestones := by
  rw [milestones, milestones, ← about_about Event.isOfSupervisor_of_isMilestone tr', h,
    about_about Event.isOfSupervisor_of_isMilestone]

/-- The phases are read off the milestones. -/
lemma phases_eq (tr : Trace) :
    tr.phases = (tr.milestones.filterMap fun m => m.2.entered?).reverse := by
  have hother : ∀ x : Record, x.event.isMilestone = false → x.event.entered? = none := by
    rintro ⟨time, phase, event⟩ hx
    cases event <;> first | rfl | cases hx
  rw [phases, milestones, List.filterMap_map, List.filterMap_reverse]
  exact congrArg List.reverse (filterMap_about hother tr).symm

lemma mem_milestones {time : Nat} {phase : Phase} {event : Event} {tr : Trace}
    (hx : ⟨time, phase, event⟩ ∈ tr) (he : event.isMilestone = true) :
    (phase, event) ∈ tr.milestones :=
  List.mem_map.mpr ⟨_, mem_about.mpr ⟨hx, he⟩, rfl⟩

end Trace

namespace Run

variable {app : Application} {r r' : Run}

/-- **The milestones.**  In every state of a run the phases entered and the supervisor's own
cancellation are those that belong to what the supervisor does. -/
theorem Reached.milestones_eq (h : Reached app r) :
    r.world.trace.milestones = r.control.milestones := by
  have hnote : ∀ e : Event, e.isNote = true → e.isMilestone = false := by
    intro e he
    refine Bool.eq_false_iff.mpr fun hm => ?_
    have hsupervisor := e.isOfSupervisor_of_isMilestone hm
    rw [e.isOfSupervisor_of_isNote he] at hsupervisor
    cases hsupervisor
  induction h with
  | initial signals wallClock =>
      rw [Trace.milestones, about_initial signals wallClock hnote fun _ _ => rfl]
      rfl
  | @move r r' h hm ih =>
      cases hm.supervisorSide with
      | launch hc hr =>
          obtain ⟨signals, listener, seen, heq, hseen⟩ := launch_eq app r
          rw [hc] at ih
          rcases hseen with rfl | ⟨live, rfl⟩
          · simp [hr, heq, ih, Event.isMilestone, Control.milestones]
          · simp [hr, heq, ih, Event.isMilestone, Control.milestones]
      | fail exit exits culprit hc he hf hr =>
          rw [hc] at ih
          simp [hr, beginDrain, ih, Event.isMilestone, Control.milestones]
      | trigger prefers hc hd hr =>
          obtain ⟨signals, seen, heq, hseen⟩ := observeSignal_eq prefers r
          rw [hc] at ih
          rcases hseen with rfl | ⟨signal, rfl⟩
          · simp [hr, heq, beginDrain, ih, Event.isMilestone, Control.milestones]
          · simp [hr, heq, beginDrain, ih, Event.isMilestone, Control.milestones]
      | collect first drained hc hr =>
          rw [hc] at ih
          rw [hr]
          exact ih
      | judge first drained hc he hp hr =>
          have hview : (r.world.emitAll (reportFailures first drained).2).trace.about
              Event.isMilestone = r.world.trace.about Event.isMilestone :=
            r.world.about_emitAll (forall_reportFailures first drained fun _ _ => rfl)
          rw [hc] at ih
          rw [hr, Trace.milestones, hview]
          exact ih
      | finish first hc ho hr =>
          obtain ⟨signals, heq⟩ := finish_eq first r
          rw [hc] at ih
          simp [hr, heq, ih, Event.isMilestone, Control.milestones]
      | stay hc hphase hv hnow => rw [Trace.milestones_congr hv, hc, ih]
      | tick instant hq hp hn hr =>
          rw [hr]
          exact ih

/-- The supervisor cancels the token while it shuts the run down, and has left the wait then. -/
lemma Reached.of_cancelled (h : Reached app r) {time : Nat} {phase : Phase}
    (hx : ⟨time, phase, .cancelled none⟩ ∈ r.world.trace) :
    phase = .shuttingDown ∧ r.chosen?.isSome = true := by
  have hmem := Trace.mem_milestones hx rfl
  rw [h.milestones_eq] at hmem
  cases hc : r.control <;> simp [hc, Control.milestones] at hmem <;> simp [hmem, chosen?, hc]

/-! ### The token -/

/-- Every move that cancels the token records it. -/
lemma Move.told (hm : Move app r r') (h : r.world.Told) : r'.world.Told := by
  cases hm with
  | launch hc =>
      obtain ⟨signals, listener, seen, heq, hseen⟩ := launch_eq app r
      rw [heq]
      rcases hseen with rfl | ⟨live, rfl⟩
      · exact h.of_about rfl rfl
      · exact h.of_about rfl rfl
  | skim hc he hok => exact h
  | fail hc he hf => exact World.told_cancel _ none
  | trigger prefers hc hd => exact World.told_cancel _ none
  | collect hc => exact h
  | @judge first drained hc he hp =>
      exact h.emitAll (forall_reportFailures first drained fun _ _ => rfl)
  | coordinate hc hm => exact h.of_about (by cases hm <;> rfl) (by cases hm <;> rfl)
  | @finish first hc ho =>
      obtain ⟨signals, heq⟩ := finish_eq first r
      rw [heq]
      exact h.of_about rfl rfl
  | spawnEntry he ht => exact h.emit rfl
  | reportExit he ht => exact h.emit rfl
  | entry he ht hr hp => exact (EntryTask.advances_of_ready hr hp).told rfl (fun _ => rfl) h
  | teardown ht hr hp => exact (Task.advances_of_ready hr hp).told rfl (fun _ => rfl) h
  | job fires hr => exact (World.pollLoop_ripples _ _ _ fires).told h
  | deliver hw => exact h
  | tick hq hp hn => exact h

/-- In every state of a run the trace tells whether the token is cancelled. -/
theorem Reached.told (h : Reached app r) : r.world.Told := by
  induction h with
  | initial signals wallClock =>
      refine World.Told.emitAll ?_ fun event he => ?_
      · exact rfl
      · rcases mem_registrationEvents he with ⟨owner, note, rfl⟩ | ⟨name, explicit, rfl⟩
        · rfl
        · rfl
  | move _ hm ih => exact hm.told ih

/-- A cancelled token has been cancelled by a component or by the supervisor. -/
lemma Reached.exists_cancelled (h : Reached app r) (hc : r.world.cancelled = true) :
    ∃ time phase actor, ⟨time, phase, .cancelled actor⟩ ∈ r.world.trace := by
  rw [h.told] at hc
  obtain ⟨⟨time, phase, event⟩, hmem, he⟩ := List.any_eq_true.mp hc
  cases event <;> first | cases he
  exact ⟨time, phase, _, hmem⟩

/-- A supervisor that has left the wait has cancelled the token. -/
lemma Reached.cancelled_of_chosen (h : Reached app r) (hc : r.chosen?.isSome = true) :
    r.world.cancelled = true := by
  have hown : (Phase.shuttingDown, Event.cancelled none) ∈ r.world.trace.milestones := by
    rw [h.milestones_eq]
    rw [chosen?] at hc
    cases hcon : r.control <;> simp [hcon] at hc <;> simp [Control.milestones]
  obtain ⟨x, hx, heq⟩ := List.mem_map.mp hown
  obtain ⟨-, hevent⟩ := Prod.mk.inj heq
  rw [h.told]
  exact List.any_eq_true.mpr ⟨x, (Trace.mem_about.mp hx).1, by rw [hevent]; rfl⟩

/-- A cancellation is not taken back. -/
lemma Reached.cancelled_of_moves (h : Reached app r) (hm : Moves app r r')
    (hc : r.world.cancelled = true) : r'.world.cancelled = true := by
  induction hm with
  | refl => exact hc
  | @tail r' r'' hmoves hm ih =>
      obtain ⟨time, phase, actor, hmem⟩ := (h.moves hmoves).exists_cancelled ih
      rw [((h.moves hmoves).move hm).told]
      exact List.any_eq_true.mpr ⟨_, hm.grows.mem hmem, rfl⟩

/-! ### The wait -/

/-- A failure that the supervisor has chosen has happened. -/
lemma Reached.failed (h : Reached app r) {culprit : Culprit}
    (hf : r.chosen? = some (some culprit)) :
    ∃ time index, r.world.trace.FailsAt time index culprit.failure := by
  have hforeseen : r.foreseen = some culprit := by
    rw [chosen?] at hf
    split at hf
    · obtain rfl := Option.some.inj hf
      simp [foreseen, *]
    · obtain rfl := Option.some.inj hf
      simp [foreseen, *]
    · obtain rfl := Option.some.inj hf
      simp [foreseen, *]
    · cases hf
  have hforetold := h.foretold
  rw [Foretold, hforeseen] at hforetold
  obtain ⟨exit, hexit, hculprit⟩ := List.exists_of_findSome?_eq_some hforetold.symm
  obtain ⟨entry, -, -, hfails⟩ := h.failsAt_of_culprit hexit hculprit
  exact ⟨_, _, hfails⟩

/-- A supervisor that has begun and has seen neither the trigger nor a failure waits. -/
theorem Reached.waiting (h : Reached app r) (hbegun : r.control ≠ .idle)
    (hunresolved : ¬ Resolved app r)
    (hok : ∀ time index failure, ¬ r.world.trace.FailsAt time index failure) :
    r.control = .waiting := by
  have hnone : r.chosen? = none := by
    cases hf : r.chosen? with
    | none => rfl
    | some first =>
        cases first with
        | none => exact absurd (h.resolved hf) hunresolved
        | some culprit =>
            obtain ⟨time, index, hfails⟩ := h.failed hf
            exact absurd hfails (hok time index culprit.failure)
  have hstaffed := h.staffed
  cases hc : r.control with
  | idle => exact absurd hc hbegun
  | waiting => rfl
  | draining first drained => simp [chosen?, hc] at hnone
  | stopping first => simp [chosen?, hc] at hnone
  | returned first => simp [chosen?, hc] at hnone
  | abandoned => simp [Staffed, hc] at hstaffed
  | byHand => simp [Staffed, hc] at hstaffed

/-- **No spurious shutdown.**  In every state of a run after the launch in which the external
trigger has not resolved and no entry routine has failed or panicked, the run is in `Running`: the
supervisor has not cancelled the token, no teardown has been spawned and there is no result, however
many entry routines have returned; and if the token is cancelled a component has done it. -/
theorem no_spurious_shutdown (app : Application) (signals : Signals)
    (wallClock : Nat → Timestamp) (labels : List Label) (r : Run)
    (h : (Run.initial app signals wallClock).steps? app labels = some r)
    (hlaunched : r.control ≠ .idle) (hunresolved : ¬ Resolved app r)
    (hok : ∀ time index failure, ¬ r.world.trace.FailsAt time index failure) :
    r.world.phase = .running ∧
      (∀ time phase, ⟨time, phase, .cancelled none⟩ ∉ r.world.trace) ∧
      r.world.trace.spawns = [] ∧ r.result? = none ∧
      (r.world.cancelled = true →
        ∃ time phase actor, ⟨time, phase, .cancelled (some actor)⟩ ∈ r.world.trace) := by
  obtain ⟨hreached, -⟩ := reached_of_steps? h
  have hc := hreached.waiting hlaunched hunresolved hok
  have hown : ∀ time phase, ⟨time, phase, .cancelled none⟩ ∉ r.world.trace := by
    intro time phase hmem
    obtain ⟨-, hchosen⟩ := hreached.of_cancelled hmem
    simp [chosen?, hc] at hchosen
  refine ⟨?_, hown, ?_, ?_, fun hcancelled => ?_⟩
  · rw [hreached.phase_eq, hc, Control.phase]
  · by_contra hspawns
    obtain ⟨first, hstopping | hreturned⟩ := hreached.stopping_of_spawns hspawns
    · simp [hc] at hstopping
    · simp [hc] at hreturned
  · rw [result?, hc]
  · obtain ⟨time, phase, actor, hmem⟩ := hreached.exists_cancelled hcancelled
    cases actor with
    | none => exact absurd hmem (hown time phase)
    | some actor => exact ⟨time, phase, actor, hmem⟩

end Run

/-- A trace without failed ends has no failure. -/
lemma Trace.not_failsAt_of_all {tr : Trace}
    (h : (tr.all fun x => match x.event with
      | .entryEnded _ ending => ending.failure?.isNone
      | _ => true) = true) (time index : Nat) (failure : Failure) :
    ¬ tr.FailsAt time index failure := by
  intro hfails
  obtain ⟨phase, ending, hmem, hfailure⟩ := Trace.failsAt_iff.mp hfails
  have hnone := List.all_eq_true.mp h _ hmem
  simp [hfailure] at hnone

/-- A component that cancels the token itself and returns, one that returns because of that, and a
trigger that fires later. -/
def Application.quitters : Application where
  registry := ⟨[
    { component :=
        { name := "quitter"
          entry := .cancel .done
          teardown := fun _ => .done }
      instanceId := 0
      explicit := none },
    { component :=
        { name := "follower"
          entry := .awaitCancel .done
          teardown := fun _ => .done }
      instanceId := 1
      explicit := none }]⟩
  trigger := .atInstant 7

namespace Run

variable {app : Application} {r r' : Run}

/-- When the quitter has cancelled the token and both have returned the run is in `Running`. -/
theorem running_of_quitters : ∃ r,
    (Run.initial .quitters .fresh fun _ => 0).steps? .quitters
        [.supervisor 0 .interrupt, .watch 0, .watch 1, .entry 1, .entry 0, .entry 1, .watch 0,
          .watch 1, .supervisor 0 .interrupt] = some r ∧
      r.startup.allReported = true ∧ r.world.cancelled = true ∧ r.world.phase = .running ∧
      r.result? = none := by
  refine ⟨_, rfl, rfl, rfl, ?_⟩
  obtain ⟨hphase, -, -, hresult, -⟩ := no_spurious_shutdown .quitters .fresh (fun _ => 0)
    [.supervisor 0 .interrupt, .watch 0, .watch 1, .entry 1, .entry 0, .entry 1, .watch 0,
      .watch 1, .supervisor 0 .interrupt] _ rfl (by decide)
    (fun hresolved => by
      obtain ⟨time, hle, rfl⟩ := hresolved.fired
      exact absurd hle (by decide))
    (Trace.not_failsAt_of_all (by decide))
  exact ⟨hphase, hresult⟩

/-! ### Entry routines and phases -/

/-- An entry routine that can go on has not been reported. -/
lemma unreported_of_ready {index : Nat}
    (hr : r.startup.ready app.registry r.world index = true) :
    ∃ task, r.startup.entries[index]? = some task ∧ task.isReported = false := by
  rw [Startup.ready] at hr
  split at hr
  · rename_i entry task he ht
    refine ⟨task, ht, ?_⟩
    cases task <;> first | rfl | cases hr
  · cases hr

/-- An entry routine goes on while the supervisor waits or drains. -/
lemma Reached.open_of_ready (h : Reached app r) {index : Nat}
    (hr : r.startup.ready app.registry r.world index = true) (first : Option Culprit) :
    r.control ≠ .stopping first ∧ r.control ≠ .returned first := by
  obtain ⟨task, ht, hopen⟩ := unreported_of_ready hr
  exact h.staffed.open_of_unreported ht hopen first

/-- **What an entry routine sees.**  If no component has cancelled the token, an entry routine that
goes on and finds it cancelled does so in `ShuttingDown`. -/
theorem Reached.shuttingDown_of_entry (h : Reached app r) (hp : r.Parked) {index : Nat}
    (hs : r.step? app (.entry index) = some r')
    (hown : ∀ time phase actor, ⟨time, phase, .cancelled (some actor)⟩ ∉ r'.world.trace)
    (hc : r'.world.cancelled = true) : r.world.phase = .shuttingDown := by
  have hreached : Reached app r' := h.moves (step?_moves app hp hs).1
  obtain ⟨hr, hstep⟩ := Option.ite_none_right_eq_some.mp hs
  have hcontrol : r'.control = r.control := by rw [← Option.some.inj hstep]
  obtain ⟨time, phase, actor, hmem⟩ := hreached.exists_cancelled hc
  cases actor with
  | some actor => exact absurd hmem (hown time phase actor)
  | none =>
      -- The supervisor has left the wait, but it does not stop components before all have ended.
      obtain ⟨-, hchosen⟩ := hreached.of_cancelled hmem
      rw [chosen?, hcontrol] at hchosen
      have hopen := h.open_of_ready hr
      rw [h.phase_eq]
      cases hcon : r.control with
      | draining first drained => rfl
      | stopping first => exact absurd hcon (hopen first).1
      | returned first => exact absurd hcon (hopen first).2
      | idle => simp [hcon] at hchosen
      | waiting => simp [hcon] at hchosen
      | abandoned => simp [hcon] at hchosen
      | byHand => simp [hcon] at hchosen

/-! ### The last phase -/

/-- When the last phase is entered every registration has been reported, the last one first, and
every entry routine has begun once and ended once. -/
def StoppedLast (app : Application) (x : Record) (before : Trace) : Prop :=
  x.event = .entered .stopped →
    before.reports.map (fun report => report.2.1) = (List.range app.registry.size).reverse ∧
      ∀ place, place < app.registry.size → before.RanOnce place

/-- A teardown that is over has reported every registration, the last one first. -/
lemma Reached.reports_of_over (h : Reached app r) {first : Option Culprit}
    (hc : r.control = .stopping first) (ho : r.teardown.isOver = true) :
    r.world.trace.reports.map (fun report => report.2.1)
      = (List.range app.registry.size).reverse := by
  obtain ⟨_, _, -, -, htearing⟩ := h.tearing ⟨first, .inl hc⟩
  obtain ⟨p, hledger⟩ := htearing.ledger
  have hlength := hledger.isOver_iff.mp ho
  rw [hledger.books.reports_eq, List.map_map, hlength]
  exact app.registry.map_turn

/-- **The last phase comes last.** -/
theorem Reached.stopped_last (h : Reached app r) :
    r.world.trace.Always (StoppedLast app) := by
  have hother : ∀ (x : Record) (before : Trace), x.event ≠ .entered .stopped →
      StoppedLast app x before := fun x before hx he => absurd he hx
  induction h with
  | initial signals wallClock =>
      have hreached : Reached app (Run.initial app signals wallClock) := .initial signals wallClock
      have hnone : (Run.initial app signals wallClock).world.trace.about Event.isMilestone = [] :=
        List.map_eq_nil_iff.mp hreached.milestones_eq
      refine Trace.always_of_about hnone fun x before hx => hother x before fun he => ?_
      rw [he] at hx
      cases hx
  | @move r r' h hm ih =>
      have hadd : ∀ new : Trace, (∀ x ∈ new, x.event ≠ .entered .stopped) →
          Trace.Always (StoppedLast app) (new ++ r.world.trace) := fun new hnew =>
        Trace.always_append ih fun x hx before => hother x before (hnew x hx)
      cases hm.supervisorSide with
      | launch hc hr =>
          obtain ⟨signals, listener, seen, heq, hseen⟩ := launch_eq app r
          rw [hr, heq]
          refine hadd (_ :: _ :: _ :: seen) ?_
          rcases hseen with rfl | ⟨live, rfl⟩ <;> simp
      | fail exit exits culprit hc he hf hr =>
          rw [hr]
          exact hadd [_, _, _] (by simp)
      | trigger prefers hc hd hr =>
          obtain ⟨signals, seen, heq, hseen⟩ := observeSignal_eq prefers r
          rw [hr, heq]
          refine hadd (_ :: _ :: _ :: seen) ?_
          rcases hseen with rfl | ⟨signal, rfl⟩ <;> simp
      | collect first drained hc hr =>
          rw [hr]
          exact ih
      | judge first drained hc he hp hr =>
          have hevents : ∀ event ∈ (reportFailures first drained).2, event ≠ .entered .stopped :=
            forall_reportFailures first drained fun _ _ => by simp
          rw [hr, World.emitAll_eq]
          refine hadd _ fun x hx => ?_
          obtain ⟨event, hevent, rfl⟩ := List.mem_map.mp (List.mem_reverse.mp hx)
          exact hevents event hevent
      | finish first hc ho hr =>
          -- The one move that enters the last phase, with the entry routines collected before.
          obtain ⟨signals, heq⟩ := finish_eq first r
          rw [hr, heq]
          have hran : ∀ place, place < app.registry.size → r.world.trace.RanOnce place :=
            fun _ hplace => h.ranOnce ⟨first, .inl hc⟩ hplace
          exact ⟨hother _ _ (by simp), fun _ => ⟨h.reports_of_over hc ho, hran⟩, ih⟩
      | stay hc hphase hv hnow =>
          refine hm.grows.always hv (fun x before hx => hother x before fun he => ?_) ih
          rw [he] at hx
          cases hx
      | tick instant hq hp hn hr =>
          rw [hr]
          exact ih

/-! ### The theorem on phases and cancellation -/

/-- What a run shows of its phases and of the shared token. -/
structure PhaseAccount (app : Application) (r : Run) : Prop where
  /-- The phases entered are the first of the five, each entered once and in this order. -/
  inOrder : (Phase.idle :: r.world.trace.phases) <+:
    [.idle, .starting, .running, .shuttingDown, .stopped]
  /-- The visible phase is the one entered last. -/
  visible : (Phase.idle :: r.world.trace.phases).getLast? = some r.world.phase
  /-- The token does not go back to not cancelled. -/
  stays : ∀ labels r', r.steps? app labels = some r' → r.world.cancelled = true →
    r'.world.cancelled = true
  /-- The supervisor cancels it in `ShuttingDown`. -/
  own : ∀ time phase, ⟨time, phase, .cancelled none⟩ ∈ r.world.trace → phase = .shuttingDown
  /-- An entry routine that goes on and finds it cancelled does so in `ShuttingDown`, if no
  component has cancelled it. -/
  seen : ∀ index r', r.step? app (.entry index) = some r' →
    (∀ time phase actor, ⟨time, phase, .cancelled (some actor)⟩ ∉ r'.world.trace) →
      r'.world.cancelled = true → r.world.phase = .shuttingDown
  /-- In `Stopped` the end of every entry routine has been reported, and none goes on. -/
  still : r.world.phase = .stopped →
    r.startup.allReported = true ∧ ∀ index, r.step? app (.entry index) = none
  /-- When `Stopped` is entered every entry routine has ended and every registration has been
  reported. -/
  last : ∀ after x before, r.world.trace = after ++ x :: before → StoppedLast app x before
  /-- The result is delivered in `Stopped`. -/
  delivered : r.result?.isSome = true → r.world.phase = .stopped

/-- The phases entered and the visible one belong to what the supervisor does. -/
lemma Reached.phases_eq (h : Reached app r) :
    (Phase.idle :: r.world.trace.phases) <+: [.idle, .starting, .running, .shuttingDown, .stopped] ∧
      (Phase.idle :: r.world.trace.phases).getLast? = some r.world.phase := by
  have hstaffed := h.staffed
  rw [Trace.phases_eq, h.milestones_eq, h.phase_eq]
  cases hc : r.control with
  | idle => exact ⟨⟨_, rfl⟩, rfl⟩
  | waiting => exact ⟨⟨_, rfl⟩, rfl⟩
  | draining first drained => exact ⟨⟨_, rfl⟩, rfl⟩
  | stopping first => exact ⟨⟨_, rfl⟩, rfl⟩
  | returned first => exact ⟨⟨_, rfl⟩, rfl⟩
  | abandoned => simp [Staffed, hc] at hstaffed
  | byHand => simp [Staffed, hc] at hstaffed

/-- **Phases and cancellation.**  In every state of a run, whatever the components do and in
whatever order the tasks go on, the phases and the token are as their account says. -/
theorem phases_in_order (app : Application) (signals : Signals)
    (wallClock : Nat → Timestamp) (labels : List Label) (r : Run)
    (h : (Run.initial app signals wallClock).steps? app labels = some r) :
    PhaseAccount app r := by
  obtain ⟨hreached, hparked⟩ := reached_of_steps? h
  obtain ⟨horder, hvisible⟩ := hreached.phases_eq
  refine ⟨horder, hvisible, ?_, ?_, ?_, ?_, ?_, ?_⟩
  · intro labels r' hsteps hc
    exact hreached.cancelled_of_moves (steps?_moves app hparked hsteps).1 hc
  · intro time phase hmem
    exact (hreached.of_cancelled hmem).1
  · intro index r' hs hown hc
    exact hreached.shuttingDown_of_entry hparked hs hown hc
  · intro hphase
    rw [hreached.phase_eq] at hphase
    obtain ⟨first, hc⟩ := Control.eq_returned hphase
    have hstaffed := hreached.staffed
    rw [Staffed, hc] at hstaffed
    refine ⟨hstaffed.2, fun index => ?_⟩
    have hready : r.startup.ready app.registry r.world index ≠ true := fun hr =>
      (hreached.open_of_ready hr first).2 hc
    rw [step?, if_neg hready]
  · exact Trace.always_iff.mp hreached.stopped_last
  · intro hresult
    obtain ⟨first, hfirst⟩ := Option.isSome_iff_exists.mp hresult
    rw [hreached.phase_eq, control_of_result? hfirst, Control.phase]

/-- In the end the service of the store and the server has entered every phase. -/
theorem phases_of_storeAndServer : ∃ r,
    (Run.initial .storeAndServer .fresh fun _ => 0).steps? .storeAndServer storeAndServerSchedule
        = some r ∧
      PhaseAccount .storeAndServer r ∧
      r.world.trace.phases = [.starting, .running, .shuttingDown, .stopped] :=
  ⟨_, rfl, phases_in_order .storeAndServer .fresh (fun _ => 0) storeAndServerSchedule _ rfl, rfl⟩

end Run

end ServiceSupervisor
