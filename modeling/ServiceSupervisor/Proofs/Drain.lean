import Mathlib.Order.Bounds.Basic
import ServiceSupervisor.Proofs.TeardownTiming
import ServiceSupervisor.Proofs.Verdict

/-!
No teardown before the drain is over, and no later than that.

* `Run.calls`, `Run.entryEnds`: the instants at which something calls for the shutdown, and those at
  which an entry routine ends;
* `Run.Reached.calls_ge`: while the supervisor waits nothing has called for the shutdown before now;
* `Run.Reached.called`: once it has left the wait the first call is fixed;
* `Run.Reached.drained`: a drain lasts until the last entry routine has ended, and no longer;
* `Run.Reached.tearing`: the teardown begins at the later of the two instants;
* `Run.Reached.spawns_after_ends`: when a teardown is spawned every entry routine has begun once and
  ended once;
* `Run.drain_before_teardown`: the theorem on the drain.
-/

namespace ServiceSupervisor

/-- Whether an event is the beginning or the end of the entry routine at a place. -/
def Event.runsEntry (index : Nat) : Event → Bool
  | .entryBegun i | .entryEnded i _ => i == index
  | _ => false

/-- The entry routine at a place has begun once and ended once after that, by returning or by a
panic. -/
def Trace.RanOnce (tr : Trace) (index : Nat) : Prop :=
  ∃ begun ended phase phase' ending, tr.about (Event.runsEntry index)
    = [⟨ended, phase', .entryEnded index ending⟩, ⟨begun, phase, .entryBegun index⟩]

/-- A routine whose end has been reported has begun once and ended once. -/
lemma EntryTask.Course.ranOnce {now index : Nat} {ending : Ending} {tr : Trace}
    (h : Course now index (some (.reported ending)) (tr.about (Event.concernsEntry index))) :
    tr.RanOnce index := by
  have hwider : ∀ e, Event.runsEntry index e = true → e.concernsEntry index = true := by
    intro e he
    cases e <;> first | exact he | cases he
  generalize hview : tr.about (Event.concernsEntry index) = view at h
  cases h with
  | @reported start time _ phase phase' phase'' hle hnow =>
      refine ⟨start, time, phase, phase', ending, ?_⟩
      rw [← Trace.about_about hwider, hview]
      simp [Event.runsEntry]

/-- The phase that is visible while the supervisor does something. -/
def Control.phase : Control → Phase
  | .idle | .abandoned | .byHand => .idle
  | .waiting => .running
  | .draining _ _ | .stopping _ => .shuttingDown
  | .returned _ => .stopped

/-- Only a supervisor that has returned has stopped. -/
lemma Control.eq_returned {control : Control} (h : control.phase = .stopped) :
    ∃ first, control = .returned first := by
  cases control <;> first | exact ⟨_, rfl⟩ | cases h

/-- Whether an event is the observation of a signal. -/
def Event.isObservation : Event → Bool
  | .signalObserved _ => true
  | _ => false

namespace Run

variable {app : Application} {r r' : Run}

/-! ### Instants -/

/-- The instants at which the trigger fires or an entry routine fails. -/
def calls (app : Application) (tr : Trace) : Set Nat :=
  {time | app.trigger.FiresAt tr time ∨ ∃ index failure, tr.FailsAt time index failure}

/-- The instants at which an entry routine ends. -/
def entryEnds (tr : Trace) : Set Nat :=
  {time | ∃ phase index ending, ⟨time, phase, .entryEnded index ending⟩ ∈ tr}

/-- A call stays a call. -/
lemma calls_mono {w w' : World} (h : w.Grows w') {time : Nat} (hcall : time ∈ calls app w.trace) :
    time ∈ calls app w'.trace := by
  rcases hcall with hfires | ⟨index, failure, hfails⟩
  · exact .inl (hfires.mono h)
  · obtain ⟨phase, ending, hmem, hfailure⟩ := Trace.failsAt_iff.mp hfails
    exact .inr ⟨index, failure, Trace.failsAt_iff.mpr ⟨phase, ending, h.mem hmem, hfailure⟩⟩

/-- A new call is made at the instant of the move. -/
lemma calls_of_grows {w w' : World} (h : w.Grows w') {time : Nat}
    (hcall : time ∈ calls app w'.trace) : time ∈ calls app w.trace ∨ time = w.now := by
  rcases hcall with hfires | ⟨index, failure, hfails⟩
  · exact (hfires.of_grows h).imp_left .inl
  · obtain ⟨phase, ending, hmem, hfailure⟩ := Trace.failsAt_iff.mp hfails
    refine (h.mem_or hmem).imp_left fun hold => .inr ⟨index, failure, ?_⟩
    exact Trace.failsAt_iff.mpr ⟨phase, ending, hold, hfailure⟩

/-- The first call stays the first one. -/
lemma isLeast_calls_of_grows {w w' : World} (h : w.Grows w') {time : Nat}
    (hleast : IsLeast (calls app w.trace) time) (hle : time ≤ w.now) :
    IsLeast (calls app w'.trace) time := by
  refine ⟨calls_mono h hleast.1, fun other hother => ?_⟩
  rcases calls_of_grows h hother with hold | rfl
  · exact hleast.2 hold
  · exact hle

/-! ### The wait -/

/-- While the supervisor waits it has observed no signal. -/
lemma Reached.unobserved (h : Reached app r) (hc : r.control = .idle ∨ r.control = .waiting) :
    r.world.trace.about Event.isObservation = [] := by
  have hwider : ∀ e : Event, e.isObservation = true → e.isOfSupervisor = true := by
    intro e he
    cases e <;> first | rfl | cases he
  induction h with
  | initial signals wallClock =>
      exact about_initial signals wallClock (fun e he => by cases e <;> first | rfl | cases he)
        fun _ _ => rfl
  | @move r r' h hm ih =>
      cases hm.supervisorSide with
      | launch hc' hr =>
          obtain ⟨signals, listener, seen, heq, hseen⟩ := launch_eq app r
          rw [hr, heq]
          rcases hseen with rfl | ⟨live, rfl⟩
          · exact ih (.inl hc')
          · exact ih (.inl hc')
      | fail exit exits culprit hc' he hf hr => simp [hr, beginDrain] at hc
      | trigger prefers hc' hd hr => simp [hr, beginDrain] at hc
      | collect first drained hc' hr => simp [hr] at hc
      | judge first drained hc' he hp hr => simp [hr] at hc
      | finish first hc' ho hr =>
          obtain ⟨signals, heq⟩ := finish_eq first r
          simp [hr, heq] at hc
      | stay hc' hphase hv hnow =>
          rw [← Trace.about_about hwider, hv, Trace.about_about hwider]
          exact ih (hc' ▸ hc)
      | tick instant hq hp hn hr =>
          subst hr
          exact ih hc

/-- While the supervisor waits and nothing can go on, a call can only be still to come: the instant
of the trigger, for which it waits. -/
lemma Reached.call_of_isQuiet (h : Reached app r) (hc : r.control = .waiting)
    (hq : r.isQuiet app = true) {time : Nat} (hcall : time ∈ calls app r.world.trace) :
    r.world.now < time ∧ time ∈ r.wakes app := by
  have hsupervisor := supervisorReady_of_isQuiet hq
  simp only [supervisorReady, hc, Bool.or_eq_false_iff] at hsupervisor
  obtain ⟨hdue, hexits⟩ := hsupervisor
  rcases hcall with hfires | ⟨index, failure, hfails⟩
  · cases htrigger : app.trigger with
    | never => simp [htrigger, Trigger.FiresAt] at hfires
    | atInstant instant =>
        obtain rfl : time = instant := by simpa [htrigger, Trigger.FiresAt] using hfires
        refine ⟨by simpa [triggerDue, htrigger] using hdue, ?_⟩
        simp [wakes, supervisorWakes, hc, htrigger]
    | signals =>
        rw [htrigger] at hfires
        obtain ⟨phase, signal, hmem⟩ := hfires
        have hnone := h.unobserved (.inr hc)
        have hview := Trace.mem_about.mpr (⟨hmem, rfl⟩ : _ ∧ Event.isObservation _ = true)
        rw [hnone] at hview
        cases hview
  · exfalso
    obtain ⟨phase, ending, hmem, hfailure⟩ := Trace.failsAt_iff.mp hfails
    rcases h.reported_or_over hmem with hexit | ⟨-, hover⟩
    · have hforetold := h.foretold
      have hnone : r.startup.exits = [] := by simpa using hexits
      rw [Foretold, foreseen, hc, hnone] at hforetold
      have hculprit := List.findSome?_eq_none_iff.mp hforetold.symm _ hexit
      simp [Exit.culprit?, Exit.failure?, hfailure] at hculprit
    · cases watchReady_of_isQuiet hq hover

/-- **The wait.**  While the supervisor waits nothing has called for the shutdown before now. -/
theorem Reached.calls_ge (h : Reached app r) (hc : r.control = .idle ∨ r.control = .waiting)
    {time : Nat} (hcall : time ∈ calls app r.world.trace) : r.world.now ≤ time := by
  induction h with
  | initial signals wallClock =>
      rw [now_initial]
      exact Nat.zero_le _
  | @move r r' h hm ih =>
      cases hm.supervisorSide with
      | launch hc' hr =>
          obtain ⟨-, hzero⟩ : r.startup = .empty ∧ r.world.now = 0 := by
            simpa only [Staffed, hc'] using h.staffed
          obtain ⟨signals, listener, seen, heq, -⟩ := launch_eq app r
          have hnow : r'.world.now = r.world.now := by rw [hr, heq]
          omega
      | fail exit exits culprit hc' he hf hr => simp [hr, beginDrain] at hc
      | trigger prefers hc' hd hr => simp [hr, beginDrain] at hc
      | collect first drained hc' hr => simp [hr] at hc
      | judge first drained hc' he hp hr => simp [hr] at hc
      | finish first hc' ho hr =>
          obtain ⟨signals, heq⟩ := finish_eq first r
          simp [hr, heq] at hc
      | stay hc' hphase hv hnow =>
          rw [hnow]
          rcases calls_of_grows hm.grows hcall with hold | rfl
          · exact ih (hc' ▸ hc) hold
          · exact Nat.le_refl _
      | tick instant hq hp hn hr =>
          -- The clock does not move past the call, for which the supervisor waits.
          subst hr
          have hne : r.control ≠ .idle := control_ne_idle_of_isQuiet hq
          have hwaiting : r.control = .waiting := hc.resolve_left hne
          have hold : time ∈ calls app r.world.trace := hcall
          obtain ⟨hlt, hwake⟩ := h.call_of_isQuiet hwaiting hq hold
          have hnext := le_of_nextWake hn hwake
          show max r.world.now instant ≤ time
          omega

/-! ### The call -/

/-- The failure that ends the wait happens at the instant at which the wait ends. -/
lemma Reached.call_of_failure (h : Reached app r) (hc : r.control = .waiting) {exit : Exit}
    {exits : List Exit} {culprit : Culprit} (he : r.startup.exits = exit :: exits)
    (hf : exit.culprit? = some culprit) : r.world.now ∈ calls app r.world.trace := by
  have hforetold := h.foretold
  rw [Foretold, foreseen, hc, he, List.findSome?_cons, hf] at hforetold
  obtain ⟨first, hfirst, hculprit, -⟩ :=
    Exit.earliest_of_findSome? h.pairwise_reportedExits hforetold.symm
  obtain ⟨-, -, -, hfails⟩ := h.failsAt_of_culprit hfirst hculprit
  have hcall : first.time ∈ calls app r.world.trace := .inr ⟨_, _, hfails⟩
  obtain ⟨phase, ending, hmem, -⟩ := Trace.failsAt_iff.mp hfails
  have hnow : first.time = r.world.now :=
    Nat.le_antisymm (h.chronological.1 _ hmem) (h.calls_ge (.inr hc) hcall)
  rwa [hnow] at hcall

/-- The trigger that ends the wait fires at the instant at which the wait ends. -/
lemma Reached.call_of_trigger (h : Reached app r) (hc : r.control = .waiting) (prefers : Signal)
    (hd : r.triggerDue app = true) :
    r.world.now ∈ calls app (r.observeSignal prefers).world.trace := by
  obtain ⟨signals, seen, heq, hseen⟩ := observeSignal_eq prefers r
  obtain ⟨time, hle, hfires⟩ := fired_of_triggerDue prefers hd
  have hnow : (r.observeSignal prefers).world.now = r.world.now := by rw [heq]
  rw [hnow] at hle
  have hgrows : r.world.Grows (r.observeSignal prefers).world := by
    rw [heq]
    refine ⟨Nat.le_refl _, seen, rfl, fun x hx => ?_⟩
    rcases hseen with rfl | ⟨signal, rfl⟩
    · cases hx
    · rw [List.mem_singleton.mp hx]
  have hcall : time ∈ calls app (r.observeSignal prefers).world.trace := .inl hfires
  rcases calls_of_grows hgrows hcall with hold | rfl
  · have hge := h.calls_ge (.inr hc) hold
    rwa [Nat.le_antisymm hle hge] at hcall
  · exact hcall

/-- The same, once the supervisor has acted on it. -/
lemma Reached.call_of_trigger_move (h : Reached app r) (hc : r.control = .waiting)
    (prefers : Signal) (hd : r.triggerDue app = true) :
    r.world.now ∈ calls app (beginDrain none
      { r.observeSignal prefers with
        world := (r.observeSignal prefers).world.emit .shutdownRequested }).world.trace := by
  obtain ⟨signals, seen, heq, -⟩ := observeSignal_eq prefers r
  have hgrows : (r.observeSignal prefers).world.Grows (beginDrain none
      { r.observeSignal prefers with
        world := (r.observeSignal prefers).world.emit .shutdownRequested }).world :=
    ⟨Nat.le_refl _, [_, _, _], rfl, by simp⟩
  exact calls_mono hgrows (h.call_of_trigger hc prefers hd)

/-- A wait that ends because of a call ends at the instant of the first call. -/
lemma Reached.isLeast_calls (h : Reached app r) (hm : Move app r r') (hc : r.control = .waiting)
    (hcall : r.world.now ∈ calls app r'.world.trace) :
    IsLeast (calls app r'.world.trace) r.world.now := by
  refine ⟨hcall, fun time htime => ?_⟩
  rcases calls_of_grows hm.grows htime with hold | rfl
  · exact h.calls_ge (.inr hc) hold
  · exact Nat.le_refl _

/-- **The call.**  Once the supervisor has left the wait the first call for the shutdown is
fixed. -/
theorem Reached.called (h : Reached app r) (hc : r.chosen?.isSome) :
    ∃ time, IsLeast (calls app r.world.trace) time ∧ time ≤ r.world.now := by
  induction h with
  | initial signals wallClock => cases hc
  | @move r r' h hm ih =>
      have hstay : r.chosen?.isSome →
          ∃ time, IsLeast (calls app r'.world.trace) time ∧ time ≤ r'.world.now := by
        intro hchosen
        obtain ⟨time, hleast, hle⟩ := ih hchosen
        exact ⟨time, isLeast_calls_of_grows hm.grows hleast hle, Nat.le_trans hle hm.grows.now_le⟩
      have hleave : r.control = .waiting → r.world.now ∈ calls app r'.world.trace →
          ∃ time, IsLeast (calls app r'.world.trace) time ∧ time ≤ r'.world.now := by
        intro hwaiting hcall
        exact ⟨r.world.now, h.isLeast_calls hm hwaiting hcall, hm.grows.now_le⟩
      have hmono : r.world.now ∈ calls app r.world.trace → r.world.now ∈ calls app r'.world.trace :=
        calls_mono hm.grows
      cases hm.supervisorSide with
      | launch hc' hr =>
          subst hr
          cases hc
      | fail exit exits culprit hc' he hf hr =>
          exact hleave hc' (hmono (h.call_of_failure hc' he hf))
      | trigger prefers hc' hd hr => exact hleave hc' (hr ▸ h.call_of_trigger_move hc' prefers hd)
      | collect first drained hc' hr => exact hstay (by simp [chosen?, hc'])
      | judge first drained hc' he hp hr => exact hstay (by simp [chosen?, hc'])
      | finish first hc' ho hr => exact hstay (by simp [chosen?, hc'])
      | stay hc' hphase hv hnow => exact hstay (by rwa [chosen?, hc'] at hc)
      | tick instant hq hp hn hr =>
          subst hr
          exact hstay hc

/-! ### The drain -/

/-- An end stays an end. -/
lemma entryEnds_mono {w w' : World} (h : w.Grows w') {time : Nat}
    (hend : time ∈ entryEnds w.trace) : time ∈ entryEnds w'.trace := by
  obtain ⟨phase, index, ending, hmem⟩ := hend
  exact ⟨phase, index, ending, h.mem hmem⟩

/-- While an entry routine has not been reported not all have. -/
lemma not_allReported_set {s : Startup} {index : Nat} {old new : EntryTask}
    (ht : s.entries[index]? = some old) (hnew : new.isReported = false) :
    ({ s with entries := s.entries.set index new } : Startup).allReported = false := by
  refine Bool.eq_false_iff.mpr fun hall => ?_
  have hset : (s.entries.set index new)[index]? = some new := by
    rw [getElem?_set_cases ht, if_pos rfl]
  rw [Startup.isReported_of_allReported hall hset] at hnew
  cases hnew

/-- **The drain.**  When every entry routine has been reported and the supervisor still drains, this
is the instant of the first call, or that of an end. -/
theorem Reached.drained (h : Reached app r) {first : Option Culprit} {drained : List Exit}
    (hc : r.control = .draining first drained) (hall : r.startup.allReported = true) :
    IsLeast (calls app r.world.trace) r.world.now ∨ r.world.now ∈ entryEnds r.world.trace := by
  induction h generalizing first drained with
  | initial signals wallClock => cases hc
  | @move r r' h hm ih =>
      have hstay : r.control = .draining first drained → r.startup.allReported = true →
          r'.world.now = r.world.now →
            IsLeast (calls app r'.world.trace) r'.world.now ∨
              r'.world.now ∈ entryEnds r'.world.trace := by
        intro hdraining hreported hnow
        rw [hnow]
        refine (ih hdraining hreported).imp (fun hleast => ?_) (entryEnds_mono hm.grows)
        exact isLeast_calls_of_grows hm.grows hleast (Nat.le_refl _)
      have hleave : r.control = .waiting → r.world.now ∈ calls app r'.world.trace →
          r'.world.now = r.world.now → IsLeast (calls app r'.world.trace) r'.world.now := by
        intro hwaiting hcall hnow
        rw [hnow]
        exact h.isLeast_calls hm hwaiting hcall
      have hmono : r.world.now ∈ calls app r.world.trace → r.world.now ∈ calls app r'.world.trace :=
        calls_mono hm.grows
      cases hm with
      | launch hc' => cases hc
      | skim hc' he hok => exact absurd (hc'.symm.trans hc) (by simp)
      | fail hc' he hf => exact .inl (hleave hc' (hmono (h.call_of_failure hc' he hf)) rfl)
      | trigger prefers hc' hd =>
          obtain ⟨signals, seen, heq, -⟩ := observeSignal_eq prefers r
          exact .inl (hleave hc' (h.call_of_trigger_move hc' prefers hd) (by rw [heq]; rfl))
      | collect hc' => exact ih hc' hall
      | judge hc' he hp => cases hc
      | coordinate hc' hm =>
          rcases hc' with ⟨first', hc'⟩ | hc'
          · exact absurd (hc'.symm.trans hc) (by simp)
          · exact absurd (hc'.symm.trans hc) (by simp)
      | @finish first' hc' ho =>
          obtain ⟨signals, heq⟩ := finish_eq first' r
          rw [heq] at hc
          cases hc
      | spawnEntry he ht => exact absurd hall (by rw [not_allReported_set ht rfl]; simp)
      | @reportExit index entry ending he ht =>
          have hcourse := h.course index
          rw [ht] at hcourse
          obtain ⟨phase, hmem⟩ := hcourse.ended_now
          have hend : r.world.now ∈ entryEnds r.world.trace :=
            ⟨phase, index, ending, (Trace.mem_about.mp hmem).1⟩
          exact .inr (entryEnds_mono (World.Grows.emit _ _) hend)
      | @entry index entry task polled w he ht hr hp =>
          have hopen : (task.withTask polled).isReported = false := by
            cases task <;> first | rfl | cases hr
          exact absurd hall (by rw [not_allReported_set ht hopen]; simp)
      | teardown ht hr hp => exact hstay hc hall (Task.advances_of_ready hr hp).now_eq
      | @job owner number fires hr =>
          exact hstay hc hall (World.pollLoop_ripples r.world owner number fires).now_eq
      | deliver hw => exact hstay hc hall rfl
      | tick hq hp hn =>
          have hcontrol : r.control = .draining first drained := hc
          have hreported : r.startup.allReported = true := hall
          have hsupervisor := supervisorReady_of_isQuiet hq
          simp [supervisorReady, hcontrol, Startup.hasPending, hreported] at hsupervisor

/-! ### The teardown of a run -/

/-- Before the teardown begins nothing has been torn down. -/
lemma Reached.untouched (h : Reached app r)
    (hc : ∀ first, r.control ≠ .stopping first ∧ r.control ≠ .returned first) :
    r.teardown = .empty ∧ r.world.trace.about Event.isOfTeardown = [] := by
  induction h with
  | initial signals wallClock =>
      exact ⟨rfl, about_initial signals wallClock Event.isOfTeardown_of_isNote fun _ _ => rfl⟩
  | @move r r' h hm ih =>
      have hstay : (∀ first, r.control ≠ .stopping first ∧ r.control ≠ .returned first) →
          r'.teardown = r.teardown →
          r'.world.trace.about Event.isOfTeardown = r.world.trace.about Event.isOfTeardown →
            r'.teardown = .empty ∧ r'.world.trace.about Event.isOfTeardown = [] := by
        intro hopen ht htr
        rw [ht, htr]
        exact ih hopen
      have hk := Event.isOfTeardown_of_isOfSupervisor
      cases hm with
      | launch hc' =>
          obtain ⟨signals, listener, seen, heq, -⟩ := launch_eq app r
          exact hstay (by simp [hc']) (by rw [heq]) (about_launch app r hk)
      | skim hc' he hok => exact hstay hc rfl rfl
      | fail hc' he hf => exact hstay (by simp [hc']) rfl rfl
      | trigger prefers hc' hd =>
          obtain ⟨signals, seen, heq, -⟩ := observeSignal_eq prefers r
          exact hstay (by simp [hc']) (by rw [heq]; rfl) (about_observeSignal prefers r hk)
      | collect hc' => exact hstay (by simp [hc']) rfl rfl
      | judge hc' he hp => exact absurd rfl (hc _).1
      | coordinate hc' hm =>
          rcases hc' with ⟨first, hc'⟩ | hc'
          · exact absurd hc' (hc first).1
          · have hstaffed := h.staffed
            rw [Staffed, hc'] at hstaffed
            exact hstaffed.elim
      | @finish first hc' ho =>
          obtain ⟨signals, heq⟩ := finish_eq first r
          exact absurd (by rw [heq]) (hc first).2
      | spawnEntry he ht => exact hstay hc rfl rfl
      | reportExit he ht => exact hstay hc rfl rfl
      | entry he ht hr hp =>
          exact hstay hc rfl ((EntryTask.advances_of_ready hr hp).about_eq_of_other
            Event.isOfTeardown_of_isNote rfl fun _ => rfl)
      | teardown ht hr hp =>
          rw [(ih hc).1] at ht
          cases ht
      | @job owner number fires hr =>
          exact hstay hc rfl ((World.pollLoop_ripples r.world owner number fires).about_eq
            Event.isOfTeardown_of_isNote)
      | deliver hw => exact hstay hc rfl rfl
      | tick hq hp hn => exact hstay hc rfl rfl

/-- The instants of the ends are read off the part of the trace about entry routines. -/
lemma entryEnds_congr {tr tr' : Trace}
    (h : tr'.about Event.isOfEntries = tr.about Event.isOfEntries) :
    entryEnds tr' = entryEnds tr := by
  have hmem : ∀ (tr : Trace) time phase index ending,
      (⟨time, phase, .entryEnded index ending⟩ : Record) ∈ tr.about Event.isOfEntries ↔
        ⟨time, phase, .entryEnded index ending⟩ ∈ tr := fun tr time phase index ending => by
    rw [Trace.mem_about]
    exact and_iff_left rfl
  ext time
  refine exists_congr fun phase => exists_congr fun index => exists_congr fun ending => ?_
  rw [← hmem, h, hmem]

/-- Once the teardown has begun nothing happens to the entry routines. -/
lemma Reached.entryTrace_frozen (h : Reached app r) (hm : Move app r r')
    (hc : ∃ first, r.control = .stopping first ∨ r.control = .returned first) :
    r'.entryTrace = r.entryTrace := by
  have hreported : ∀ (index : Nat) (task : EntryTask), r.startup.entries[index]? = some task →
      task.isReported = true := by
    intro index task ht
    obtain ⟨first, hc⟩ := hc
    by_contra hopen
    obtain ⟨hstopping, hreturned⟩ :=
      h.staffed.open_of_unreported ht (Bool.eq_false_iff.mpr hopen) first
    exact hc.elim hstopping hreturned
  cases hm.entrySide with
  | launch hidle hs hnow hv =>
      obtain ⟨first, hc⟩ := hc
      simp [hidle] at hc
  | spawn index routine ht hs hnow hv => cases hreported _ _ ht
  | report index entry ending he ht hs hx hnow hv => cases hreported _ _ ht
  | poll index owner task polled ht hr hs hadv =>
      have hdone := hreported _ _ ht
      cases task <;> first | cases hr | cases hdone
  | rest hs hv hnow => exact hv

/-- The books of a teardown that begins now are in order. -/
lemma Reached.tearing_of_draining (h : Reached app r) {first : Option Culprit}
    {drained : List Exit} (hc : r.control = .draining first drained) :
    Tearing app r.world.now { r with
      world := r.world.emitAll (reportFailures first drained).2
      teardown := r.teardown.begin_ app.registry
      control := .stopping (reportFailures first drained).1 } := by
  have hv := about_reportFailures first Event.isOfTeardown_of_isOfSupervisor drained r.world
  have hnow : (r.world.emitAll (reportFailures first drained).2).now = r.world.now := by
    rw [World.emitAll_eq]
  obtain ⟨hempty, hnone⟩ := h.untouched (by simp [hc])
  refine ⟨⟨⟨fun _ => r.world.now, fun _ => .timedOut⟩, ?_⟩, .inl ⟨_, rfl⟩⟩
  rw [hempty, ← hnow]
  exact .begin_ (hv.trans hnone)

/-- **The teardown of a run.**  It begins at the later of the instant of the first call and the
instant at which the last entry routine ended, and its books are in order. -/
theorem Reached.tearing (h : Reached app r)
    (hc : ∃ first, r.control = .stopping first ∨ r.control = .returned first) :
    ∃ time start, IsLeast (calls app r.world.trace) time ∧
      IsGreatest (insert time (entryEnds r.world.trace)) start ∧ Tearing app start r := by
  induction h with
  | initial signals wallClock => simp [Run.initial] at hc
  | @move r r' h hm ih =>
      have hstay : (∃ first, r.control = .stopping first ∨ r.control = .returned first) →
          ∃ time start, IsLeast (calls app r'.world.trace) time ∧
            IsGreatest (insert time (entryEnds r'.world.trace)) start ∧ Tearing app start r' := by
        intro hold
        obtain ⟨time, start, hleast, hgreatest, htearing⟩ := ih hold
        obtain ⟨time', hleast', hle⟩ := h.called (by
          obtain ⟨first, hold | hold⟩ := hold <;> simp [chosen?, hold])
        have htime : time ≤ r.world.now := Nat.le_trans (hleast.2 hleast'.1) hle
        refine ⟨time, start, isLeast_calls_of_grows hm.grows hleast htime, ?_, htearing.move hm⟩
        rw [entryEnds_congr (h.entryTrace_frozen hm hold)]
        exact hgreatest
      cases hm.supervisorSide with
      | launch hc' hr => simp [hr, Run.launch] at hc
      | fail exit exits culprit hc' he hf hr => simp [hr, beginDrain] at hc
      | trigger prefers hc' hd hr => simp [hr, beginDrain] at hc
      | collect first drained hc' hr => simp [hr] at hc
      | judge first drained hc' he hp hr =>
          have hx := about_reportFailures first Event.isOfEntries_of_isOfSupervisor drained r.world
          obtain ⟨time, hleast, hle⟩ := h.called (by simp [chosen?, hc'])
          refine ⟨time, r.world.now, isLeast_calls_of_grows hm.grows hleast hle, ⟨?_, ?_⟩, ?_⟩
          · refine (h.drained hc' hp).elim (fun hnow' => .inl ?_) fun hend => .inr ?_
            · exact Nat.le_antisymm (hnow'.2 hleast.1) hle
            · exact entryEnds_mono hm.grows hend
          · rw [hr, entryEnds_congr hx]
            rintro other (rfl | ⟨phase, index, ending, hmem⟩)
            · exact hle
            · exact h.chronological.1 _ hmem
          · rw [hr]
            exact h.tearing_of_draining hc'
      | finish first hc' ho hr => exact hstay ⟨first, .inl hc'⟩
      | stay hc' hphase hv hnow => exact hstay (by rwa [hc'] at hc)
      | tick instant hq hp hn hr =>
          subst hr
          exact hstay hc

/-! ### No teardown before the drain is over -/

/-- Once the teardown has begun every entry routine has begun once and ended once. -/
lemma Reached.ranOnce (h : Reached app r)
    (hc : ∃ first, r.control = .stopping first ∨ r.control = .returned first) {index : Nat}
    (hi : index < app.registry.size) : r.world.trace.RanOnce index := by
  have hstaffed : r.startup.entries.length = app.registry.size ∧ r.startup.allReported = true := by
    have hstaffed := h.staffed
    obtain ⟨first, hc | hc⟩ := hc <;> simpa only [Staffed, hc] using hstaffed
  obtain ⟨task, ht⟩ : ∃ task, r.startup.entries[index]? = some task :=
    ⟨_, List.getElem?_eq_getElem (hstaffed.1 ▸ hi)⟩
  have hreported := Startup.isReported_of_allReported hstaffed.2 ht
  have hcourse := h.course index
  rw [ht] at hcourse
  cases task with
  | reported ending => exact hcourse.ranOnce
  | unspawned routine => cases hreported
  | watched task => cases hreported
  | unwatched task => cases hreported

/-- A coordinator that is at work in a run works for the supervisor. -/
lemma Reached.stopping_of_works (h : Reached app r)
    (hc : (∃ first, r.control = .stopping first) ∨ r.control = .byHand) :
    ∃ first, r.control = .stopping first := by
  refine hc.resolve_right fun hc => ?_
  have hstaffed := h.staffed
  rw [Staffed, hc] at hstaffed
  exact hstaffed

/-- **The drain comes first.**  Whenever a teardown is spawned every entry routine has begun once
and ended once before. -/
theorem Reached.spawns_after_ends (h : Reached app r) :
    r.world.trace.Always fun x before => ∀ index deadline,
      x.event = .teardownSpawned index deadline →
        ∀ place, place < app.registry.size → before.RanOnce place := by
  have hother : ∀ (x : Record) (before : Trace), x.event.isOfCoordinator = false →
      ∀ index deadline, x.event = .teardownSpawned index deadline →
        ∀ place, place < app.registry.size → before.RanOnce place := by
    intro x before hx index deadline he
    rw [he] at hx
    cases hx
  induction h with
  | initial signals wallClock =>
      refine Trace.always_of_about ?_ hother
      exact about_initial signals wallClock Event.isOfCoordinator_of_isNote fun _ _ => rfl
  | @move r r' h hm ih =>
      cases hm.teardownSide with
      | @coordinate t w hc hmove hw =>
          obtain ⟨first, hc⟩ := h.stopping_of_works hc
          have hstopping : ∃ first, r.control = .stopping first ∨ r.control = .returned first :=
            ⟨first, .inl hc⟩
          rw [hw]
          cases hmove with
          | skip hr ha he => exact ih
          | spawn hr ha he hd => exact ⟨fun _ _ _ _ hi => h.ranOnce hstopping hi, ih⟩
          | expire hr ha he hd =>
              refine ⟨fun _ _ he => ?_, fun _ _ _ _ hi => h.ranOnce hstopping hi, ih⟩
              cases he
          | settle ha ho =>
              refine ⟨fun _ _ he => ?_, ih⟩
              cases he
      | poll number owner task polled ht hr hadv =>
          exact hm.grows.always
            (hadv.about_eq_of_other Event.isOfCoordinator_of_isNote rfl fun _ => rfl) hother ih
      | rest hv => exact hm.grows.always (Trace.about_isOfCoordinator_congr hv) hother ih

/-! ### The phases -/

/-- The visible phase is that of what the supervisor does. -/
theorem Reached.phase_eq (h : Reached app r) : r.world.phase = r.control.phase := by
  induction h with
  | initial signals wallClock =>
      rw [Run.initial, World.ofRegistry, World.emitAll_eq]
      rfl
  | @move r r' h hm ih =>
      cases hm.supervisorSide with
      | launch hc hr =>
          obtain ⟨signals, listener, seen, heq, -⟩ := launch_eq app r
          rw [hr, heq]
          rfl
      | fail exit exits culprit hc he hf hr => rw [hr]; rfl
      | trigger prefers hc hd hr => rw [hr]; rfl
      | collect first drained hc hr => simpa [hr, hc, Control.phase] using ih
      | judge first drained hc he hp hr => simpa [hr, World.emitAll_eq, hc, Control.phase] using ih
      | finish first hc ho hr =>
          obtain ⟨signals, heq⟩ := finish_eq first r
          rw [hr, heq]
          rfl
      | stay hc hphase hv hnow => rw [hphase, hc, ih]
      | tick instant hq hp hn hr =>
          rw [hr]
          exact ih

/-! ### The theorem on the drain -/

/-- A teardown is spawned only after the drain. -/
lemma Reached.stopping_of_spawns (h : Reached app r) (hs : r.world.trace.spawns ≠ []) :
    ∃ first, r.control = .stopping first ∨ r.control = .returned first := by
  by_contra hnot
  have hopen : ∀ first, r.control ≠ .stopping first ∧ r.control ≠ .returned first :=
    fun first => ⟨fun hc => hnot ⟨first, .inl hc⟩, fun hc => hnot ⟨first, .inr hc⟩⟩
  have hview : r.world.trace.about Event.isOfTeardown = Trace.about Event.isOfTeardown [] :=
    (h.untouched hopen).2
  exact hs (Trace.views_congr hview).1.1

/-- The first teardown is spawned at the instant at which the teardown begins. -/
lemma Reached.isGreatest_of_spawns (h : Reached app r) {start index : Nat} {deadline : Duration}
    {later : List (Nat × Nat × Duration)}
    (hs : r.world.trace.spawns = (start, index, deadline) :: later) :
    ∃ time, IsLeast (calls app r.world.trace) time ∧
      IsGreatest (insert time (entryEnds r.world.trace)) start := by
  obtain ⟨time, start', hleast, hgreatest, htearing⟩ :=
    h.tearing (h.stopping_of_spawns (by simp [hs]))
  obtain ⟨p, hledger⟩ := htearing.ledger
  have hfirst : r.world.trace.spawns[0]? = some (start, index, deadline) := by rw [hs]; rfl
  rw [hledger.books.spawns_eq, List.getElem?_map] at hfirst
  obtain ⟨k, hk, heq⟩ := Option.map_eq_some_iff.mp hfirst
  obtain rfl : 0 = k := by
    obtain ⟨hlt, hk⟩ := List.getElem?_eq_some_iff.mp hk
    rwa [List.getElem_range] at hk
  have hstart : start' = start := hledger.origin.symm.trans (congrArg Prod.fst heq)
  exact ⟨time, hleast, hstart ▸ hgreatest⟩

/-- As long as the shutdown has been called for, every entry routine has ended and no teardown has
been spawned, something can go on. -/
lemma Reached.not_isQuiet (h : Reached app r) (hp : r.Parked) (hsize : 0 < app.registry.size)
    {time : Nat} (hcall : time ∈ calls app r.world.trace) (hle : time ≤ r.world.now)
    (hends : ∀ place, place < app.registry.size → ∃ time phase ending,
      ⟨time, phase, .entryEnded place ending⟩ ∈ r.world.trace)
    (hnone : r.world.trace.spawns = []) : r.isQuiet app ≠ true := by
  intro hq
  have hstaffed := h.staffed
  cases hc : r.control with
  | idle => exact control_ne_idle_of_isQuiet hq hc
  | waiting =>
      have hlt := (h.call_of_isQuiet hc hq hcall).1
      omega
  | draining first drained =>
      have hall : r.startup.allReported = true := by
        refine List.all_eq_true.mpr fun task htask => ?_
        obtain ⟨place, ht⟩ := List.mem_iff_getElem?.mp htask
        have hplace : place < app.registry.size := by
          rw [Staffed, hc] at hstaffed
          rw [← hstaffed]
          exact (List.getElem?_eq_some_iff.mp ht).1
        obtain ⟨time', phase, ending, hmem⟩ := hends place hplace
        obtain ⟨ending', hreported⟩ := (h.course place).reported_of_ended
          (Trace.mem_about.mpr ⟨hmem, by simp [Event.concernsEntry]⟩)
          fun task' ht' => watchReady_of_isQuiet hq ht'
        obtain rfl := Option.some.inj (ht.symm.trans hreported)
        rfl
      have hsupervisor := supervisorReady_of_isQuiet hq
      simp [supervisorReady, hc, Startup.hasPending, hall] at hsupervisor
  | stopping first =>
      obtain ⟨_, _, -, -, htearing⟩ := h.tearing ⟨first, .inl hc⟩
      have htasks := htearing.tasks_eq_nil hnone
      rw [Parked, hc] at hp
      rw [Teardown.isSome_awaited, htasks] at hp
      simp at hp
  | returned first =>
      obtain ⟨_, _, -, -, htearing⟩ := h.tearing ⟨first, .inr hc⟩
      have htasks := htearing.tasks_eq_nil hnone
      obtain ⟨p, hledger⟩ := htearing.ledger
      have hlength := hledger.books.length_eq
      have hover := htearing.isOver_of_returned hc
      simp only [Teardown.isOver, Bool.and_eq_true, decide_eq_true_eq] at hover
      rw [htasks, hover.1, List.length_nil] at hlength
      omega
  | abandoned => simp [Staffed, hc] at hstaffed
  | byHand => simp [Staffed, hc] at hstaffed

/-- **Drain before teardown.**  In every run, whatever the entry routines do and in whatever order
the tasks go on: no teardown is spawned before every entry routine has begun once and ended once;
the first teardown is spawned at the later of the instant of the first call for the shutdown and the
instant at which the last entry routine ended; it is spawned at that instant, for when nothing more
can go on at an instant at which the shutdown has been called for and every entry routine has ended,
a teardown has been spawned; and while some entry routine has not ended there is no teardown and the
run has not stopped. -/
theorem drain_before_teardown (app : Application) (signals : Signals)
    (wallClock : Nat → Timestamp) (labels : List Label) (r : Run)
    (h : (Run.initial app signals wallClock).steps? app labels = some r) :
    (∀ after x (before : Trace), r.world.trace = after ++ x :: before →
        ∀ index deadline, x.event = .teardownSpawned index deadline →
          ∀ place, place < app.registry.size → before.RanOnce place) ∧
      (∀ start index deadline later, r.world.trace.spawns = (start, index, deadline) :: later →
        ∃ time, IsLeast (calls app r.world.trace) time ∧
          IsGreatest (insert time (entryEnds r.world.trace)) start) ∧
      (r.isQuiet app = true → 0 < app.registry.size →
        (∃ time ∈ calls app r.world.trace, time ≤ r.world.now) →
          (∀ place, place < app.registry.size → ∃ time phase ending,
            ⟨time, phase, .entryEnded place ending⟩ ∈ r.world.trace) →
              r.world.trace.spawns ≠ []) ∧
      ∀ place, place < app.registry.size →
        (∀ time phase ending, ⟨time, phase, .entryEnded place ending⟩ ∉ r.world.trace) →
          r.world.trace.spawns = [] ∧ r.world.phase ≠ .stopped := by
  obtain ⟨hreached, hparked⟩ := reached_of_steps? h
  refine ⟨Trace.always_iff.mp hreached.spawns_after_ends, ?_, ?_, ?_⟩
  · intro start index deadline later hspawns
    exact hreached.isGreatest_of_spawns hspawns
  · rintro hq hsize ⟨time, hcall, hle⟩ hends hnone
    exact hreached.not_isQuiet hparked hsize hcall hle hends hnone hq
  · intro place hplace hopen
    have hbefore : ¬ ∃ first, r.control = .stopping first ∨ r.control = .returned first := by
      intro hc
      obtain ⟨begun, ended, phase, phase', ending, hview⟩ := hreached.ranOnce hc hplace
      have hmem : (⟨ended, phase', .entryEnded place ending⟩ : Record) ∈ r.world.trace := by
        refine (Trace.mem_about.mp (?_ : _ ∈ r.world.trace.about (Event.runsEntry place))).1
        rw [hview]
        exact List.mem_cons_self
      exact hopen _ _ _ hmem
    refine ⟨by_contra fun hspawns => hbefore (hreached.stopping_of_spawns hspawns), ?_⟩
    rw [hreached.phase_eq]
    intro hphase
    obtain ⟨first, hc⟩ := Control.eq_returned hphase
    exact hbefore ⟨first, .inr hc⟩

/-- The server fails after three milliseconds, the store ends one later, and then the first teardown
is spawned. -/
theorem drain_of_storeAndServer : ∃ r,
    (Run.initial .storeAndServer .fresh fun _ => 0).steps? .storeAndServer storeAndServerSchedule
        = some r ∧
      ∃ time, IsLeast (calls .storeAndServer r.world.trace) time ∧
        IsGreatest (insert time (entryEnds r.world.trace)) 4 :=
  ⟨_, rfl, (drain_before_teardown .storeAndServer .fresh (fun _ => 0)
    storeAndServerSchedule _ rfl).2.1 4 1 ⟨5⟩ [(6, 0, .zero)] rfl⟩

end Run

end ServiceSupervisor
