import ServiceSupervisor.Proofs.Exits
import ServiceSupervisor.Proofs.Phases

/-!
What ends the wait, and what the supervisor says of failures.

* `Trace.told`: what the records tell of something, in order;
* `Run.sight`, `Run.cause`: what the supervisor sees when it is polled while it waits, and what ends
  the wait on a schedule;
* `verdicts`: what is said of failures of which the first decides;
* `Run.Audited`: what has been said so far, together with what is left to judge, is what is to be
  said of the failures reported to the supervisor.  Every move keeps that (`Run.Reached.audited`);
* `Run.Reached.told_call_of_steps?`: what has been said of the end of the wait is what ended it;
* `Run.verdicts_of_returned`: what the supervisor has said when it has returned.
-/

namespace ServiceSupervisor

/-! ### What the records tell -/

/-- What an event says of the end of the wait. -/
def Event.call? : Event → Option Run.Sight
  | .shutdownRequested => some .triggered
  | .failureReported .beforeShutdown culprit => some (.failed culprit)
  | _ => none

/-- The failure that the supervisor reports in an event. -/
def Event.verdict? : Event → Option (Lateness × Culprit)
  | .failureReported lateness culprit => some (lateness, culprit)
  | _ => none

lemma Event.call?_eq_none (e : Event) (h : e.isOfSupervisor = false) : e.call? = none := by
  cases e <;> first | rfl | cases h

lemma Event.verdict?_eq_none (e : Event) (h : e.isOfSupervisor = false) : e.verdict? = none := by
  cases e <;> first | rfl | cases h

namespace Trace

variable {α : Type} {f : Event → Option α}

/-- What the records tell of something, in order. -/
def told (f : Event → Option α) (tr : Trace) : List α := tr.reverse.filterMap fun x => f x.event

@[simp] lemma told_append (tr tr' : Trace) : told f (tr ++ tr') = told f tr' ++ told f tr := by
  rw [told, List.reverse_append, List.filterMap_append]
  rfl

@[simp] lemma told_cons (x : Record) (tr : Trace) :
    told f (x :: tr) = told f tr ++ (f x.event).toList := by
  rw [← List.singleton_append, told_append]
  cases h : f x.event <;> simp [told, h]

/-- What only events of a kind tell of is told by their records. -/
lemma told_about {kind : Event → Bool} (hf : ∀ e, kind e = false → f e = none) (tr : Trace) :
    (tr.about kind).told f = tr.told f := by
  rw [told, told, List.filterMap_reverse, List.filterMap_reverse,
    filterMap_about fun x => hf x.event]

/-- Two traces with the same events of that kind tell the same of it. -/
lemma told_congr {kind : Event → Bool} {tr tr' : Trace} (hf : ∀ e, kind e = false → f e = none)
    (h : tr'.about kind = tr.about kind) : tr'.told f = tr.told f := by
  rw [← told_about hf tr', h, told_about hf]

/-- Events that happen are told in their order. -/
lemma told_emitAll (w : World) (events : List Event) :
    (w.emitAll events).trace.told f = w.trace.told f ++ events.filterMap f := by
  rw [World.emitAll_eq, told_append, told, told, List.reverse_reverse, List.filterMap_map]
  rfl

end Trace

/-! ### Verdicts -/

/-- What is said of failures of which the first decides, if that one comes so late. -/
def verdicts (lateness : Lateness) : List Culprit → List (Lateness × Culprit)
  | [] => []
  | culprit :: others => (lateness, culprit) :: others.map (Lateness.afterRequest, ·)

/-- After a failure has decided the drain says of all others that they came after it. -/
lemma filterMap_reportFailures_some (culprit : Culprit) (drained : List Exit) :
    (Run.reportFailures (some culprit) drained).2.filterMap Event.verdict?
      = (drained.filterMap Exit.culprit?).map (Lateness.afterRequest, ·) := by
  induction drained with
  | nil => rfl
  | cons exit exits ih =>
      rw [Run.reportFailures, List.filterMap_cons]
      cases exit.culprit? with
      | none => exact ih
      | some other => exact congrArg (_ :: ·) ih

/-- Otherwise the first failure in the drain decides. -/
lemma filterMap_reportFailures_none (drained : List Exit) :
    (Run.reportFailures none drained).2.filterMap Event.verdict?
      = verdicts .whileDraining (drained.filterMap Exit.culprit?) := by
  induction drained with
  | nil => rfl
  | cons exit exits ih =>
      rw [Run.reportFailures, List.filterMap_cons]
      cases exit.culprit? with
      | none => exact ih
      | some culprit => exact congrArg (_ :: ·) (filterMap_reportFailures_some culprit exits)

/-- The drain does not say that a failure ended the wait. -/
lemma filterMap_call?_reportFailures (first : Option Culprit) (drained : List Exit) :
    (Run.reportFailures first drained).2.filterMap Event.call? = [] := by
  induction drained generalizing first with
  | nil => rfl
  | cons exit exits ih =>
      rw [Run.reportFailures]
      cases exit.culprit? with
      | none => exact ih first
      | some culprit =>
          cases first with
          | none => exact ih (some culprit)
          | some earlier => exact ih (some earlier)

namespace Run

namespace Sight

/-- What has been seen, if anything. -/
def toList : Sight → List Sight
  | nothing => []
  | seen => [seen]

/-- How late the first failure comes when this has ended the wait. -/
def lateness : Sight → Lateness
  | failed _ => .beforeShutdown
  | _ => .whileDraining

/-- What a draining supervisor has seen: the failure that decides, or else the trigger. -/
def ofFirst : Option Culprit → Sight
  | some culprit => failed culprit
  | none => triggered

lemma ofFirst_eq_failed {first : Option Culprit} {culprit : Culprit}
    (h : ofFirst first = failed culprit) : first = some culprit := by
  cases first <;> cases h
  rfl

end Sight

/-- What is said before the drain and after it is what is said of all failures. -/
lemma verdicts_reportFailures (first : Option Culprit) (drained : List Exit) :
    first.toList.map (Lateness.beforeShutdown, ·)
        ++ (reportFailures first drained).2.filterMap Event.verdict?
      = verdicts (Sight.ofFirst first).lateness
          (first.toList ++ drained.filterMap Exit.culprit?) := by
  cases first with
  | none => exact filterMap_reportFailures_none drained
  | some culprit => exact congrArg (_ :: ·) (filterMap_reportFailures_some culprit drained)

variable {app : Application} {r r' : Run}

/-! ### The cause of the shutdown -/

/-- What the supervisor sees in a step of a schedule: nothing, unless it waits and is polled. -/
def sight (app : Application) (r : Run) : Label → Sight
  | .supervisor patience _ =>
    match r.control with
    | .idle => (look ((r.launch app).triggerDue app) patience (r.launch app).startup.exits).1
    | .waiting => (look (r.triggerDue app) patience r.startup.exits).1
    | _ => .nothing
  | _ => .nothing

/-- What ends the wait on a schedule: the first thing that the supervisor sees. -/
def cause (app : Application) : Run → List Label → Sight
  | _, [] => .nothing
  | r, label :: labels =>
    match r.sight app label with
    | .nothing =>
      match r.step? app label with
      | some next => next.cause app labels
      | none => .nothing
    | seen => seen

lemma cause_cons_of_nothing {label : Label} {labels : List Label}
    (hs : r.sight app label = .nothing) (h : r.step? app label = some r') :
    r.cause app (label :: labels) = r'.cause app labels := by
  rw [cause, hs]
  simp only [h]

lemma cause_cons_of_ne {label : Label} {labels : List Label} (hs : r.sight app label ≠ .nothing) :
    r.cause app (label :: labels) = r.sight app label := by
  rw [cause]
  cases h : r.sight app label with
  | nothing => exact absurd h hs
  | triggered => rfl
  | failed culprit => rfl

/-! ### What has been said -/

/-- The failures among the exits reported so far, in order. -/
def culprits (app : Application) (r : Run) : List Culprit :=
  (r.reportedExits app).filterMap Exit.culprit?

lemma culprits_congr (he : r'.reportedExits app = r.reportedExits app) :
    r'.culprits app = r.culprits app := by
  rw [culprits, culprits, he]

/-- What has been said of the end of the wait and of failures, and what is left to judge, fit the
failures among the exits reported so far. -/
def Audited (app : Application) (r : Run) : Prop :=
  match r.control with
  | .idle | .waiting =>
    r.world.trace.told Event.call? = [] ∧ r.world.trace.told Event.verdict? = [] ∧
      r.startup.exits.filterMap Exit.culprit? = r.culprits app
  | .draining first drained =>
    r.world.trace.told Event.call? = [.ofFirst first] ∧
      r.world.trace.told Event.verdict? = first.toList.map (Lateness.beforeShutdown, ·) ∧
      first.toList ++ (drained ++ r.startup.exits).filterMap Exit.culprit? = r.culprits app
  | .stopping first | .returned first =>
    ∃ cause, r.world.trace.told Event.call? = [cause] ∧
      r.world.trace.told Event.verdict? = verdicts cause.lateness (r.culprits app) ∧
      ∀ culprit, cause = .failed culprit → first = some culprit
  | .abandoned | .byHand => False

/-- Nothing is said, and nothing is reported to the supervisor. -/
lemma Audited.of_eq (h : Audited app r) (hc : r'.control = r.control)
    (hx : r'.startup.exits.filterMap Exit.culprit? = r.startup.exits.filterMap Exit.culprit?)
    (hv : r'.world.trace.about Event.isOfSupervisor = r.world.trace.about Event.isOfSupervisor)
    (he : r'.reportedExits app = r.reportedExits app) : Audited app r' := by
  have hculprits := culprits_congr he
  rw [Audited, hc, hculprits, Trace.told_congr Event.call?_eq_none hv,
    Trace.told_congr Event.verdict?_eq_none hv]
  simpa only [Audited, List.filterMap_append, hx] using h

/-- One more exit is reported, to a supervisor that has not judged yet. -/
lemma Audited.report {exit : Exit} (h : Audited app r) (hc : r'.control = r.control)
    (hs : r'.startup.exits = r.startup.exits ++ [exit])
    (hv : r'.world.trace.about Event.isOfSupervisor = r.world.trace.about Event.isOfSupervisor)
    (he : r'.reportedExits app = r.reportedExits app ++ [exit])
    (hopen : ∀ first, r.control ≠ .stopping first ∧ r.control ≠ .returned first) :
    Audited app r' := by
  have hculprits : r'.culprits app = r.culprits app ++ [exit].filterMap Exit.culprit? := by
    rw [culprits, he, List.filterMap_append, culprits]
  rw [Audited, hc, hs, hculprits, Trace.told_congr Event.call?_eq_none hv,
    Trace.told_congr Event.verdict?_eq_none hv]
  rw [Audited] at h
  cases hcon : r.control with
  | idle =>
      rw [hcon] at h
      obtain ⟨hcall, hverdict, hpending⟩ := h
      exact ⟨hcall, hverdict, by rw [List.filterMap_append, hpending]⟩
  | waiting =>
      rw [hcon] at h
      obtain ⟨hcall, hverdict, hpending⟩ := h
      exact ⟨hcall, hverdict, by rw [List.filterMap_append, hpending]⟩
  | draining first drained =>
      rw [hcon] at h
      obtain ⟨hcall, hverdict, hpending⟩ := h
      refine ⟨hcall, hverdict, ?_⟩
      rw [← List.append_assoc, List.filterMap_append, ← List.append_assoc, hpending]
  | stopping first => exact absurd hcon (hopen first).1
  | returned first => exact absurd hcon (hopen first).2
  | abandoned => simp [hcon] at h
  | byHand => simp [hcon] at h

/-- Before a run nothing has been said but what concerns the registration. -/
lemma told_initial {α : Type} {f : Event → Option α} (signals : Signals)
    (wallClock : Nat → Timestamp) (hn : ∀ e : Event, e.isNote = true → f e = none)
    (hr : ∀ name explicit, f (.registering name explicit) = none) :
    (initial app signals wallClock).world.trace.told f = [] := by
  have hnone : (initial app signals wallClock).world.trace.about (fun e => (f e).isSome) = [] :=
    about_initial signals wallClock (fun e he => by simp [hn e he]) fun _ _ => by simp [hr]
  exact Trace.told_congr (fun e he => by simpa using he) (hnone.trans Trace.about_nil.symm)

/-- **Every move keeps the audit.** -/
theorem Reached.audited (h : Reached app r) : Audited app r := by
  have hk := Event.isOfEntries_of_isOfSupervisor
  have hnote := Event.isOfSupervisor_of_isNote
  induction h with
  | initial signals wallClock =>
      refine ⟨told_initial signals wallClock (fun e he => ?_) fun _ _ => rfl,
        told_initial signals wallClock (fun e he => ?_) fun _ _ => rfl, ?_⟩
      · cases e <;> first | rfl | cases he
      · cases e <;> first | rfl | cases he
      · rw [culprits, reportedExits, entryTrace,
          about_initial signals wallClock Event.isOfEntries_of_isNote fun _ _ => rfl]
        rfl
  | @move r r' h hm ih =>
      cases hm with
      | launch hc =>
          obtain ⟨hempty, -⟩ : r.startup = .empty ∧ r.world.now = 0 := by
            simpa only [Staffed, hc] using h.staffed
          have hculprits : (r.launch app).culprits app = r.culprits app :=
            culprits_congr (reportedExits_congr (about_launch app r hk))
          rw [Audited, hc, hempty] at ih
          obtain ⟨hcall, hverdict, hpending⟩ := ih
          obtain ⟨signals, listener, seen, heq, hseen⟩ := launch_eq app r
          rw [Audited, hculprits, ← hpending, heq]
          rcases hseen with rfl | ⟨live, rfl⟩
          · simp [hcall, hverdict, Event.call?, Event.verdict?, Startup.launch, Startup.empty]
          · simp [hcall, hverdict, Event.call?, Event.verdict?, Startup.launch, Startup.empty]
      | @skim exit exits hc he hok =>
          refine ih.of_eq rfl ?_ rfl rfl
          rw [he, List.filterMap_cons, hok]
      | @fail exit exits culprit hc he hf =>
          rw [Audited, hc] at ih
          obtain ⟨hcall, hverdict, hpending⟩ := ih
          rw [he, List.filterMap_cons, hf] at hpending
          refine ⟨?_, ?_, hpending⟩
          · simp [beginDrain, hcall, Event.call?, Sight.ofFirst]
          · simp [beginDrain, hverdict, Event.verdict?]
      | trigger prefers hc hd =>
          have hculprits : (r.observeSignal prefers).culprits app = r.culprits app :=
            culprits_congr (reportedExits_congr (about_observeSignal prefers r hk))
          rw [Audited, hc, ← hculprits] at ih
          obtain ⟨hcall, hverdict, hpending⟩ := ih
          obtain ⟨signals, seen, heq, hseen⟩ := observeSignal_eq prefers r
          have hexits : (r.observeSignal prefers).startup.exits = r.startup.exits := by rw [heq]
          rw [← hexits] at hpending
          refine ⟨?_, ?_, hpending⟩
          · rcases hseen with rfl | ⟨signal, rfl⟩
            · simp [beginDrain, heq, hcall, Event.call?, Sight.ofFirst]
            · simp [beginDrain, heq, hcall, Event.call?, Sight.ofFirst]
          · rcases hseen with rfl | ⟨signal, rfl⟩
            · simp [beginDrain, heq, hverdict, Event.verdict?]
            · simp [beginDrain, heq, hverdict, Event.verdict?]
      | @collect first drained hc =>
          rw [Audited, hc] at ih
          obtain ⟨hcall, hverdict, hpending⟩ := ih
          exact ⟨hcall, hverdict, by rwa [List.append_nil]⟩
      | @judge first drained hc he hp =>
          rw [Audited, hc] at ih
          obtain ⟨hcall, hverdict, hpending⟩ := ih
          rw [he, List.append_nil] at hpending
          refine ⟨.ofFirst first, ?_, ?_, fun culprit hfailed => ?_⟩
          · rw [Trace.told_emitAll, filterMap_call?_reportFailures, List.append_nil, hcall]
          · rw [Trace.told_emitAll, hverdict, verdicts_reportFailures, hpending]
            refine congrArg _ (culprits_congr (reportedExits_congr ?_)).symm
            exact about_reportFailures first hk drained r.world
          · rw [reportFailures_fst, Sight.ofFirst_eq_failed hfailed]
            rfl
      | coordinate hc hm =>
          exact ih.of_eq rfl rfl (by cases hm <;> rfl) (reportedExits_congr hm.about_isOfEntries)
      | @finish first hc ho =>
          have hculprits : (r.finish first).culprits app = r.culprits app :=
            culprits_congr (reportedExits_congr (about_finish first r hk))
          rw [Audited, hc, ← hculprits] at ih
          obtain ⟨cause, hcall, hverdict, hfirst⟩ := ih
          obtain ⟨signals, heq⟩ := finish_eq first r
          have hc' : (r.finish first).control = .returned first := by rw [heq]
          rw [Audited, hc']
          refine ⟨cause, ?_, ?_, hfirst⟩
          · simp [heq, hcall, Event.call?]
          · rw [← hverdict]
            simp [heq, Event.verdict?]
      | spawnEntry he ht => exact ih.of_eq rfl rfl rfl rfl
      | @reportExit index entry ending he ht =>
          refine ih.report rfl rfl rfl ?_ (h.staffed.open_of_unreported ht rfl)
          simp [reportedExits, entryTrace, Event.isOfEntries, Record.exit?, Registry.nameAt, he]
      | entry he ht hr hp =>
          have hadv := EntryTask.advances_of_ready hr hp
          exact ih.of_eq rfl rfl (hadv.about_eq_of_other hnote rfl fun _ => rfl)
            (reportedExits_of_advances hadv)
      | teardown ht hr hp =>
          have hadv := Task.advances_of_ready hr hp
          exact ih.of_eq rfl rfl (hadv.about_eq_of_other hnote rfl fun _ => rfl)
            (reportedExits_congr
              (hadv.about_eq_of_other Event.isOfEntries_of_isNote rfl fun _ => rfl))
      | @job owner number fires hr =>
          have hrip := World.pollLoop_ripples r.world owner number fires
          exact ih.of_eq rfl rfl (hrip.about_eq hnote)
            (reportedExits_congr (hrip.about_eq Event.isOfEntries_of_isNote))
      | deliver hw => exact ih.of_eq rfl rfl rfl rfl
      | tick hq hp hn => exact ih.of_eq rfl rfl rfl rfl

/-! ### What ended the wait -/

/-- While the supervisor waits nothing has been said of the end of the wait. -/
lemma Reached.told_call_of_waiting (h : Reached app r)
    (hc : r.control = .idle ∨ r.control = .waiting) : r.world.trace.told Event.call? = [] := by
  have haudited := h.audited
  rw [Audited] at haudited
  rcases hc with hc | hc <;> rw [hc] at haudited <;> exact haudited.1

/-- Afterwards one thing has. -/
lemma Reached.told_call_of_chosen (h : Reached app r)
    (hc : ¬ (r.control = .idle ∨ r.control = .waiting)) :
    ∃ cause, r.world.trace.told Event.call? = [cause] := by
  have haudited := h.audited
  rw [Audited] at haudited
  cases hcon : r.control with
  | idle => exact absurd (.inl hcon) hc
  | waiting => exact absurd (.inr hcon) hc
  | draining first drained =>
      rw [hcon] at haudited
      exact ⟨_, haudited.1⟩
  | stopping first =>
      rw [hcon] at haudited
      exact haudited.imp fun _ h => h.1
  | returned first =>
      rw [hcon] at haudited
      exact haudited.imp fun _ h => h.1
  | abandoned => simp [hcon] at haudited
  | byHand => simp [hcon] at haudited

lemma Reached.length_told_call_le (h : Reached app r) :
    (r.world.trace.told Event.call?).length ≤ 1 := by
  by_cases hc : r.control = .idle ∨ r.control = .waiting
  · simp [h.told_call_of_waiting hc]
  · obtain ⟨cause, hcause⟩ := h.told_call_of_chosen hc
    simp [hcause]

/-- What has been said of the end of the wait is all that is said of it. -/
lemma Reached.told_call_of_moves (h : Reached app r) (hm : Moves app r r')
    (hne : r.world.trace.told Event.call? ≠ []) :
    r'.world.trace.told Event.call? = r.world.trace.told Event.call? := by
  induction hm with
  | refl => rfl
  | @tail q q' hmoves hm ih =>
      obtain ⟨-, new, htrace, -⟩ := hm.grows
      have hle := ((h.moves hmoves).move hm).length_told_call_le
      have hpos := List.length_pos_iff.mpr hne
      rw [htrace, Trace.told_append, ih, List.length_append] at hle
      have hnew : Trace.told Event.call? new = [] := List.eq_nil_of_length_eq_zero (by omega)
      rw [htrace, Trace.told_append, ih, hnew, List.append_nil]

variable (app) in
/-- A waiting supervisor that is polled goes on waiting, or drains because of what it has seen. -/
lemma control_gather_of_sight (hc : r.control = .idle ∨ r.control = .waiting) (patience : Nat)
    (prefers : Signal) :
    (r.gather app patience prefers).control = .waiting ∧
        r.sight app (.supervisor patience prefers) = .nothing ∨
      ∃ first drained, (r.gather app patience prefers).control = .draining first drained ∧
        r.sight app (.supervisor patience prefers) = .ofFirst first := by
  have hattend : ∀ q : Run, (q.attend app patience prefers).collect.control = .waiting ∧
        (look (q.triggerDue app) patience q.startup.exits).1 = .nothing ∨
      ∃ first drained, (q.attend app patience prefers).collect.control = .draining first drained ∧
        (look (q.triggerDue app) patience q.startup.exits).1 = .ofFirst first := by
    intro q
    rw [attend]
    generalize look (q.triggerDue app) patience q.startup.exits = seen
    obtain ⟨sight, exits⟩ := seen
    cases sight with
    | nothing => exact .inl ⟨rfl, rfl⟩
    | failed culprit => exact .inr ⟨some culprit, _, rfl, rfl⟩
    | triggered => exact .inr ⟨none, _, rfl, rfl⟩
  rw [gather, sight]
  rcases hc with hc | hc <;> simp only [hc] <;> exact hattend _

/-- A step says of the end of the wait what the supervisor sees in it. -/
lemma Reached.told_call_of_step? (h : Reached app r) (hp : r.Parked) {label : Label}
    (hs : r.step? app label = some r') : r'.world.trace.told Event.call?
      = r.world.trace.told Event.call? ++ (r.sight app label).toList := by
  have hmoves := (step?_moves app hp hs).1
  have hreached := h.moves hmoves
  by_cases hc : r.control = .idle ∨ r.control = .waiting
  · rw [h.told_call_of_waiting hc, List.nil_append]
    rcases label.supervisor_or with ⟨patience, prefers, rfl⟩ | hl
    · have hgathering : r.isGathering = true := by
        rw [isGathering]
        rcases hc with hc | hc <;> rw [hc]
      obtain ⟨-, hs⟩ := Option.ite_none_right_eq_some.mp hs
      obtain rfl := Option.some.inj hs
      rw [supervise_eq hgathering] at hreached ⊢
      have hgather := h.moves (gather_moves app patience prefers r)
      rcases control_gather_of_sight app hc patience prefers with
        ⟨hwaiting, hsight⟩ | ⟨first, drained, hdraining, hsight⟩
      · have hself : (r.gather app patience prefers).conclude app
            = r.gather app patience prefers := by
          rw [conclude, hwaiting]
        rw [hself, hgather.told_call_of_waiting (.inr hwaiting), hsight]
        rfl
      · have haudited := hgather.audited
        rw [Audited, hdraining] at haudited
        obtain ⟨hcall, -, -⟩ := haudited
        have hafter := isGathering_gather app hgathering patience prefers
        have hconclude := (conclude_moves app hafter).1
        rw [hgather.told_call_of_moves hconclude (by simp [hcall]), hcall, hsight]
        cases first <;> rfl
    · have hsight : r.sight app label = .nothing := by
        cases label with
        | supervisor patience prefers => exact absurd rfl (hl patience prefers)
        | _ => rfl
      rw [hsight, hreached.told_call_of_waiting (by rwa [control_of_step? hl hs])]
      rfl
  · obtain ⟨cause, hcause⟩ := h.told_call_of_chosen hc
    have hsight : r.sight app label = .nothing := by
      cases label with
      | supervisor patience prefers =>
          rw [sight]
          split
          · exact absurd (.inl ‹_›) hc
          · exact absurd (.inr ‹_›) hc
          · rfl
      | _ => rfl
    rw [h.told_call_of_moves hmoves (by simp [hcause]), hsight]
    exact (List.append_nil _).symm

/-- **What has been said of the end of the wait is what ended it.** -/
theorem Reached.told_call_of_steps? (h : Reached app r) (hp : r.Parked) {labels : List Label}
    (hs : r.steps? app labels = some r') : r'.world.trace.told Event.call?
      = r.world.trace.told Event.call? ++ (r.cause app labels).toList := by
  induction labels generalizing r with
  | nil =>
      obtain rfl := Option.some.inj hs
      exact (List.append_nil _).symm
  | cons label labels ih =>
      obtain ⟨next, hnext, hrest⟩ := Option.bind_eq_some_iff.mp hs
      obtain ⟨hmoves, hparked⟩ := step?_moves app hp hnext
      have hreached := h.moves hmoves
      have hstep := h.told_call_of_step? hp hnext
      by_cases hsight : r.sight app label = .nothing
      · rw [ih hreached hparked hrest, hstep, hsight, cause_cons_of_nothing hsight hnext]
        exact congrArg (· ++ _) (List.append_nil _)
      · have hsome : (r.sight app label).toList ≠ [] := by
          cases hseen : r.sight app label with
          | nothing => exact absurd hseen hsight
          | triggered => simp [Sight.toList]
          | failed culprit => simp [Sight.toList]
        rw [hreached.told_call_of_moves (steps?_moves app hparked hrest).1 (by simp [hstep, hsome]),
          hstep, cause_cons_of_ne hsight]

/-- A trigger that the supervisor has said to have fired has fired. -/
lemma Reached.fired_of_told (h : Reached app r)
    (hcall : .triggered ∈ r.world.trace.told Event.call?) : app.trigger.Fired r.world := by
  induction h with
  | initial signals wallClock =>
      rw [(Reached.initial signals wallClock).told_call_of_waiting (.inl rfl)] at hcall
      cases hcall
  | @move r r' h hm ih =>
      have hold : r'.world.trace.told Event.call? = r.world.trace.told Event.call? →
          app.trigger.Fired r'.world := fun heq => (ih (heq ▸ hcall)).mono hm.grows
      cases hm.supervisorSide with
      | launch hc hr =>
          obtain ⟨signals, listener, seen, heq, hseen⟩ := launch_eq app r
          refine hold ?_
          rw [hr, heq]
          rcases hseen with rfl | ⟨live, rfl⟩ <;> simp [Event.call?]
      | fail exit exits culprit hc he hf hr =>
          rw [hr] at hcall
          refine (ih ?_).mono hm.grows
          simpa [beginDrain, Event.call?] using hcall
      | trigger prefers hc hd hr =>
          rw [hr]
          exact (fired_of_triggerDue prefers hd).mono ⟨Nat.le_refl _, [_, _, _], rfl, by simp⟩
      | collect first drained hc hr => exact hold (by rw [hr])
      | judge first drained hc he hp hr =>
          refine hold ?_
          rw [hr, Trace.told_emitAll, filterMap_call?_reportFailures, List.append_nil]
      | finish first hc ho hr =>
          obtain ⟨signals, heq⟩ := finish_eq first r
          refine hold ?_
          rw [hr, heq]
          simp [Event.call?]
      | stay hc hphase hv hnow => exact hold (Trace.told_congr Event.call?_eq_none hv)
      | tick instant hq hp hn hr => exact hold (by rw [hr]; rfl)

/-- **What the supervisor has said when it has returned.**  The wait was ended by a failure, which
is the result then, or by the trigger, which has fired; and of the failures reported to it the
supervisor has said what belongs to that. -/
theorem verdicts_of_returned {signals : Signals} {wallClock : Nat → Timestamp}
    {labels : List Label} {first : Option Culprit}
    (h : (Run.initial app signals wallClock).steps? app labels = some r)
    (hc : r.control = .returned first) :
    r.world.trace.told Event.verdict?
        = verdicts ((Run.initial app signals wallClock).cause app labels).lateness
            (r.culprits app) ∧
      ((∃ culprit, (Run.initial app signals wallClock).cause app labels = .failed culprit ∧
          first = some culprit) ∨
        (Run.initial app signals wallClock).cause app labels = .triggered ∧
          app.trigger.Fired r.world) := by
  have hinitial : Reached app (Run.initial app signals wallClock) := .initial signals wallClock
  obtain ⟨hreached, -⟩ := reached_of_steps? h
  have hcause := hinitial.told_call_of_steps? trivial h
  rw [hinitial.told_call_of_waiting (.inl rfl), List.nil_append] at hcause
  have haudited := hreached.audited
  rw [Audited, hc] at haudited
  obtain ⟨cause, hcall, hverdict, hfirst⟩ := haudited
  rw [hcause] at hcall
  cases hcon : (Run.initial app signals wallClock).cause app labels with
  | nothing =>
      rw [hcon] at hcall
      cases hcall
  | triggered =>
      rw [hcon] at hcall hcause
      obtain rfl := (List.cons.inj hcall).1
      exact ⟨hverdict, .inr ⟨rfl, hreached.fired_of_told (hcause ▸ List.mem_cons_self)⟩⟩
  | failed culprit =>
      rw [hcon] at hcall
      obtain rfl := (List.cons.inj hcall).1
      exact ⟨hverdict, .inl ⟨culprit, rfl, hfirst culprit rfl⟩⟩

end Run

end ServiceSupervisor
