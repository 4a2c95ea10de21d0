import Mathlib.Algebra.BigOperators.Group.Finset.Basic
import ServiceSupervisor.Proofs.Ledger

/-!
The order, the deadlines, the outcomes and the instants of a teardown.

* `Run.Tearing`: the coordinator works, or has worked, through a teardown that fits its ledger.
  Every move of a run keeps that (`Run.Tearing.move`);
* `Registry.waited`, `Registry.turnInstant`: how long the coordinator waits at each turn, and the
  instant of the turn: the sum of the waits before it;
* `Stage.span?_of_takes`: a routine that looks at nothing but the clock takes the time that it has
  to take;
* `TeardownAccount`: all that holds of a teardown, `Run.Tearing.account`;
* `Run.teardown_account`: the theorem on a teardown that is called by hand.
-/

namespace ServiceSupervisor

namespace Run

variable {app : Application} {start : Nat} {r r' : Run}

/-! ### What a move does to a teardown -/

/-- The second state comes from the first by a move, as far as the teardown is recorded. -/
inductive TeardownSide (app : Application) (r r' : Run) : Prop
  /-- The coordinator makes a move. -/
  | coordinate {t : Teardown} {w : World}
      (hc : (∃ first, r.control = .stopping first) ∨ r.control = .byHand)
      (hm : Teardown.Move app.registry app.shutdownTimeout (r.teardown, r.world) (t, w))
      (hw : r'.world = w)
  /-- A teardown routine goes on. -/
  | poll (number owner : Nat) (task : TeardownTask) (polled : Task)
      (ht : r.teardown.tasks[number]? = some task) (hr : task.task.ready r.world owner = true)
      (hadv : task.task.Advances (.teardownBegun task.index task.deadline)
        (.teardownEnded task.index) r.world polled r'.world)
  /-- Nothing is recorded of it. -/
  | rest (hv : r'.world.trace.about Event.isOfTeardown = r.world.trace.about Event.isOfTeardown)

/-- Every move is one of these to the teardown. -/
lemma Move.teardownSide (hm : Move app r r') : TeardownSide app r r' := by
  have hk := Event.isOfTeardown_of_isOfSupervisor
  cases hm with
  | launch hc => exact .rest (about_launch app r hk)
  | skim hc he hok => exact .rest rfl
  | fail hc he hf => exact .rest rfl
  | trigger prefers hc hd => exact .rest (about_observeSignal prefers r hk)
  | collect hc => exact .rest rfl
  | @judge first drained hc he hp => exact .rest (about_reportFailures first hk drained r.world)
  | coordinate hc hm => exact .coordinate hc hm rfl
  | @finish first hc ho => exact .rest (about_finish first r hk)
  | spawnEntry he ht => exact .rest rfl
  | reportExit he ht => exact .rest rfl
  | entry he ht hr hp =>
      exact .rest ((EntryTask.advances_of_ready hr hp).about_eq_of_other
        Event.isOfTeardown_of_isNote rfl fun _ => rfl)
  | teardown ht hr hp => exact .poll _ _ _ _ ht hr (Task.advances_of_ready hr hp)
  | @job owner number fires hr =>
      exact .rest ((World.pollLoop_ripples r.world owner number fires).about_eq
        Event.isOfTeardown_of_isNote)
  | deliver hw => exact .rest rfl
  | tick hq hp hn => exact .rest rfl

/-! ### What a quiet state tells of the teardown -/

/-- When nothing can go on the supervisor cannot. -/
lemma supervisorReady_of_isQuiet (hq : r.isQuiet app = true) : r.supervisorReady app = false := by
  simp only [isQuiet, Bool.and_eq_true, Bool.not_eq_true'] at hq
  exact hq.1.1.1.1.1

/-- The clock does not move past an instant at which something goes on by itself. -/
lemma le_of_nextWake {instant wake : Nat} (hn : r.nextWake app = some instant)
    (hw : wake ∈ r.wakes app) : instant ≤ wake :=
  (List.min?_eq_some_iff.mp hn).2 wake hw

/-- When nothing can go on every teardown routine rests until the clock moves on. -/
lemma rests_of_isQuiet {instant : Nat} (hq : r.isQuiet app = true)
    (hn : r.nextWake app = some instant) (k : Nat) (task : TeardownTask)
    (ht : r.teardown.tasks[k]? = some task) :
    task.task.Rests r.world (max r.world.now instant) := by
  obtain ⟨hk, -⟩ := List.getElem?_eq_some_iff.mp ht
  have hempty : r.readyTeardowns app = [] := by
    simp only [isQuiet, Bool.and_eq_true, List.isEmpty_iff] at hq
    exact hq.1.1.2
  have hready : task.task.ready r.world (Teardown.owner app.registry task) = false := by
    have hnot := List.filter_eq_nil_iff.mp hempty k (List.mem_range.mpr hk)
    rw [Teardown.taskReady, ht] at hnot
    exact Bool.eq_false_iff.mpr hnot
  refine ⟨⟨_, hready⟩, fun until_ hwake => Nat.max_le.mpr ⟨?_, le_of_nextWake hn ?_⟩⟩
  · exact Nat.le_of_lt (Task.now_lt_wake hready hwake)
  · refine List.mem_append_left _ (List.mem_append_right _ ?_)
    exact List.mem_filterMap.mpr ⟨task, List.mem_of_getElem? ht, hwake⟩

/-- A coordinator at work waits for an instant at which something goes on by itself. -/
lemma mem_wakes_of_works {until_ : Nat}
    (hc : (∃ first, r.control = .stopping first) ∨ r.control = .byHand)
    (hu : r.teardown.awaitingUntil = some until_) : until_ ∈ r.wakes app := by
  rcases hc with ⟨first, hc⟩ | hc <;> simp [wakes, supervisorWakes, hc, hu]

/-! ### The books during a run -/

/-- The coordinator works through a teardown that began at an instant, or it has done so. -/
structure Tearing (app : Application) (start : Nat) (r : Run) : Prop where
  /-- Its books are in order. -/
  ledger : ∃ p, Ledger app.registry app.shutdownTimeout start p r.teardown r.world
  /-- Either it works for the supervisor or for a caller, or it has finished. -/
  control : (∃ first, r.control = .stopping first) ∨ r.control = .byHand ∨
    ((∃ first, r.control = .returned first) ∧ r.teardown.isOver = true)

namespace Tearing

/-- Something else than the teardown goes on. -/
lemma of_view (h : Tearing app start r) (ht : r'.teardown = r.teardown)
    (hc : r'.control = r.control)
    (hv : r'.world.trace.about Event.isOfTeardown = r.world.trace.about Event.isOfTeardown)
    (hnow : r'.world.now = r.world.now) : Tearing app start r' := by
  obtain ⟨p, hp⟩ := h.ledger
  refine ⟨⟨p, ?_⟩, ?_⟩
  · rw [ht]
    exact hp.of_view hv hnow
  · rw [hc, ht]
    exact h.control

/-- A supervisor that is not there, or tears down, does nothing before a teardown. -/
lemma control_ne (h : Tearing app start r) :
    r.control ≠ .idle ∧ r.control ≠ .waiting ∧
      ∀ first drained, r.control ≠ .draining first drained := by
  rcases h.control with ⟨first, hc⟩ | hc | ⟨⟨first, hc⟩, -⟩ <;> simp [hc]

/-- A coordinator that has not finished is at work. -/
lemma works_of_not_over (h : Tearing app start r) (ho : r.teardown.isOver = false) :
    (∃ first, r.control = .stopping first) ∨ r.control = .byHand := by
  rcases h.control with hc | hc | ⟨-, hover⟩
  · exact .inl hc
  · exact .inr hc
  · rw [hover] at ho
    cases ho

/-- When the supervisor has returned the coordinator has finished. -/
lemma isOver_of_returned (h : Tearing app start r) {first : Option Culprit}
    (hc : r.control = .returned first) : r.teardown.isOver = true := by
  rcases h.control with ⟨first', hc'⟩ | hc' | ⟨-, hover⟩
  · simp [hc] at hc'
  · simp [hc] at hc'
  · exact hover

/-- Every task is that of a spawn. -/
lemma tasks_eq_nil (h : Tearing app start r) (hs : r.world.trace.spawns = []) :
    r.teardown.tasks = [] := by
  obtain ⟨p, hledger⟩ := h.ledger
  have hspawns := hledger.books.spawns_eq
  rw [hs] at hspawns
  simpa using hspawns

/-- The clock moves. -/
lemma tick (h : Tearing app start r) {instant : Nat} (hq : r.isQuiet app = true) (hp : r.Parked)
    (hn : r.nextWake app = some instant) : Tearing app start (r.atInstant instant) := by
  obtain ⟨p, hledger⟩ := h.ledger
  have hsupervisor := supervisorReady_of_isQuiet hq
  have hworks : ((∃ first, r.control = .stopping first) ∨ r.control = .byHand) →
      r.teardown.ready r.world = false ∧
        ∀ until_, r.teardown.awaitingUntil = some until_ → instant ≤ until_ := by
    intro hc
    refine ⟨?_, fun until_ hu => le_of_nextWake hn (mem_wakes_of_works hc hu)⟩
    rcases hc with ⟨first, hc⟩ | hc <;> simpa [supervisorReady, hc] using hsupervisor
  have hrests : r.teardown.ready r.world = false ∧
      (r.teardown.awaited.isSome = true ∨ r.teardown.isOver = true) ∧
        ∀ until_, r.teardown.awaitingUntil = some until_ → r.world.now ≤ until_ →
          max r.world.now instant ≤ until_ := by
    rcases h.control with ⟨first, hc⟩ | hc | ⟨⟨first, hc⟩, hover⟩
    · obtain ⟨hready, huntil⟩ := hworks (.inl ⟨first, hc⟩)
      rw [Parked, hc] at hp
      exact ⟨hready, .inl hp, fun until_ hu hle => Nat.max_le.mpr ⟨hle, huntil until_ hu⟩⟩
    · obtain ⟨hready, huntil⟩ := hworks (.inr hc)
      rw [Parked, hc] at hp
      exact ⟨hready, hp, fun until_ hu hle => Nat.max_le.mpr ⟨hle, huntil until_ hu⟩⟩
    · have hnone : r.teardown.awaited = none := by
        simp only [Teardown.isOver, Bool.and_eq_true] at hover
        simpa using hover.2
      refine ⟨by rw [Teardown.ready, hnone], .inr hover, fun until_ hu => ?_⟩
      exact absurd hu (by rw [hledger.awaitingUntil_of_awaited hnone]; simp)
  obtain ⟨hready, hparked, huntil⟩ := hrests
  exact ⟨⟨p, hledger.wait rfl (Nat.le_max_left _ _) (rests_of_isQuiet hq hn) hready hparked huntil⟩,
    h.control⟩

/-- **Every move keeps the books of a teardown.** -/
theorem move (h : Tearing app start r) (hm : Move app r r') : Tearing app start r' := by
  obtain ⟨hidle, hwaiting, hdraining⟩ := h.control_ne
  cases hm with
  | launch hc => exact absurd hc hidle
  | skim hc he hok => exact absurd hc hwaiting
  | fail hc he hf => exact absurd hc hwaiting
  | trigger prefers hc hd => exact absurd hc hwaiting
  | collect hc => exact absurd hc (hdraining _ _)
  | judge hc he hp => exact absurd hc (hdraining _ _)
  | @coordinate t w hc hm =>
      obtain ⟨p, hp⟩ := h.ledger
      exact ⟨hp.coordinate hm, hc.imp_right Or.inl⟩
  | @finish first hc ho =>
      obtain ⟨p, hp⟩ := h.ledger
      have hv := about_finish first r Event.isOfTeardown_of_isOfSupervisor
      obtain ⟨signals, heq⟩ := finish_eq first r
      have hnow : (r.finish first).world.now = r.world.now := by rw [heq]
      have ht : (r.finish first).teardown = r.teardown := by rw [heq]
      refine ⟨⟨p, ?_⟩, .inr (.inr ⟨⟨first, by rw [heq]⟩, by rwa [ht]⟩)⟩
      rw [ht]
      exact hp.of_view hv hnow
  | spawnEntry he ht => exact h.of_view rfl rfl rfl rfl
  | reportExit he ht => exact h.of_view rfl rfl rfl rfl
  | entry he ht hr hp =>
      have hadv := EntryTask.advances_of_ready hr hp
      exact h.of_view rfl rfl
        (hadv.about_eq_of_other Event.isOfTeardown_of_isNote rfl fun _ => rfl) hadv.now_eq
  | @teardown number task polled w ht hr hp =>
      obtain ⟨p, hledger⟩ := h.ledger
      refine ⟨⟨p, hledger.poll ht hr (Task.advances_of_ready hr hp)⟩, ?_⟩
      rw [Teardown.isOver_set]
      exact h.control
  | @job owner number fires hr =>
      have hrip := World.pollLoop_ripples r.world owner number fires
      exact h.of_view rfl rfl (hrip.about_eq Event.isOfTeardown_of_isNote) hrip.now_eq
  | deliver hw => exact h.of_view rfl rfl rfl rfl
  | tick hq hp hn => exact h.tick hq hp hn

end Tearing

end Run

/-! ### The sum of the waits -/

/-- How long a wait under a deadline lasts: as long as what is waited for takes, but not longer than
the deadline. -/
def Duration.wait (deadline : Duration) (took : Option (Nat × Ending)) : Nat :=
  match took with
  | none => deadline.millis
  | some (span, _) => min span deadline.millis

section Waits

variable (registry : Registry) (fallback : Duration) (tr : Trace)

/-- How long the coordinator waits at the turn that comes after `k` others. -/
def Registry.waited (k : Nat) : Nat :=
  (registry.deadlineAt fallback (registry.turn k)).wait (tr.span? (registry.turn k))

/-- The instant of the turn that comes after `k` others. -/
def Registry.turnInstant (start k : Nat) : Nat :=
  start + ∑ j ∈ Finset.range k, registry.waited fallback tr j

lemma Registry.turnInstant_succ (start k : Nat) :
    registry.turnInstant fallback tr start (k + 1)
      = registry.turnInstant fallback tr start k + registry.waited fallback tr k := by
  rw [turnInstant, turnInstant, Finset.sum_range_succ, Nat.add_assoc]

end Waits

/-- The outcome of a teardown that has ended in time says how it has: an error is reported with all
its contexts, and a panic with its text. -/
def Outcome.Tells (ending : Ending) (outcome : Outcome) : Prop :=
  match ending with
  | .finished => outcome = .completed
  | .failed failure => outcome = .failed failure ∧
      outcome.text? = some (": ".intercalate (failure.contexts.reverse ++ [failure.root]))
  | .panicked payload => outcome = .panicked payload ∧
      outcome.text? = some (match payload with
        | some text => "task N panicked with message " ++ Text.quoted text
        | none => "task N panicked")

lemma Outcome.tells_ofEnding (ending : Ending) : (Outcome.ofEnding ending).Tells ending := by
  cases ending with
  | finished => rfl
  | failed failure => exact ⟨rfl, rfl⟩
  | panicked payload => cases payload <;> exact ⟨rfl, rfl⟩

/-- The outcome of a teardown fits the time that it took and how it ended. -/
def Outcome.Fits (took : Option (Nat × Ending)) (deadline : Nat) (outcome : Outcome) : Prop :=
  match took with
  | none => outcome = .timedOut
  | some (span, ending) =>
    (span < deadline → outcome.Tells ending) ∧
      (deadline < span ∨ deadline = 0 → outcome = .timedOut) ∧
        (span = deadline → outcome.Tells ending ∨ outcome = .timedOut)

/-- A wait that has ended as it had to lasted as long as it had to. -/
lemma Settles.stop_eq {took : Option (Nat × Ending)} {deadline : Duration} {start stop : Nat}
    {outcome : Outcome} (h : Settles took deadline.millis start stop outcome) :
    stop = start + deadline.wait took := by
  cases h with
  | inTime span ending ht hle hpos hs ho => rw [hs, ht, Duration.wait, Nat.min_eq_left hle]
  | late ht hs ho =>
      cases took with
      | none => exact hs
      | some found =>
          obtain ⟨span, ending⟩ := found
          rw [hs, Duration.wait, Nat.min_eq_right (ht span ending rfl)]

/-- A wait that has ended as it had to has the outcome that it has to have. -/
lemma Settles.fits {took : Option (Nat × Ending)} {deadline start stop : Nat} {outcome : Outcome}
    (h : Settles took deadline start stop outcome) : outcome.Fits took deadline := by
  cases h with
  | inTime span ending ht hle hpos hs ho =>
      subst ho
      rw [ht]
      have htells := Outcome.tells_ofEnding ending
      exact ⟨fun _ => htells, fun hlate => by omega, fun _ => .inl htells⟩
  | late ht hs ho =>
      cases took with
      | none => exact ho
      | some found =>
          obtain ⟨span, ending⟩ := found
          have hle := ht span ending rfl
          exact ⟨fun hlt => by omega, fun _ => ho, fun _ => .inr ho⟩

section Ledger

variable {registry : Registry} {fallback : Duration} {start : Nat} {p : Timetable} {t : Teardown}
  {w : World}

/-- The turns of a ledger come at the sums of the waits before them. -/
lemma Ledger.turn_eq (h : Ledger registry fallback start p t w) (k : Nat)
    (hk : k ≤ t.reports.length) : p.turn k = registry.turnInstant fallback w.trace start k := by
  induction k with
  | zero => exact h.origin
  | succ k ih =>
      obtain ⟨-, hsettles⟩ := h.books.settled k (by omega)
      calc p.turn (k + 1) = p.turn k + registry.waited fallback w.trace k := hsettles.stop_eq
        _ = registry.turnInstant fallback w.trace start k + registry.waited fallback w.trace k := by
          rw [ih (by omega)]
        _ = registry.turnInstant fallback w.trace start (k + 1) :=
          (registry.turnInstant_succ fallback w.trace start k).symm

/-- At most one teardown is spawned and not reported. -/
lemma Ledger.tasks_length_le (h : Ledger registry fallback start p t w) :
    t.tasks.length ≤ t.reports.length + 1 := by
  cases h.standing with
  | free ha hl hnow => omega
  | waiting hl ha hpos hnow hend => omega

/-- Each teardown that has been spawned has a stage, from the instant of its turn on. -/
lemma Ledger.exists_stage (h : Ledger registry fallback start p t w) {k : Nat}
    (hk : k < t.tasks.length) : ∃ task,
      Stage registry fallback k (registry.turnInstant fallback w.trace start k) w task := by
  have hle := h.tasks_length_le
  obtain ⟨task, ht⟩ : ∃ task, t.tasks[k]? = some task := ⟨_, List.getElem?_eq_getElem hk⟩
  exact ⟨task, h.turn_eq k (by omega) ▸ h.books.stage k task ht⟩

/-- A teardown is over exactly when every registration has been reported. -/
lemma Ledger.isOver_iff (h : Ledger registry fallback start p t w) :
    t.isOver = true ↔ t.reports.length = registry.size := by
  have hlength := h.books.length_eq
  have hle := h.books.reports_le
  constructor
  · intro hover
    simp only [Teardown.isOver, Bool.and_eq_true, decide_eq_true_eq] at hover
    obtain ⟨hl, -⟩ := h.free_of_awaited (by simpa using hover.2)
    omega
  · intro hall
    cases h.standing with
    | free ha hl hnow =>
        have hremaining : t.remaining = 0 := by omega
        rw [Teardown.isOver, Teardown.awaited_of_none ha]
        simp [hremaining]
    | waiting hl ha hpos hnow hend => omega

/-- What begins at a place begins at the instant of the spawn, with the deadline of the place. -/
lemma Stage.of_begun {k : Nat} {task : TeardownTask} (h : Stage registry fallback k start w task)
    {time : Nat} {phase : Phase} {deadline : Duration}
    (hmem : ⟨time, phase, .teardownBegun (registry.turn k) deadline⟩ ∈ w.trace) :
    time = start ∧ deadline = registry.deadlineAt fallback (registry.turn k) := by
  have hview : (⟨time, phase, .teardownBegun (registry.turn k) deadline⟩ : Record) ∈
      w.trace.about (Event.concernsTeardown (registry.turn k)) :=
    Trace.mem_about.mpr ⟨hmem, by simp [Event.concernsTeardown]⟩
  obtain ⟨htime, hevent⟩ := h.chronicle.begin_of_mem hview (by simp)
  rw [← h.deadline_eq]
  exact ⟨htime, (Event.teardownBegun.inj hevent).2⟩

/-- A teardown that looks at nothing but the clock has taken its time, or its time is not over. -/
lemma Stage.span?_of_takes {k : Nat} {task : TeardownTask}
    (h : Stage registry fallback k start w task) {entry : Registration}
    {took : Option (Nat × Ending)} (he : registry.entries[registry.turn k]? = some entry)
    (ht : (entry.component.teardown (entry.effectiveDeadline fallback)).Takes took) :
    w.trace.span? (registry.turn k) = took ∨ w.trace.span? (registry.turn k) = none ∧
      ∀ span ending, took = some (span, ending) → w.now ≤ start + span := by
  rw [← Registry.deadlineAt_of_getElem? _ _ he, ← h.deadline_eq] at ht
  rcases h.onTime entry took he ht with ⟨hn, hdue⟩ | ⟨-, hspan⟩
  · refine .inr ⟨h.span?_eq_none hn, fun span ending htook => ?_⟩
    rw [htook] at hdue
    exact hdue.now_le
  · exact .inl hspan

end Ledger

/-! ### The account of a teardown -/

/-- All that holds of a teardown that began at an instant, of which so many routines have been
spawned and so many reports made. -/
structure TeardownAccount (app : Application) (start : Nat) (r : Run) (spawned reported : Nat) :
    Prop where
  /-- The name and the effective deadline of a registration: its own, else the one that its
  component advertises, else the default. -/
  effective : ∀ k entry, app.registry.entries[app.registry.turn k]? = some entry →
    app.registry.nameAt (app.registry.turn k) = entry.component.name ∧
      app.registry.deadlineAt app.shutdownTimeout (app.registry.turn k)
        = (entry.explicit.or entry.component.advertised).getD app.shutdownTimeout
  /-- At most one teardown is spawned and not reported. -/
  bounds : reported ≤ spawned ∧ spawned ≤ reported + 1 ∧ spawned ≤ app.registry.size
  /-- The spawns, in order: each is that of the last registration left, with its effective deadline,
  at the sum of the waits before it. -/
  spawns_eq : r.world.trace.spawns = (List.range spawned).map fun k =>
    (app.registry.turnInstant app.shutdownTimeout r.world.trace start k, app.registry.turn k,
      app.registry.deadlineAt app.shutdownTimeout (app.registry.turn k))
  /-- So many reports have been made, and so many are returned. -/
  length_eq : r.world.trace.reports.length = reported ∧ r.teardown.reports.length = reported
  /-- Each report is that of the same registration, with its name and its effective deadline, at the
  instant of the next turn, and has the outcome that it has to have. -/
  report : ∀ k, k < reported → ∃ outcome,
    r.world.trace.reports[k]? =
        some (app.registry.turnInstant app.shutdownTimeout r.world.trace start (k + 1),
          app.registry.turn k, app.registry.deadlineAt app.shutdownTimeout (app.registry.turn k),
          outcome) ∧
      r.teardown.reports[k]? = some ⟨app.registry.nameAt (app.registry.turn k),
        app.registry.deadlineAt app.shutdownTimeout (app.registry.turn k), outcome⟩ ∧
      outcome.Fits (r.world.trace.span? (app.registry.turn k))
        (app.registry.deadlineAt app.shutdownTimeout (app.registry.turn k)).millis
  /-- What is spawned is the teardown routine of the registration, given its effective deadline. -/
  given : ∀ k task routine, r.teardown.tasks[k]? = some task → task.task = .unbegun routine →
    ∃ entry, app.registry.entries[app.registry.turn k]? = some entry ∧
      routine = entry.component.teardown (entry.effectiveDeadline app.shutdownTimeout)
  /-- It begins at the instant at which it is spawned. -/
  begins : ∀ k, k < spawned → ∀ time phase deadline,
    ⟨time, phase, .teardownBegun (app.registry.turn k) deadline⟩ ∈ r.world.trace →
      time = app.registry.turnInstant app.shutdownTimeout r.world.trace start k ∧
        deadline = app.registry.deadlineAt app.shutdownTimeout (app.registry.turn k)
  /-- If it looks at nothing but the clock it takes the time that it has to take, and until it has
  ended that time is not over. -/
  takes : ∀ k, k < spawned → ∀ entry took, app.registry.entries[app.registry.turn k]? = some entry →
    (entry.component.teardown (entry.effectiveDeadline app.shutdownTimeout)).Takes took →
      r.world.trace.span? (app.registry.turn k) = took ∨
        r.world.trace.span? (app.registry.turn k) = none ∧ ∀ span ending,
          took = some (span, ending) → r.world.now
            ≤ app.registry.turnInstant app.shutdownTimeout r.world.trace start k + span
  /-- The teardown is over exactly when every registration has been reported. -/
  over_iff : r.teardown.isOver = true ↔ reported = app.registry.size
  /-- Until then the clock does not pass the deadline of the teardown that is waited for, and when
  nothing else can go on the clock moves, to that instant at the latest. -/
  onTime : r.teardown.isOver = false →
    r.world.now ≤ app.registry.turnInstant app.shutdownTimeout r.world.trace start reported
        + (app.registry.deadlineAt app.shutdownTimeout (app.registry.turn reported)).millis ∧
      ∃ instant, r.nextWake app = some instant ∧
        instant ≤ app.registry.turnInstant app.shutdownTimeout r.world.trace start reported
          + (app.registry.deadlineAt app.shutdownTimeout (app.registry.turn reported)).millis

namespace Run

variable {app : Application} {start : Nat} {r r' : Run}

/-- While the coordinator works the clock does not pass the deadline for which it waits, and moves
on to that instant at the latest. -/
lemma Tearing.onTime (h : Tearing app start r) (hp : r.Parked) (ho : r.teardown.isOver = false) :
    r.world.now ≤ app.registry.turnInstant app.shutdownTimeout r.world.trace start
          r.teardown.reports.length
        + (app.registry.deadlineAt app.shutdownTimeout
            (app.registry.turn r.teardown.reports.length)).millis ∧
      ∃ instant, r.nextWake app = some instant ∧
        instant ≤ app.registry.turnInstant app.shutdownTimeout r.world.trace start
            r.teardown.reports.length
          + (app.registry.deadlineAt app.shutdownTimeout
              (app.registry.turn r.teardown.reports.length)).millis := by
  obtain ⟨p, hledger⟩ := h.ledger
  have hworks := h.works_of_not_over ho
  have hsome : r.teardown.awaited.isSome = true := by
    rcases hworks with ⟨first, hc⟩ | hc
    · rw [Parked, hc] at hp
      exact hp
    · rw [Parked, hc] at hp
      exact hp.resolve_right (by simp [ho])
  cases hledger.standing with
  | free ha hl hnow =>
      rw [Teardown.awaited_of_none ha] at hsome
      cases hsome
  | waiting hl ha hpos hnow hend =>
      have hwake : _ ∈ r.wakes app := mem_wakes_of_works hworks ha
      rw [hledger.turn_eq _ (Nat.le_refl _)] at hnow hwake
      refine ⟨hnow, ?_⟩
      cases hn : r.nextWake app with
      | none =>
          rw [nextWake, List.min?_eq_none_iff] at hn
          rw [hn] at hwake
          cases hwake
      | some instant => exact ⟨instant, rfl, le_of_nextWake hn hwake⟩

/-- **The account of a teardown.**  A coordinator at rest has done all that it had to do. -/
theorem Tearing.account (h : Tearing app start r) (hp : r.Parked) :
    TeardownAccount app start r r.teardown.tasks.length r.teardown.reports.length := by
  obtain ⟨p, hledger⟩ := h.ledger
  have hbooks := hledger.books
  have hlength := hbooks.length_eq
  have hspawned := hledger.tasks_length_le
  refine ⟨fun k entry hentry => ⟨?_, ?_⟩, ⟨hbooks.reports_le, hspawned, by omega⟩, ?_, ⟨?_, rfl⟩,
    ?_, ?_, ?_, ?_, hledger.isOver_iff, h.onTime hp⟩
  · rw [Registry.nameAt, hentry]
    rfl
  · rw [app.registry.deadlineAt_of_getElem? app.shutdownTimeout hentry,
      Registration.effectiveDeadline_eq]
  · rw [hbooks.spawns_eq]
    refine List.map_congr_left fun k hk => ?_
    have hlt := List.mem_range.mp hk
    rw [hledger.turn_eq k (by omega)]
  · rw [hbooks.reports_eq, List.length_map, List.length_range]
  · intro k hk
    obtain ⟨-, hsettles⟩ := hbooks.settled k hk
    refine ⟨p.outcome k, ?_, ?_, hsettles.fits⟩
    · rw [hbooks.reports_eq, List.getElem?_map, List.getElem?_range hk, Option.map_some,
        hledger.turn_eq (k + 1) hk]
    · rw [hbooks.named, List.getElem?_map, List.getElem?_range (by simpa using hk)]
      rfl
  · intro k task routine ht hroutine
    have hstage := hbooks.stage k task ht
    obtain ⟨entry, hentry, hown⟩ := hstage.routine_eq routine hroutine
    rw [hstage.deadline_eq, Registry.deadlineAt_of_getElem? _ _ hentry] at hown
    exact ⟨entry, hentry, hown⟩
  · intro k hk time phase deadline hmem
    obtain ⟨task, hstage⟩ := hledger.exists_stage hk
    exact hstage.of_begun hmem
  · intro k hk entry took hentry htakes
    obtain ⟨task, hstage⟩ := hledger.exists_stage hk
    exact hstage.span?_of_takes hentry htakes

/-- Moves keep the books of a teardown. -/
lemma Tearing.moves (h : Tearing app start r) (hm : Moves app r r') : Tearing app start r' := by
  induction hm with
  | refl => exact h
  | tail _ hm ih => exact ih.move hm

/-- A teardown that is called by hand is a sequence of moves from the instant of the call on, after
which the coordinator is at rest. -/
lemma callTeardown_moves (app : Application) (r : Run) :
    Moves app { r with teardown := r.teardown.begin_ app.registry, control := .byHand }
        (r.callTeardown app) ∧ (r.callTeardown app).Parked := by
  obtain ⟨hmoves, hend⟩ := Teardown.proceed_moves app.registry app.shutdownTimeout
    (r.teardown.begin_ app.registry) r.world
  exact ⟨coordinate_moves app (r := { r with control := .byHand }) (.inr rfl) hmoves, hend⟩

/-- **Order, deadlines, outcomes and instants of a teardown.**  A teardown that is called by hand
spawns the teardown of each registration once, the last one first, each after the report of the one
before, and reports each once; whatever the routines do, and in whatever order they go on, the
instants, deadlines, names and outcomes are those of its account. -/
theorem teardown_account (app : Application) (r₀ r : Run) (labels : List Label)
    (hfresh : r₀.teardown = .empty) (htrace : r₀.world.trace.about Event.isOfTeardown = [])
    (h : (r₀.callTeardown app).steps? app labels = some r) :
    ∃ spawned reported, TeardownAccount app r₀.world.now r spawned reported := by
  have hbegin : Tearing app r₀.world.now
      { r₀ with teardown := r₀.teardown.begin_ app.registry, control := .byHand } := by
    rw [hfresh]
    exact ⟨⟨_, .begin_ htrace⟩, .inr (.inl rfl)⟩
  obtain ⟨hcall, hcalled⟩ := callTeardown_moves app r₀
  obtain ⟨hmoves, hparked⟩ := steps?_moves app hcalled h
  exact ⟨_, _, ((hbegin.moves hcall).moves hmoves).account hparked⟩

/-- The account of a teardown of the store and the server that is called before they have run. -/
theorem account_of_storeAndServer : ∃ r,
    ((Run.initial .storeAndServer .fresh fun _ => 0).callTeardown .storeAndServer).steps?
        .storeAndServer [.teardown 0, .tick, .teardown 0, .supervisor 0 .interrupt] = some r ∧
      r.teardown.isOver = true ∧
      ∃ spawned reported, TeardownAccount .storeAndServer 0 r spawned reported :=
  ⟨_, rfl, rfl, teardown_account .storeAndServer (.initial .storeAndServer .fresh fun _ => 0) _
    [.teardown 0, .tick, .teardown 0, .supervisor 0 .interrupt] rfl rfl rfl⟩

end Run

end ServiceSupervisor
