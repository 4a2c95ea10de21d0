import Mathlib.Logic.Function.Basic
import ServiceSupervisor.Proofs.Reached

/-!
The books of a teardown.

* `Trace.spawns`, `Trace.reports`: what the coordinator does, read off the trace; `Trace.span?`: the
  time that a teardown took and how it ended, once it has;
* `Settles`: how one wait ends.  The teardown is over in time, and decides the outcome; or its
  deadline passes, and whatever the teardown does later is not seen;
* `Timetable`: the instants at which the coordinator turns from one registration to the next, and
  the outcomes of its waits;
* `Books`: a teardown and its trace fit a timetable;
* `Ledger`: the books, and what the coordinator is doing now.  Every move keeps a ledger, the
  timetable growing with each report (`Ledger.coordinate`, `Ledger.poll`, `Ledger.wait`).
-/

namespace ServiceSupervisor

/-! ### The events of a teardown -/

namespace Event

/-- Whether an event belongs to a teardown. -/
def isOfTeardown : Event → Bool
  | .teardownSpawned _ _ | .teardownBegun _ _ | .teardownEnded _ _ | .teardownReported _ _ _ => true
  | _ => false

/-- Whether an event is the spawn or the report of a teardown. -/
def isOfCoordinator : Event → Bool
  | .teardownSpawned _ _ | .teardownReported _ _ _ => true
  | _ => false

/-- Whether an event is the beginning or the end of the teardown routine at a place. -/
def concernsTeardown (index : Nat) : Event → Bool
  | .teardownBegun i _ | .teardownEnded i _ => i == index
  | _ => false

lemma isOfTeardown_of_isNote (e : Event) (h : e.isNote = true) : e.isOfTeardown = false := by
  cases e <;> first | rfl | cases h

lemma isOfTeardown_of_isOfSupervisor (e : Event) (h : e.isOfSupervisor = true) :
    e.isOfTeardown = false := by
  cases e <;> first | rfl | cases h

lemma isOfCoordinator_of_isNote (e : Event) (h : e.isNote = true) : e.isOfCoordinator = false := by
  cases e <;> first | rfl | cases h

lemma concernsTeardown_of_isNote {index : Nat} (e : Event) (h : e.isNote = true) :
    e.concernsTeardown index = false := by
  cases e <;> first | rfl | cases h

lemma isOfTeardown_of_concernsTeardown {index : Nat} {e : Event}
    (h : e.concernsTeardown index = true) : e.isOfTeardown = true := by
  cases e <;> first | rfl | cases h

end Event

/-- The spawn that a record tells of: its instant, the place and the deadline. -/
def Record.spawn? (x : Record) : Option (Nat × Nat × Duration) :=
  match x.event with
  | .teardownSpawned index deadline => some (x.time, index, deadline)
  | _ => none

/-- The report that a record tells of: its instant, the place, the deadline and the outcome. -/
def Record.report? (x : Record) : Option (Nat × Nat × Duration × Outcome) :=
  match x.event with
  | .teardownReported index deadline outcome => some (x.time, index, deadline, outcome)
  | _ => none

namespace Trace

/-- The spawns of teardowns, in order. -/
def spawns (tr : Trace) : List (Nat × Nat × Duration) := tr.reverse.filterMap Record.spawn?

/-- The reports of teardowns, in order. -/
def reports (tr : Trace) : List (Nat × Nat × Duration × Outcome) :=
  tr.reverse.filterMap Record.report?

/-- The time that the teardown at a place took and how it ended, once it has ended. -/
def span? (tr : Trace) (index : Nat) : Option (Nat × Ending) :=
  match tr.about (Event.concernsTeardown index) with
  | [⟨stop, _, .teardownEnded _ ending⟩, ⟨start, _, _⟩] => some (stop - start, ending)
  | _ => none

@[simp] lemma spawns_cons (x : Record) (tr : Trace) :
    spawns (x :: tr) = spawns tr ++ x.spawn?.toList := by
  rw [spawns, spawns, List.reverse_cons, List.filterMap_append]
  cases h : x.spawn? <;> simp [h]

@[simp] lemma reports_cons (x : Record) (tr : Trace) :
    reports (x :: tr) = reports tr ++ x.report?.toList := by
  rw [reports, reports, List.reverse_cons, List.filterMap_append]
  cases h : x.report? <;> simp [h]

/-- A view of the events of a kind is a view of the trace. -/
lemma filterMap_about {α : Type} {kind : Event → Bool} {f : Record → Option α}
    (h : ∀ x : Record, kind x.event = false → f x = none) (tr : Trace) :
    (tr.about kind).filterMap f = tr.filterMap f := by
  induction tr with
  | nil => rfl
  | cons x tr ih =>
      rw [about_cons, List.filterMap_cons]
      cases hk : kind x.event with
      | false => simp [h x hk, ih]
      | true => simp [List.filterMap_cons, ih]

/-- Two traces that tell the same of the coordinator show the same spawns and reports. -/
lemma spawns_reports_congr {tr tr' : Trace}
    (h : tr'.about Event.isOfCoordinator = tr.about Event.isOfCoordinator) :
    tr'.spawns = tr.spawns ∧ tr'.reports = tr.reports := by
  have hspawn : ∀ x : Record, x.event.isOfCoordinator = false → x.spawn? = none := by
    rintro ⟨time, phase, event⟩ hx
    cases event <;> first | rfl | cases hx
  have hreport : ∀ x : Record, x.event.isOfCoordinator = false → x.report? = none := by
    rintro ⟨time, phase, event⟩ hx
    cases event <;> first | rfl | cases hx
  constructor
  · rw [spawns, spawns, List.filterMap_reverse, List.filterMap_reverse,
      ← filterMap_about hspawn tr', h, filterMap_about hspawn]
  · rw [reports, reports, List.filterMap_reverse, List.filterMap_reverse,
      ← filterMap_about hreport tr', h, filterMap_about hreport]

/-- Two traces that tell the same of the teardown tell the same of the coordinator. -/
lemma about_isOfCoordinator_congr {tr tr' : Trace}
    (h : tr'.about Event.isOfTeardown = tr.about Event.isOfTeardown) :
    tr'.about Event.isOfCoordinator = tr.about Event.isOfCoordinator := by
  have hwider : ∀ e : Event, e.isOfCoordinator = true → e.isOfTeardown = true := by
    intro e he
    cases e <;> first | rfl | cases he
  rw [← about_about hwider tr', h, about_about hwider]

/-- Two traces that tell the same of the teardown show the same spawns and reports, and the same of
every place. -/
lemma views_congr {tr tr' : Trace}
    (h : tr'.about Event.isOfTeardown = tr.about Event.isOfTeardown) :
    (tr'.spawns = tr.spawns ∧ tr'.reports = tr.reports) ∧
      ∀ index, tr'.about (Event.concernsTeardown index)
        = tr.about (Event.concernsTeardown index) := by
  refine ⟨spawns_reports_congr (about_isOfCoordinator_congr h), fun index => ?_⟩
  have hwider : ∀ e, Event.concernsTeardown index e = true → e.isOfTeardown = true :=
    fun _ => Event.isOfTeardown_of_concernsTeardown
  rw [← about_about hwider tr', h, about_about hwider]

end Trace

/-! ### Turns and waits -/

namespace Registry

/-- The place whose turn comes after that of `k` others: the last place comes first. -/
def turn (registry : Registry) (k : Nat) : Nat := registry.size - 1 - k

/-- The effective deadline at a place. -/
def deadlineAt (registry : Registry) (fallback : Duration) (index : Nat) : Duration :=
  (registry.entries[index]?.map (·.effectiveDeadline fallback)).getD .zero

lemma deadlineAt_of_getElem? (registry : Registry) (fallback : Duration) {index : Nat}
    {entry : Registration} (he : registry.entries[index]? = some entry) :
    registry.deadlineAt fallback index = entry.effectiveDeadline fallback := by
  rw [deadlineAt, he]
  rfl

end Registry

/-- How the wait for a teardown ends that began at `start`: if it took some time that fits into its
deadline then after that time, with the outcome that it had; otherwise when the deadline has
passed. -/
inductive Settles (took : Option (Nat × Ending)) (deadline start stop : Nat) (outcome : Outcome) :
    Prop
  /-- The teardown has ended in time. -/
  | inTime (span : Nat) (ending : Ending) (ht : took = some (span, ending))
      (hle : span ≤ deadline) (hpos : deadline ≠ 0) (hs : stop = start + span)
      (ho : outcome = .ofEnding ending)
  /-- The deadline has passed. -/
  | late (ht : ∀ span ending, took = some (span, ending) → deadline ≤ span)
      (hs : stop = start + deadline) (ho : outcome = .timedOut)

/-- When the coordinator turned to each registration, and what its waits came to. -/
structure Timetable where
  /-- The instant of the turn that comes after `k` others. -/
  turn : Nat → Nat
  /-- The outcome of that turn. -/
  outcome : Nat → Outcome

namespace Timetable

/-- The turn `k` ends, and with it the next one begins. -/
def close (p : Timetable) (k now : Nat) (outcome : Outcome) : Timetable where
  turn := Function.update p.turn (k + 1) now
  outcome := Function.update p.outcome k outcome

variable (p : Timetable) (k now : Nat) (outcome : Outcome)

@[simp] lemma turn_close_self : (p.close k now outcome).turn (k + 1) = now :=
  Function.update_self ..

@[simp] lemma outcome_close_self : (p.close k now outcome).outcome k = outcome :=
  Function.update_self ..

lemma turn_close_of_le {j : Nat} (h : j ≤ k) : (p.close k now outcome).turn j = p.turn j :=
  Function.update_of_ne (by omega) ..

lemma outcome_close_of_lt {j : Nat} (h : j < k) :
    (p.close k now outcome).outcome j = p.outcome j :=
  Function.update_of_ne (by omega) ..

end Timetable

/-! ### The books -/

/-- A teardown that was spawned at an instant as number `k` fits what is recorded of it. -/
structure Stage (registry : Registry) (fallback : Duration) (k start : Nat) (w : World)
    (task : TeardownTask) : Prop where
  /-- It is that of the registration whose turn it was. -/
  index_eq : task.index = registry.turn k
  /-- It has the deadline of that registration. -/
  deadline_eq : task.deadline = registry.deadlineAt fallback (registry.turn k)
  /-- It is the component's own, given that deadline. -/
  routine_eq : ∀ routine, task.task = .unbegun routine →
    ∃ entry, registry.entries[registry.turn k]? = some entry ∧
      routine = entry.component.teardown task.deadline
  /-- It was spawned before now. -/
  start_le : start ≤ w.now
  /-- If it has not begun it was spawned just now. -/
  fresh : task.task.isUnbegun = true → start = w.now
  /-- It began at the instant at which it was spawned. -/
  chronicle : task.task.Chronicle (.teardownBegun task.index task.deadline)
    (.teardownEnded task.index) start (w.trace.about (Event.concernsTeardown (registry.turn k)))
  /-- If it looks at nothing but the clock it ends when it is due, and has then taken its time. -/
  onTime : ∀ entry took, registry.entries[registry.turn k]? = some entry →
    (entry.component.teardown task.deadline).Takes took →
      task.task.hasEnded = false ∧ task.task.Due w.now (later start took) ∨
        task.task.hasEnded = true ∧ w.trace.span? (registry.turn k) = took

/-- A teardown and its trace fit a timetable. -/
structure Books (registry : Registry) (fallback : Duration) (p : Timetable) (t : Teardown)
    (w : World) : Prop where
  /-- The registrations are torn down from the last one on. -/
  length_eq : t.remaining + t.tasks.length = registry.size
  /-- What is reported has been spawned. -/
  reports_le : t.reports.length ≤ t.tasks.length
  /-- Each teardown is spawned at the instant of its turn. -/
  spawns_eq : w.trace.spawns = (List.range t.tasks.length).map fun k =>
    (p.turn k, registry.turn k, registry.deadlineAt fallback (registry.turn k))
  /-- Each report is made at the instant of the next turn. -/
  reports_eq : w.trace.reports = (List.range t.reports.length).map fun k =>
    (p.turn (k + 1), registry.turn k, registry.deadlineAt fallback (registry.turn k), p.outcome k)
  /-- The coordinator returns what it has reported. -/
  named : t.reports = (List.range t.reports.length).map fun k =>
    ⟨registry.nameAt (registry.turn k), registry.deadlineAt fallback (registry.turn k),
      p.outcome k⟩
  /-- Each task fits its records. -/
  stage : ∀ k task, t.tasks[k]? = some task → Stage registry fallback k (p.turn k) w task
  /-- Each wait has ended as it had to. -/
  settled : ∀ k, k < t.reports.length → p.turn (k + 1) ≤ w.now ∧
    Settles (w.trace.span? (registry.turn k))
      (registry.deadlineAt fallback (registry.turn k)).millis (p.turn k) (p.turn (k + 1))
      (p.outcome k)
  /-- A teardown that has been waited for at all has begun. -/
  begun : ∀ k task, k < t.reports.length → t.tasks[k]? = some task →
    (registry.deadlineAt fallback (registry.turn k)).millis ≠ 0 → task.task.isUnbegun = false
  /-- Nothing is recorded of a teardown that has not been spawned. -/
  unspawned : ∀ index, index < t.remaining →
    w.trace.about (Event.concernsTeardown index) = []

/-- What the coordinator is doing: it has just finished with a registration, or it waits. -/
inductive Standing (registry : Registry) (fallback : Duration) (p : Timetable) (t : Teardown)
    (w : World) : Prop
  /-- It turns to the next registration, at the instant of the report before. -/
  | free (ha : t.awaitingUntil = none) (hl : t.tasks.length = t.reports.length)
      (hnow : 0 < t.remaining → w.now = p.turn t.tasks.length)
  /-- It waits for the teardown spawned last. -/
  | waiting (hl : t.tasks.length = t.reports.length + 1)
      (ha : t.awaitingUntil = some (p.turn t.reports.length
        + (registry.deadlineAt fallback (registry.turn t.reports.length)).millis))
      (hpos : (registry.deadlineAt fallback (registry.turn t.reports.length)).millis ≠ 0)
      (hnow : w.now ≤ p.turn t.reports.length
        + (registry.deadlineAt fallback (registry.turn t.reports.length)).millis)
      (hend : ∀ span ending, w.trace.span? (registry.turn t.reports.length) = some (span, ending) →
        w.now = p.turn t.reports.length + span)

/-- The books of a teardown that began at an instant, and what its coordinator is doing. -/
structure Ledger (registry : Registry) (fallback : Duration) (start : Nat) (p : Timetable)
    (t : Teardown) (w : World) : Prop where
  /-- The first turn comes at once. -/
  origin : p.turn 0 = start
  /-- The books fit. -/
  books : Books registry fallback p t w
  /-- The coordinator is where the books say. -/
  standing : Standing registry fallback p t w

variable {registry : Registry} {fallback : Duration}

namespace Stage

variable {k start : Nat} {w w' : World} {task : TeardownTask}

/-- A teardown that has not ended has taken no time yet. -/
lemma span?_eq_none (h : Stage registry fallback k start w task)
    (he : task.task.hasEnded = false) : w.trace.span? (registry.turn k) = none := by
  have hc := h.chronicle
  rw [Trace.span?]
  generalize w.trace.about (Event.concernsTeardown (registry.turn k)) = tr at hc ⊢
  generalize task.task = state at hc he
  cases hc with
  | unbegun routine => rfl
  | running phase hu he' => rfl
  | ended ending phase phase' hle => cases he

/-- A teardown that has ended took some time. -/
lemma span?_eq_some (h : Stage registry fallback k start w task) {ending : Ending}
    (he : task.task = .ended ending) :
    ∃ span, w.trace.span? (registry.turn k) = some (span, ending) := by
  obtain ⟨stop, phase, phase', -, htr⟩ := (he ▸ h.chronicle).of_ended
  exact ⟨stop - start, by rw [Trace.span?, htr]⟩

/-- The clock moves, or something else is recorded. -/
lemma of_view (h : Stage registry fallback k start w task)
    (hv : w'.trace.about (Event.concernsTeardown (registry.turn k))
      = w.trace.about (Event.concernsTeardown (registry.turn k)))
    (hle : w.now ≤ w'.now) (hrest : w'.now = w.now ∨ task.task.Rests w w'.now) :
    Stage registry fallback k start w' task := by
  refine ⟨h.index_eq, h.deadline_eq, h.routine_eq, Nat.le_trans h.start_le hle, ?_, ?_, ?_⟩
  · intro hu
    rcases hrest with hnow | hrest
    · rw [hnow]
      exact h.fresh hu
    · rw [hrest.isUnbegun] at hu
      cases hu
  · rw [hv]
    exact h.chronicle
  · intro entry took hentry htakes
    rcases h.onTime entry took hentry htakes with ⟨hn, hdue⟩ | ⟨he, hspan⟩
    · refine .inl ⟨hn, ?_⟩
      rcases hrest with hnow | hrest
      · rw [hnow]
        exact hdue
      · exact hdue.wait hn hrest
    · refine .inr ⟨he, ?_⟩
      rw [Trace.span?, hv]
      exact hspan

section Advance

variable {owner : Nat} {polled : Task} (h : Stage registry fallback k start w task)
  (hadv : task.task.Advances (.teardownBegun task.index task.deadline) (.teardownEnded task.index)
    w polled w')
include h hadv

/-- The routine goes on: what is recorded of its place. -/
lemma about_of_advances (hn : task.task.hasEnded = false) :
    ∃ phase, w'.trace.about (Event.concernsTeardown (registry.turn k))
      = Task.endMark (.teardownEnded task.index) w polled
        ++ [⟨start, phase, .teardownBegun task.index task.deadline⟩] := by
  obtain ⟨phase, hbegun⟩ := h.chronicle.beginMark_append hn h.fresh
  have hself : (task.index == registry.turn k) = true := by simp [h.index_eq]
  refine ⟨phase, ?_⟩
  rw [hadv.about_eq Event.concernsTeardown_of_isNote hself fun _ => hself, hbegun]

/-- The routine goes on: if it ends it has taken the time up to now. -/
lemma span?_of_advances (hn : task.task.hasEnded = false) :
    w'.trace.span? (registry.turn k)
      = polled.ending?.map fun ending => (w.now - start, ending) := by
  obtain ⟨phase, hown⟩ := h.about_of_advances hadv hn
  rw [Trace.span?, hown]
  cases hend : polled.ending? with
  | none => simp [Task.endMark, hend]
  | some ending => simp [Task.endMark, hend]

/-- The routine goes on: nothing is recorded of other places. -/
lemma about_of_advances_other {index : Nat} (hne : registry.turn k ≠ index) :
    w'.trace.about (Event.concernsTeardown index)
      = w.trace.about (Event.concernsTeardown index) := by
  have hnot : (task.index == index) = false := by simpa [h.index_eq] using hne
  exact hadv.about_eq_of_other Event.concernsTeardown_of_isNote hnot fun _ => hnot

/-- The routine goes on: it still fits what is recorded of it. -/
lemma advance (hn : task.task.hasEnded = false) :
    Stage registry fallback k start w' { task with task := polled } := by
  have hnow := hadv.now_eq
  refine ⟨h.index_eq, h.deadline_eq, ?_, ?_, ?_, ?_, ?_⟩
  · rintro routine rfl
    exact absurd hadv.begun (by simp [Task.isUnbegun])
  · rw [hnow]
    exact h.start_le
  · intro hu
    rw [hadv.begun] at hu
    cases hu
  · obtain ⟨phase, hown⟩ := h.about_of_advances hadv hn
    rw [hown]
    exact hadv.chronicle h.start_le
  · intro entry took hentry htakes
    rcases h.onTime entry took hentry htakes with ⟨-, hdue⟩ | ⟨he, -⟩
    · have hpolled := hadv.due _ hdue
      cases hend : polled.ending? with
      | none =>
          refine .inl ⟨Task.hasEnded_eq_false hend, ?_⟩
          rw [hnow]
          exact hpolled
      | some ending =>
          -- It ends now, so now it is due.
          have hended := Task.eq_ended hend
          obtain ⟨-, rfl⟩ := later_eq_some (hpolled.eq_some hended)
          refine .inr ⟨by rw [hended]; rfl, ?_⟩
          rw [h.span?_of_advances hadv hn, hend]
          rfl
    · rw [hn] at he
      cases he

end Advance

end Stage

namespace Books

variable {p : Timetable} {t : Teardown} {w w' : World}

/-- The clock moves, or something else than the teardown is recorded. -/
lemma of_view (h : Books registry fallback p t w)
    (hv : w'.trace.about Event.isOfTeardown = w.trace.about Event.isOfTeardown)
    (hle : w.now ≤ w'.now)
    (hrest : w'.now = w.now ∨
      ∀ (k : Nat) (task : TeardownTask), t.tasks[k]? = some task → task.task.Rests w w'.now) :
    Books registry fallback p t w' := by
  obtain ⟨⟨hspawns, hreports⟩, habout⟩ := Trace.views_congr hv
  refine ⟨h.length_eq, h.reports_le, hspawns.trans h.spawns_eq, hreports.trans h.reports_eq,
    h.named, ?_, ?_, h.begun, fun index hi => (habout index).trans (h.unspawned index hi)⟩
  · intro k task ht
    exact (h.stage k task ht).of_view (habout _) hle (hrest.imp_right fun hall => hall k task ht)
  · intro k hk
    obtain ⟨hturn, hsettles⟩ := h.settled k hk
    refine ⟨Nat.le_trans hturn hle, ?_⟩
    rw [Trace.span?, habout]
    exact hsettles

/-- The next turn is that of the last registration that is left. -/
lemma turn_length (h : Books registry fallback p t w) {index : Nat}
    (hr : t.remaining = index + 1) : registry.turn t.tasks.length = index := by
  have hlength := h.length_eq
  rw [Registry.turn]
  omega

/-- A teardown is spawned at the instant of its turn. -/
lemma spawn (h : Books registry fallback p t w) {index : Nat} {entry : Registration}
    (hr : t.remaining = index + 1) (he : registry.entries[index]? = some entry)
    (hl : t.tasks.length = t.reports.length) (hnow : w.now = p.turn t.tasks.length)
    (until_ : Option Nat) :
    Books registry fallback p
      { t with
        tasks := t.tasks ++ [⟨index, entry.effectiveDeadline fallback,
          .unbegun (entry.component.teardown (entry.effectiveDeadline fallback))⟩]
        remaining := index
        awaitingUntil := until_ }
      (w.emit (.teardownSpawned index (entry.effectiveDeadline fallback))) := by
  have hturn := h.turn_length hr
  have hdeadline := registry.deadlineAt_of_getElem? fallback he
  have hview : ∀ i, (w.emit (.teardownSpawned index (entry.effectiveDeadline fallback))).trace.about
      (Event.concernsTeardown i) = w.trace.about (Event.concernsTeardown i) := fun _ => rfl
  refine ⟨?_, ?_, ?_, ?_, h.named, ?_, ?_, ?_, ?_⟩
  · have hlength := h.length_eq
    simp only [List.length_append, List.length_singleton]
    omega
  · have hle := h.reports_le
    simp only [List.length_append, List.length_singleton]
    omega
  · simp only [World.trace_emit, Trace.spawns_cons, h.spawns_eq, List.length_append,
      List.length_singleton, List.range_succ, List.map_append]
    simp [Record.spawn?, hturn, hdeadline, hnow]
  · simp only [World.trace_emit, Trace.reports_cons, h.reports_eq]
    simp [Record.report?]
  · intro k task ht
    rcases Nat.lt_or_ge k t.tasks.length with hk | hk
    · rw [List.getElem?_append_left hk] at ht
      exact (h.stage k task ht).of_view (hview _) (Nat.le_refl _) (.inl rfl)
    · obtain ⟨rfl, rfl⟩ : k = t.tasks.length ∧ _ = task := by
        rw [List.getElem?_append_right hk, List.getElem?_singleton] at ht
        split at ht
        · exact ⟨by omega, Option.some.inj ht⟩
        · cases ht
      have hown : entry.effectiveDeadline fallback
          = registry.deadlineAt fallback (registry.turn t.tasks.length) := by
        rw [hturn, hdeadline]
      refine ⟨hturn.symm, hown, ?_, Nat.le_of_eq hnow.symm, fun _ => hnow.symm, ?_, ?_⟩
      · intro routine hroutine
        exact ⟨entry, by rw [hturn, he], (Task.unbegun.inj hroutine).symm⟩
      · rw [hview, hturn, h.unspawned index (by omega)]
        exact .unbegun _
      · intro entry' took hentry htakes
        rw [hturn, he] at hentry
        obtain rfl := Option.some.inj hentry
        rw [← hnow]
        exact .inl ⟨rfl, .unbegun htakes⟩
  · exact h.settled
  · intro k task hk ht hd
    have hk' : k < t.reports.length := hk
    rw [List.getElem?_append_left (by omega)] at ht
    exact h.begun k task hk ht hd
  · intro i hi
    have hi' : i < index := hi
    exact h.unspawned i (by omega)

/-- A wait ends, and the turn with it. -/
lemma settle (h : Books registry fallback p t w) {task : TeardownTask} {outcome : Outcome}
    (hl : t.tasks.length = t.reports.length + 1)
    (ht : t.tasks[t.reports.length]? = some task)
    (hs : Settles (w.trace.span? (registry.turn t.reports.length))
      (registry.deadlineAt fallback (registry.turn t.reports.length)).millis
      (p.turn t.reports.length) w.now outcome)
    (hb : (registry.deadlineAt fallback (registry.turn t.reports.length)).millis ≠ 0 →
      task.task.isUnbegun = false) :
    Books registry fallback (p.close t.reports.length w.now outcome)
      (Teardown.settle registry task outcome t w).1
      (Teardown.settle registry task outcome t w).2 := by
  have hstage := h.stage _ task ht
  have hview : ∀ i, (w.emit (.teardownReported task.index task.deadline outcome)).trace.about
      (Event.concernsTeardown i) = w.trace.about (Event.concernsTeardown i) := fun _ => rfl
  have hold : ∀ k, k < t.reports.length →
      (p.close t.reports.length w.now outcome).turn (k + 1) = p.turn (k + 1) ∧
        (p.close t.reports.length w.now outcome).outcome k = p.outcome k := fun k hk =>
    ⟨p.turn_close_of_le _ _ _ (by omega), p.outcome_close_of_lt _ _ _ hk⟩
  have hlength : (Teardown.settle registry task outcome t w).1.reports.length
      = t.reports.length + 1 := by simp [Teardown.settle]
  refine ⟨h.length_eq, ?_, ?_, ?_, ?_, ?_, ?_, ?_, h.unspawned⟩
  · rw [hlength]
    exact Nat.le_of_eq hl.symm
  · have hspawns : (Teardown.settle registry task outcome t w).2.trace.spawns = w.trace.spawns := by
      simp [Teardown.settle, Record.spawn?]
    rw [hspawns, h.spawns_eq]
    refine List.map_congr_left fun k hk => ?_
    have hlt : k < t.tasks.length := List.mem_range.mp hk
    rw [p.turn_close_of_le _ _ _ (by omega)]
  · have hreports : (Teardown.settle registry task outcome t w).2.trace.reports
        = w.trace.reports ++ [(w.now, task.index, task.deadline, outcome)] := by
      simp [Teardown.settle, Record.report?]
    rw [hreports, h.reports_eq, hlength, List.range_succ, List.map_append]
    congr 1
    · refine List.map_congr_left fun k hk => ?_
      rw [(hold k (List.mem_range.mp hk)).1, (hold k (List.mem_range.mp hk)).2]
    · simp [hstage.index_eq, hstage.deadline_eq]
  · rw [hlength, List.range_succ, List.map_append]
    show t.reports ++ [_] = _
    congr 1
    · refine h.named.trans (List.map_congr_left fun k hk => ?_)
      rw [(hold k (List.mem_range.mp hk)).2]
    · simp [hstage.index_eq, hstage.deadline_eq]
  · intro k task' ht'
    obtain ⟨hlt, -⟩ := List.getElem?_eq_some_iff.mp ht'
    have hlt' : k < t.tasks.length := hlt
    rw [p.turn_close_of_le _ _ _ (by omega)]
    exact (h.stage k task' ht').of_view (hview _) (Nat.le_refl _) (.inl rfl)
  · intro k hk
    rw [hlength] at hk
    rcases Nat.lt_or_ge k t.reports.length with hlt | hge
    · rw [(hold k hlt).1, (hold k hlt).2, p.turn_close_of_le _ _ _ (Nat.le_of_lt hlt)]
      exact h.settled k hlt
    · obtain rfl : k = t.reports.length := by omega
      rw [p.turn_close_self, p.outcome_close_self, p.turn_close_of_le _ _ _ (Nat.le_refl _)]
      exact ⟨Nat.le_refl _, hs⟩
  · intro k task' hk ht' hd
    rw [hlength] at hk
    rcases Nat.lt_or_ge k t.reports.length with hlt | hge
    · exact h.begun k task' hlt ht' hd
    · obtain rfl : k = t.reports.length := by omega
      obtain rfl : task = task' := Option.some.inj (ht.symm.trans ht')
      exact hb hd

/-- Different turns are those of different places. -/
lemma turn_ne (h : Books registry fallback p t w) {k number : Nat} (hk : k < t.tasks.length)
    (hnumber : number < t.tasks.length) (hne : number ≠ k) :
    registry.turn number ≠ registry.turn k := by
  have hlength := h.length_eq
  rw [Registry.turn, Registry.turn]
  omega

/-- A teardown routine goes on. -/
lemma poll (h : Books registry fallback p t w) {number owner : Nat} {task : TeardownTask}
    {polled : Task} (ht : t.tasks[number]? = some task) (hr : task.task.ready w owner = true)
    (hadv : task.task.Advances (.teardownBegun task.index task.deadline)
      (.teardownEnded task.index) w polled w') :
    Books registry fallback p
      { t with tasks := t.tasks.set number { task with task := polled } } w' := by
  have hstage := h.stage number task ht
  have hn := Task.hasEnded_of_ready hr
  obtain ⟨hnumber, -⟩ := List.getElem?_eq_some_iff.mp ht
  obtain ⟨hspawns, hreports⟩ := Trace.spawns_reports_congr
    (hadv.about_eq_of_other Event.isOfCoordinator_of_isNote rfl fun _ => rfl)
  have hnow := hadv.now_eq
  refine ⟨?_, ?_, ?_, ?_, h.named, ?_, ?_, ?_, ?_⟩
  · simpa using h.length_eq
  · simpa using h.reports_le
  · simpa [hspawns] using h.spawns_eq
  · simpa [hreports] using h.reports_eq
  · intro k task' ht'
    rw [List.getElem?_set] at ht'
    by_cases hk : number = k
    · subst hk
      obtain rfl : _ = task' := by simpa [hnumber] using ht'
      exact hstage.advance hadv hn
    · rw [if_neg hk] at ht'
      obtain ⟨hlt, -⟩ := List.getElem?_eq_some_iff.mp ht'
      exact (h.stage k task' ht').of_view
        (hstage.about_of_advances_other hadv (h.turn_ne hlt hnumber hk)) (Nat.le_of_eq hnow.symm)
        (.inl hnow)
  · intro k hk
    obtain ⟨hturn, hsettles⟩ := h.settled k hk
    rw [hnow]
    refine ⟨hturn, ?_⟩
    by_cases hkn : number = k
    · subst hkn
      -- The wait is over and the routine still went on, so its deadline had passed.
      cases hsettles with
      | inTime span ending hspan hle hpos hs ho =>
          rw [hstage.span?_eq_none hn] at hspan
          cases hspan
      | late hspan hs ho =>
          refine .late (fun span ending hspan' => ?_) hs ho
          rw [hstage.span?_of_advances hadv hn] at hspan'
          obtain ⟨ending', -, heq⟩ := Option.map_eq_some_iff.mp hspan'
          have hspan'' : w.now - p.turn number = span := congrArg Prod.fst heq
          omega
    · have hlt : k < t.tasks.length := Nat.lt_of_lt_of_le hk h.reports_le
      rw [Trace.span?, hstage.about_of_advances_other hadv (h.turn_ne hlt hnumber hkn)]
      exact hsettles
  · intro k task' hk ht' hd
    rw [List.getElem?_set] at ht'
    by_cases hkn : number = k
    · subst hkn
      obtain rfl : _ = task' := by simpa [hnumber] using ht'
      exact hadv.begun
    · rw [if_neg hkn] at ht'
      exact h.begun k task' hk ht' hd
  · intro index hi
    have hi' : index < t.remaining := hi
    have hlength := h.length_eq
    have hne : registry.turn number ≠ index := by
      rw [Registry.turn]
      omega
    rw [hstage.about_of_advances_other hadv hne]
    exact h.unspawned index hi'

end Books

namespace Ledger

variable {start : Nat} {p : Timetable} {t t' : Teardown} {w w' : World}

/-- The books of a teardown that begins now. -/
lemma begin_ (htr : w.trace.about Event.isOfTeardown = []) :
    Ledger registry fallback w.now ⟨fun _ => w.now, fun _ => .timedOut⟩
      (Teardown.empty.begin_ registry) w := by
  have hview : w.trace.about Event.isOfTeardown = Trace.about Event.isOfTeardown [] := htr
  obtain ⟨⟨hspawns, hreports⟩, habout⟩ := Trace.views_congr hview
  refine ⟨rfl, ?_, .free rfl rfl fun _ => rfl⟩
  refine ⟨rfl, Nat.le_refl _, hspawns, hreports, rfl, ?_, ?_, ?_, fun index _ => habout index⟩
  · intro k task ht
    cases ht
  · intro k hk
    cases hk
  · intro k task hk
    cases hk

/-- A coordinator that waits for nothing waits until no instant. -/
lemma awaitingUntil_of_awaited (h : Ledger registry fallback start p t w) (ha : t.awaited = none) :
    t.awaitingUntil = none := by
  cases h.standing with
  | free hnone _ _ => exact hnone
  | waiting hl hawait =>
      have hsome := Teardown.isSome_awaited t
      have htasks : t.tasks ≠ [] := by
        rintro hnil
        rw [hnil] at hl
        cases hl
      simp [ha, hawait, htasks] at hsome

/-- A coordinator that waits for nothing has just finished with a registration. -/
lemma free_of_awaited (h : Ledger registry fallback start p t w) (ha : t.awaited = none) :
    t.tasks.length = t.reports.length ∧ (0 < t.remaining → w.now = p.turn t.tasks.length) := by
  cases h.standing with
  | free _ hl hnow => exact ⟨hl, hnow⟩
  | waiting _ hawait => simp [h.awaitingUntil_of_awaited ha] at hawait

/-- What the coordinator waits for is the teardown spawned last, whose deadline has some length. -/
lemma of_awaited (h : Ledger registry fallback start p t w) {task : TeardownTask} {until_ : Nat}
    (ha : t.awaited = some (task, until_)) :
    t.tasks.length = t.reports.length + 1 ∧ t.tasks[t.reports.length]? = some task ∧
      (registry.deadlineAt fallback (registry.turn t.reports.length)).millis ≠ 0 := by
  obtain ⟨huntil, hlast⟩ := Teardown.awaited_eq_some ha
  cases h.standing with
  | free hnone => simp [huntil] at hnone
  | waiting hl hawait hpos hnow hend =>
      refine ⟨hl, ?_, hpos⟩
      rw [List.getLast?_eq_getElem?, hl] at hlast
      exact hlast

/-- A wait that is over has ended as it had to, and what was waited for has begun. -/
lemma settles (h : Ledger registry fallback start p t w) {task : TeardownTask} {until_ : Nat}
    {outcome : Outcome} (ha : t.awaited = some (task, until_))
    (ho : Teardown.outcome? task until_ w = some outcome) :
    Settles (w.trace.span? (registry.turn t.reports.length))
        (registry.deadlineAt fallback (registry.turn t.reports.length)).millis
        (p.turn t.reports.length) w.now outcome ∧
      task.task.isUnbegun = false := by
  obtain ⟨huntil, -⟩ := Teardown.awaited_eq_some ha
  obtain ⟨-, ht, -⟩ := h.of_awaited ha
  have hstage := h.books.stage _ task ht
  cases h.standing with
  | free hnone => simp [huntil] at hnone
  | waiting hl hawait hpos hnow hend =>
      obtain rfl : until_ = _ := Option.some.inj (huntil.symm.trans hawait)
      rw [Teardown.outcome?] at ho
      cases hended : task.task.ending? with
      | some ending =>
          obtain ⟨span, hspan⟩ := hstage.span?_eq_some (Task.eq_ended hended)
          have hat := hend span ending hspan
          rw [hended] at ho
          refine ⟨.inTime span ending hspan (by omega) hpos hat (Option.some.inj ho).symm, ?_⟩
          rw [Task.eq_ended hended]
          rfl
      | none =>
          rw [hended] at ho
          obtain ⟨hle, ho⟩ := Option.ite_none_right_eq_some.mp ho
          have hat : w.now = p.turn t.reports.length
              + (registry.deadlineAt fallback (registry.turn t.reports.length)).millis := by
            omega
          refine ⟨.late ?_ hat (Option.some.inj ho).symm, Bool.eq_false_iff.mpr fun hu => ?_⟩
          · intro span ending hspan
            rw [hstage.span?_eq_none (Task.hasEnded_eq_false hended)] at hspan
            cases hspan
          -- A deadline of some length cannot have passed at the instant of the spawn.
          · have hfresh := hstage.fresh hu
            omega

/-- Every move of the coordinator keeps the books. -/
theorem coordinate (h : Ledger registry fallback start p t w)
    (hm : Teardown.Move registry fallback (t, w) (t', w')) :
    ∃ p', Ledger registry fallback start p' t' w' := by
  cases hm with
  | @skip _ _ index hr ha he =>
      have hlength := h.books.length_eq
      have hnone := List.getElem?_eq_none_iff.mp he
      rw [Registry.size] at hlength
      omega
  | @spawn _ _ index entry hr ha he hd =>
      obtain ⟨hl, hnow⟩ := h.free_of_awaited ha
      have hat : w.now = p.turn t.tasks.length := hnow (by omega)
      have hturn := h.books.turn_length hr
      have hdeadline := registry.deadlineAt_of_getElem? fallback he
      have hbooks := h.books.spawn hr he hl hat
        (some (w.now + (entry.effectiveDeadline fallback).millis))
      have hstage := hbooks.stage t.tasks.length _ List.getElem?_concat_length
      rw [hl] at hat hturn hstage
      refine ⟨p, h.origin, hbooks, .waiting (by simp [hl]) ?_ ?_ ?_ fun span ending hspan => ?_⟩
      · rw [hturn, hdeadline, ← hat]
      · rw [hturn, hdeadline]
        exact hd
      · rw [hturn, hdeadline, ← hat]
        exact Nat.le_add_right _ _
      · rw [hstage.span?_eq_none rfl] at hspan
        cases hspan
  | @expire _ _ index entry hr ha he hd =>
      obtain ⟨hl, hnow⟩ := h.free_of_awaited ha
      have hat : w.now = p.turn t.tasks.length := hnow (by omega)
      have hturn := h.books.turn_length hr
      have hdeadline := registry.deadlineAt_of_getElem? fallback he
      have hbooks := h.books.spawn hr he hl hat none
      have hlast := List.getElem?_concat_length (l := t.tasks)
        (a := ⟨index, entry.effectiveDeadline fallback,
          .unbegun (entry.component.teardown (entry.effectiveDeadline fallback))⟩)
      have hstage := hbooks.stage t.tasks.length _ hlast
      rw [hl] at hat hturn hstage hlast
      have hzero : (registry.deadlineAt fallback (registry.turn t.reports.length)).millis = 0 := by
        rw [hturn, hdeadline]
        exact hd
      have hlate : ∀ took, Settles took
          (registry.deadlineAt fallback (registry.turn t.reports.length)).millis
          (p.turn t.reports.length) w.now .timedOut := fun took =>
        .late (fun span ending _ => by rw [hzero]; exact Nat.zero_le span)
          (by rw [hzero]; exact hat) rfl
      have hsettled := hbooks.settle (by simp [hl]) hlast (hlate _) fun hne => absurd hzero hne
      have hname : registry.nameAt index = entry.name := by
        rw [Registry.nameAt, he]
        rfl
      simp only [Teardown.settle, hname] at hsettled
      refine ⟨_, ?_, hsettled, .free rfl (by simp [hl]) fun _ => ?_⟩
      · rw [p.turn_close_of_le _ _ _ (Nat.zero_le _)]
        exact h.origin
      · simp [hl]
  | @settle _ _ task until_ outcome ha ho =>
      obtain ⟨hl, ht, -⟩ := h.of_awaited ha
      obtain ⟨hsettles, hbegun⟩ := h.settles ha ho
      have hsettled := h.books.settle hl ht hsettles fun _ => hbegun
      refine ⟨_, ?_, hsettled, .free rfl (by simp [hl]) fun _ => ?_⟩
      · rw [p.turn_close_of_le _ _ _ (Nat.zero_le _)]
        exact h.origin
      · simp [hl]

/-- A poll of a teardown routine keeps the books. -/
theorem poll (h : Ledger registry fallback start p t w) {number owner : Nat} {task : TeardownTask}
    {polled : Task} (ht : t.tasks[number]? = some task) (hr : task.task.ready w owner = true)
    (hadv : task.task.Advances (.teardownBegun task.index task.deadline)
      (.teardownEnded task.index) w polled w') :
    Ledger registry fallback start p
      { t with tasks := t.tasks.set number { task with task := polled } } w' := by
  have hn := Task.hasEnded_of_ready hr
  have hstage := h.books.stage number task ht
  obtain ⟨hnumber, -⟩ := List.getElem?_eq_some_iff.mp ht
  refine ⟨h.origin, h.books.poll ht hr hadv, ?_⟩
  cases h.standing with
  | free ha hl hnow =>
      refine .free ha (by simpa using hl) fun hpos => ?_
      rw [hadv.now_eq, List.length_set]
      exact hnow hpos
  | waiting hl ha hpos hnow hend =>
      refine .waiting (by simpa using hl) ha hpos (by rwa [hadv.now_eq]) fun span ending hspan => ?_
      show w'.now = p.turn t.reports.length + span
      have hspan' : w'.trace.span? (registry.turn t.reports.length) = some (span, ending) := hspan
      rw [hadv.now_eq]
      by_cases hk : number = t.reports.length
      · rw [← hk] at hspan' ⊢
        rw [hstage.span?_of_advances hadv hn] at hspan'
        obtain ⟨ending', -, heq⟩ := Option.map_eq_some_iff.mp hspan'
        have hspan'' : w.now - p.turn number = span := congrArg Prod.fst heq
        have hle := hstage.start_le
        omega
      · have hne := h.books.turn_ne (k := t.reports.length) (by omega) hnumber hk
        rw [Trace.span?, hstage.about_of_advances_other hadv hne] at hspan'
        exact hend span ending hspan'

/-- Something else than the teardown is recorded. -/
lemma of_view (h : Ledger registry fallback start p t w)
    (hv : w'.trace.about Event.isOfTeardown = w.trace.about Event.isOfTeardown)
    (hnow : w'.now = w.now) : Ledger registry fallback start p t w' := by
  refine ⟨h.origin, h.books.of_view hv (Nat.le_of_eq hnow.symm) (.inl hnow), ?_⟩
  have hspan : ∀ index, w'.trace.span? index = w.trace.span? index := fun index => by
    rw [Trace.span?, Trace.span?, (Trace.views_congr hv).2]
  cases h.standing with
  | free ha hl hat => exact .free ha hl (by rwa [hnow])
  | waiting hl ha hpos hle hend => exact .waiting hl ha hpos (by rwa [hnow]) (by rwa [hnow, hspan])

/-- Time passes while the coordinator and every teardown rest. -/
theorem wait (h : Ledger registry fallback start p t w)
    (hv : w'.trace.about Event.isOfTeardown = w.trace.about Event.isOfTeardown)
    (hle : w.now ≤ w'.now)
    (hrest : ∀ (k : Nat) (task : TeardownTask), t.tasks[k]? = some task →
      task.task.Rests w w'.now)
    (hready : t.ready w = false) (hparked : t.awaited.isSome = true ∨ t.isOver = true)
    (huntil : ∀ until_, t.awaitingUntil = some until_ → w.now ≤ until_ → w'.now ≤ until_) :
    Ledger registry fallback start p t w' := by
  refine ⟨h.origin, h.books.of_view hv hle (.inr hrest), ?_⟩
  have hspan : ∀ index, w'.trace.span? index = w.trace.span? index := fun index => by
    rw [Trace.span?, Trace.span?, (Trace.views_congr hv).2]
  cases h.standing with
  | free ha hl hat =>
      refine .free ha hl fun hpos => ?_
      rcases hparked with hsome | hover
      · rw [Teardown.awaited_of_none ha] at hsome
        cases hsome
      · simp only [Teardown.isOver, Bool.and_eq_true, decide_eq_true_eq] at hover
        omega
  | waiting hl ha hpos hnow hend =>
      refine .waiting hl ha hpos (huntil _ ha hnow) fun span ending hspan' => ?_
      obtain ⟨task, ht⟩ : ∃ task, t.tasks[t.reports.length]? = some task :=
        ⟨_, List.getElem?_eq_getElem (by omega)⟩
      have hlast : t.tasks.getLast? = some task := by
        rw [List.getLast?_eq_getElem?, hl]
        exact ht
      obtain ⟨until_, hawaited⟩ : ∃ until_, t.awaited = some (task, until_) :=
        ⟨_, by rw [Teardown.awaited, ha, hlast]; rfl⟩
      have hnone : task.task.ending? = none := by
        cases hended : task.task.ending? with
        | none => rfl
        | some ending => simp [Teardown.ready, hawaited, Teardown.outcome?, hended] at hready
      rw [hspan, (h.books.stage _ _ ht).span?_eq_none (Task.hasEnded_eq_false hnone)] at hspan'
      cases hspan'

end Ledger

end ServiceSupervisor
