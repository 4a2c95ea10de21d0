import ServiceSupervisor.Proofs.Drain

/-!
Which teardowns have begun when they are reported, and in what order they begin.

A teardown is spawned as a task, and the coordinator looks at it for the first time before the task
could be polled.  A deadline of no length has passed then, so that teardown is reported before it
begins; every other one has begun.

* `Trace.HasBegun`: the teardown routine at a place has begun;
* `Stage.hasBegun_iff`, `Books.hasBegun`: the books tell which routines have begun;
* `Run.Reached.reports_after_begins`: a teardown has begun before its report exactly if its deadline
  has some length;
* `Run.Reached.begins_in_turn`: the routines with a deadline of some length begin in reverse order
  of registration, while the run shuts down;
* `Run.begins_before_report`: the theorem on the beginnings.
-/

namespace ServiceSupervisor

/-- Whether an event is the beginning of a teardown routine. -/
def Event.isTeardownBegun : Event → Bool
  | .teardownBegun _ _ => true
  | _ => false

/-- The teardown routine at a place has begun. -/
def Trace.HasBegun (tr : Trace) (index : Nat) : Prop :=
  ∃ time phase deadline, ⟨time, phase, .teardownBegun index deadline⟩ ∈ tr

/-- What has begun is on the record of its place. -/
lemma Trace.HasBegun.about_ne_nil {tr : Trace} {index : Nat} (h : tr.HasBegun index) :
    tr.about (Event.concernsTeardown index) ≠ [] := by
  obtain ⟨time, phase, deadline, hmem⟩ := h
  have hview : (⟨time, phase, .teardownBegun index deadline⟩ : Record) ∈
      tr.about (Event.concernsTeardown index) :=
    Trace.mem_about.mpr ⟨hmem, by simp [Event.concernsTeardown]⟩
  exact List.ne_nil_of_mem hview

variable {registry : Registry} {fallback : Duration}

/-! ### What the books tell -/

/-- A teardown has begun exactly if its task has. -/
lemma Stage.hasBegun_iff {k start : Nat} {w : World} {task : TeardownTask}
    (h : Stage registry fallback k start w task) :
    w.trace.HasBegun (registry.turn k) ↔ task.task.isUnbegun = false := by
  have hc := h.chronicle
  have hindex := h.index_eq
  generalize hview : w.trace.about (Event.concernsTeardown (registry.turn k)) = view at hc
  constructor
  · intro hb
    have hne := hb.about_ne_nil
    rw [hview] at hne
    generalize task.task = state at hc ⊢
    cases hc with
    | unbegun routine => exact absurd rfl hne
    | running phase hu he => exact hu
    | ended ending phase phase' hle => rfl
  · intro hu
    obtain ⟨phase, hmem⟩ : ∃ phase,
        (⟨start, phase, .teardownBegun task.index task.deadline⟩ : Record) ∈ view := by
      generalize task.task = state at hc hu
      cases hc with
      | unbegun routine => cases hu
      | running phase hu' he => exact ⟨phase, List.mem_singleton_self _⟩
      | ended ending phase phase' hle =>
          exact ⟨phase, List.mem_cons_of_mem _ (List.mem_singleton_self _)⟩
    rw [← hview, hindex] at hmem
    exact ⟨start, phase, task.deadline, (Trace.mem_about.mp hmem).1⟩

/-- A teardown that has been waited for has begun. -/
lemma Books.hasBegun {p : Timetable} {t : Teardown} {w : World}
    (h : Books registry fallback p t w) {k : Nat} (hk : k < t.reports.length)
    (hd : (registry.deadlineAt fallback (registry.turn k)).millis ≠ 0) :
    w.trace.HasBegun (registry.turn k) := by
  obtain ⟨task, ht⟩ : ∃ task, t.tasks[k]? = some task :=
    ⟨_, List.getElem?_eq_getElem (Nat.lt_of_lt_of_le hk h.reports_le)⟩
  exact (h.stage k task ht).hasBegun_iff.mpr (h.begun k task hk ht hd)

/-- Every place has its turn. -/
lemma Registry.turn_turn (registry : Registry) {index : Nat} (hi : index < registry.size) :
    registry.turn (registry.turn index) = index := by
  rw [turn, turn]
  omega

namespace Run

variable {app : Application} {r r' : Run}

/-- A report of a teardown gives its effective deadline, and comes after its beginning exactly if
the deadline has some length. -/
def ReportsBegun (app : Application) (x : Record) (before : Trace) : Prop :=
  ∀ index deadline outcome, x.event = .teardownReported index deadline outcome →
    deadline = app.registry.deadlineAt app.shutdownTimeout index ∧
      (before.HasBegun index ↔ deadline.millis ≠ 0)

/-- A teardown routine that begins has not begun before, those registered later have begun unless
their deadline has no length, and the run shuts down unless its own deadline has none. -/
def BeginsInTurn (app : Application) (x : Record) (before : Trace) : Prop :=
  ∀ index deadline, x.event = .teardownBegun index deadline →
    ¬ before.HasBegun index ∧
      (∀ later, index < later → later < app.registry.size →
        (app.registry.deadlineAt app.shutdownTimeout later).millis ≠ 0 → before.HasBegun later) ∧
      (deadline.millis ≠ 0 → x.phase = .shuttingDown)

/-! ### Begun before it is reported -/

/-- **A report comes after the beginning, unless the deadline has no length.** -/
theorem Reached.reports_after_begins (h : Reached app r) :
    r.world.trace.Always (ReportsBegun app) := by
  have hother : ∀ (x : Record) (before : Trace), x.event.isOfCoordinator = false →
      ReportsBegun app x before := by
    intro x before hx index deadline outcome he
    rw [he] at hx
    cases hx
  induction h with
  | initial signals wallClock =>
      refine Trace.always_of_about ?_ hother
      exact about_initial signals wallClock Event.isOfCoordinator_of_isNote fun _ _ => rfl
  | @move r r' h hm ih =>
      cases hm.teardownSide with
      | @coordinate t w hc hmove hw =>
          obtain ⟨first, hc⟩ := h.stopping_of_works hc
          obtain ⟨_, _, -, -, htearing⟩ := h.tearing ⟨first, .inl hc⟩
          obtain ⟨p, hledger⟩ := htearing.ledger
          rw [hw]
          cases hmove with
          | skip hr ha he => exact ih
          | spawn hr ha he hd =>
              refine ⟨fun _ _ _ he => ?_, ih⟩
              cases he
          | @expire _ _ index entry hr ha he hd =>
              refine ⟨fun index' deadline outcome heq => ?_, fun _ _ _ he => ?_, ih⟩
              · obtain ⟨rfl, rfl, -⟩ := Event.teardownReported.inj heq
                refine ⟨(app.registry.deadlineAt_of_getElem? _ he).symm, fun hbegun => ?_,
                  fun hne => absurd hd hne⟩
                have hnone := hledger.books.unspawned index (by omega)
                exact absurd (by simpa [Event.concernsTeardown] using hnone) hbegun.about_ne_nil
              · cases he
          | @settle _ _ task until_ outcome ha ho =>
              refine ⟨fun index deadline outcome' heq => ?_, ih⟩
              obtain ⟨rfl, rfl, -⟩ := Event.teardownReported.inj heq
              obtain ⟨-, ht, hd⟩ := hledger.of_awaited ha
              obtain ⟨-, hbegun⟩ := hledger.settles ha ho
              have hstage := hledger.books.stage _ task ht
              rw [hstage.deadline_eq, hstage.index_eq]
              exact ⟨rfl, fun _ => hd, fun _ => hstage.hasBegun_iff.mpr hbegun⟩
      | poll number owner task polled ht hr hadv =>
          exact hm.grows.always
            (hadv.about_eq_of_other Event.isOfCoordinator_of_isNote rfl fun _ => rfl) hother ih
      | rest hv => exact hm.grows.always (Trace.about_isOfCoordinator_congr hv) hother ih

/-! ### Begun in turn -/

/-- A teardown routine goes on only after the drain. -/
lemma Reached.tearing_of_task (h : Reached app r) {number : Nat} {task : TeardownTask}
    (ht : r.teardown.tasks[number]? = some task) :
    (∃ first, r.control = .stopping first ∨ r.control = .returned first) ∧
      ∃ start, Tearing app start r := by
  have hc : ∃ first, r.control = .stopping first ∨ r.control = .returned first := by
    by_contra hnot
    have hempty := (h.untouched fun first =>
      ⟨fun hc => hnot ⟨first, .inl hc⟩, fun hc => hnot ⟨first, .inr hc⟩⟩).1
    rw [hempty] at ht
    cases ht
  obtain ⟨_, start, -, -, htearing⟩ := h.tearing hc
  exact ⟨hc, start, htearing⟩

/-- A routine that begins has not begun before, those with a deadline of some length whose turn was
earlier have, and the run shuts down if its own deadline has some length. -/
lemma Reached.beginning (h : Reached app r) {number : Nat} {task : TeardownTask}
    (ht : r.teardown.tasks[number]? = some task) (hu : task.task.isUnbegun = true) :
    ¬ r.world.trace.HasBegun task.index ∧
      (∀ later, task.index < later → later < app.registry.size →
        (app.registry.deadlineAt app.shutdownTimeout later).millis ≠ 0 →
          r.world.trace.HasBegun later) ∧
      (task.deadline.millis ≠ 0 → r.world.phase = .shuttingDown) := by
  obtain ⟨hc, start, htearing⟩ := h.tearing_of_task ht
  obtain ⟨p, hledger⟩ := htearing.ledger
  have hbooks := hledger.books
  have hstage := hbooks.stage number task ht
  have hlength := hbooks.length_eq
  obtain ⟨hnumber, -⟩ := List.getElem?_eq_some_iff.mp ht
  have hreported := hledger.tasks_length_le
  refine ⟨fun hbegun => ?_, fun later hlt hsize hd => ?_, fun hd => ?_⟩
  · rw [hstage.index_eq, hstage.hasBegun_iff, hu] at hbegun
    cases hbegun
  · have hindex := hstage.index_eq
    rw [Registry.turn] at hindex
    have hturn : app.registry.turn later < number := by
      rw [Registry.turn]
      omega
    have hbegun := hbooks.hasBegun (k := app.registry.turn later) (by omega)
    rw [app.registry.turn_turn hsize] at hbegun
    exact hbegun hd
  · rw [h.phase_eq]
    rcases hc with ⟨first, hc | hc⟩
    · rw [hc, Control.phase]
    · -- The supervisor has returned, so the routine has been reported and was waited for.
      exfalso
      have hover := htearing.isOver_of_returned hc
      simp only [Teardown.isOver, Bool.and_eq_true, Option.isNone_iff_eq_none] at hover
      obtain ⟨hl, -⟩ := hledger.free_of_awaited hover.2
      have hbegun := hbooks.begun number task (by omega) ht (by rwa [← hstage.deadline_eq])
      rw [hu] at hbegun
      cases hbegun

/-- **The routines begin in turn.**  Each begins once, those registered later have begun before
unless their deadline has no length, and while the run shuts down unless its own has none. -/
theorem Reached.begins_in_turn (h : Reached app r) :
    r.world.trace.Always (BeginsInTurn app) := by
  have hother : ∀ (x : Record) (before : Trace), x.event.isTeardownBegun = false →
      BeginsInTurn app x before := by
    intro x before hx index deadline he
    rw [he] at hx
    cases hx
  have hwider : ∀ e : Event, e.isTeardownBegun = true → e.isOfTeardown = true := by
    intro e he
    cases e <;> first | rfl | cases he
  induction h with
  | initial signals wallClock =>
      refine Trace.always_of_about ?_ hother
      exact about_initial signals wallClock (fun e he => by cases e <;> first | rfl | cases he)
        fun _ _ => rfl
  | @move r r' h hm ih =>
      cases hm.teardownSide with
      | coordinate hc hmove hw =>
          rw [hw]
          exact hmove.grows.always (by cases hmove <;> rfl) hother ih
      | poll number owner task polled ht hr hadv =>
          obtain ⟨notes, hnotes, htr⟩ := hadv.trace_eq
          have hbegin : Trace.Always (BeginsInTurn app)
              (Task.beginMark (.teardownBegun task.index task.deadline) r.world task.task
                ++ r.world.trace) := by
            rw [Task.beginMark]
            split
            · rename_i hu
              refine ⟨fun index deadline heq => ?_, ih⟩
              obtain ⟨rfl, rfl⟩ := Event.teardownBegun.inj heq
              exact h.beginning ht hu
            · exact ih
          rw [htr]
          refine Trace.always_append (Trace.always_append hbegin fun x hx before =>
            hother x before ?_) fun x hx before => hother x before ?_
          · have hnote := (hnotes x hx).1
            cases hevent : x.event <;> first | rfl | simp [hevent, Event.isNote] at hnote
          · rw [Task.endMark] at hx
            split at hx
            · cases hx
            · rw [List.mem_singleton.mp hx]
              rfl
      | rest hv =>
          refine hm.grows.always ?_ hother ih
          rw [← Trace.about_about hwider r'.world.trace, hv, Trace.about_about hwider]

/-- When the supervisor has returned, every teardown has begun whose deadline has some length. -/
lemma Reached.hasBegun_of_returned (h : Reached app r) {first : Option Culprit}
    (hc : r.control = .returned first) {index : Nat} (hi : index < app.registry.size)
    (hd : (app.registry.deadlineAt app.shutdownTimeout index).millis ≠ 0) :
    r.world.trace.HasBegun index := by
  obtain ⟨_, _, -, -, htearing⟩ := h.tearing ⟨first, .inr hc⟩
  obtain ⟨p, hledger⟩ := htearing.ledger
  have hover := htearing.isOver_of_returned hc
  simp only [Teardown.isOver, Bool.and_eq_true, decide_eq_true_eq, Option.isNone_iff_eq_none]
    at hover
  obtain ⟨hl, -⟩ := hledger.free_of_awaited hover.2
  have hlength := hledger.books.length_eq
  have hturn : app.registry.turn index < r.teardown.reports.length := by
    rw [Registry.turn]
    omega
  have hbegun := hledger.books.hasBegun hturn
  rw [app.registry.turn_turn hi] at hbegun
  exact hbegun hd

/-! ### The theorem on the beginnings -/

/-- **Which teardowns have begun.**  In every run, whatever the routines do and in whatever order
the tasks go on: when a teardown is reported it has begun exactly if its effective deadline has some
length; the routines begin at most once and in reverse order of registration, where only those with
a deadline of no length can be late; each of the others begins while the run shuts down; and when
the run has returned they have all begun. -/
theorem begins_before_report (app : Application) (signals : Signals)
    (wallClock : Nat → Timestamp) (labels : List Label) (r : Run)
    (h : (Run.initial app signals wallClock).steps? app labels = some r) :
    (∀ after x before, r.world.trace = after ++ x :: before →
        ReportsBegun app x before ∧ BeginsInTurn app x before) ∧
      (r.result?.isSome = true → ∀ index, index < app.registry.size →
        (app.registry.deadlineAt app.shutdownTimeout index).millis ≠ 0 →
          r.world.trace.HasBegun index) := by
  obtain ⟨hreached, -⟩ := reached_of_steps? h
  refine ⟨fun after x before htr => ⟨?_, ?_⟩, fun hresult index hi hd => ?_⟩
  · exact Trace.always_iff.mp hreached.reports_after_begins after x before htr
  · exact Trace.always_iff.mp hreached.begins_in_turn after x before htr
  · obtain ⟨first, hfirst⟩ := Option.isSome_iff_exists.mp hresult
    exact hreached.hasBegun_of_returned (control_of_result? hfirst) hi hd

/-- When the service of the store and the server has returned the teardown of the server has begun.
That of the store, which is given no time, has not. -/
theorem beginnings_of_storeAndServer : ∃ r,
    (Run.initial .storeAndServer .fresh fun _ => 0).steps? .storeAndServer storeAndServerSchedule
        = some r ∧
      r.result?.isSome = true ∧ r.world.trace.HasBegun 1 ∧ ¬ r.world.trace.HasBegun 0 :=
  ⟨_, rfl, rfl, (begins_before_report .storeAndServer .fresh (fun _ => 0)
    storeAndServerSchedule _ rfl).2 rfl 1 (by decide) (by decide), fun h => h.about_ne_nil rfl⟩

end Run

end ServiceSupervisor
