import ServiceSupervisor.Proofs.Delays
import ServiceSupervisor.Proofs.Dispositions
import ServiceSupervisor.Proofs.Trace

/-!
What a poll of a task or of a recurring job may do to the world.

* `World.Told`: the trace tells whether the shared token is cancelled;
* `World.Ripples`: time stands still, the phase stays, a cancellation is not taken back and is
  recorded, signals are raised and nothing else is done to them, and the trace grows by notes
  alone; `Routine.exec_spec`, `Task.poll_spec` and `World.pollLoop_ripples` say so of a routine, a
  task and a loop;
* `World.Grows`: the clock does not go back, and what is recorded happens at the first instant;
* `Task.Advances`: what `Task.advance` does besides (`Task.advances_advance`): the beginning of the
  task is the first thing recorded, its end the last;
* `Task.Chronicle`: what a trace tells of a task in its state.
-/

namespace ServiceSupervisor

/-! ### Single events -/

namespace World

variable (w : World) (event : Event) (phase : Phase)

@[simp] lemma now_emit : (w.emit event).now = w.now := rfl

@[simp] lemma phase_emit : (w.emit event).phase = w.phase := rfl

@[simp] lemma cancelled_emit : (w.emit event).cancelled = w.cancelled := rfl

@[simp] lemma trace_emit : (w.emit event).trace = ⟨w.now, w.phase, event⟩ :: w.trace := rfl

@[simp] lemma now_enter : (w.enter phase).now = w.now := rfl

@[simp] lemma phase_enter : (w.enter phase).phase = phase := rfl

@[simp] lemma cancelled_enter : (w.enter phase).cancelled = w.cancelled := rfl

@[simp] lemma trace_enter :
    (w.enter phase).trace = ⟨w.now, phase, .entered phase⟩ :: w.trace := rfl

variable (actor : Option Actor)

@[simp] lemma now_cancel : (w.cancel actor).now = w.now := rfl

@[simp] lemma phase_cancel : (w.cancel actor).phase = w.phase := rfl

@[simp] lemma cancelled_cancel : (w.cancel actor).cancelled = true := rfl

@[simp] lemma trace_cancel :
    (w.cancel actor).trace = ⟨w.now, w.phase, .cancelled actor⟩ :: w.trace := rfl

/-- Several events are recorded one above the other. -/
lemma emitAll_eq (events : List Event) :
    w.emitAll events
      = { w with trace := (events.map fun e => ⟨w.now, w.phase, e⟩).reverse ++ w.trace } := by
  induction events generalizing w with
  | nil => rfl
  | cons event events ih =>
      have hcons : w.emitAll (event :: events) = (w.emit event).emitAll events := rfl
      rw [hcons, ih]
      simp [emit]

/-- Events of other kinds leave the records of a kind as they are. -/
lemma about_emitAll {events : List Event} {kind : Event → Bool}
    (h : ∀ event ∈ events, kind event = false) :
    (w.emitAll events).trace.about kind = w.trace.about kind := by
  induction events generalizing w with
  | nil => rfl
  | cons event events ih =>
      have hcons : w.emitAll (event :: events) = (w.emit event).emitAll events := rfl
      have hhead : kind event = false := h event List.mem_cons_self
      rw [hcons, ih _ fun e he => h e (List.mem_cons_of_mem event he)]
      simp [hhead]

end World

/-- The token is cancelled exactly if a cancellation has been recorded. -/
def World.Told (w : World) : Prop :=
  w.cancelled = w.trace.any fun x => x.event.isCancellation

/-- What happens besides cancellations does not change whether the token is cancelled. -/
lemma World.Told.emit {w : World} (h : w.Told) {event : Event}
    (he : event.isCancellation = false) : (w.emit event).Told := by
  rw [World.Told, World.trace_emit, List.any_cons, he, Bool.false_or]
  exact h

lemma World.told_cancel (w : World) (actor : Option Actor) : (w.cancel actor).Told := rfl

/-- The records of cancellations tell whether the token is cancelled. -/
lemma World.Told.of_about {w w' : World} (h : w.Told) (hc : w'.cancelled = w.cancelled)
    (hv : w'.trace.about Event.isCancellation = w.trace.about Event.isCancellation) : w'.Told := by
  have hany : ∀ tr : Trace, (tr.any fun x => x.event.isCancellation)
      = (tr.about Event.isCancellation).any fun x => x.event.isCancellation := by
    intro tr
    rw [Trace.about, List.any_filter]
    simp
  rw [World.Told, hc, hany, hv, ← hany]
  exact h

lemma World.Told.emitAll {w : World} (h : w.Told) {events : List Event}
    (he : ∀ event ∈ events, event.isCancellation = false) : (w.emitAll events).Told :=
  h.of_about (by rw [World.emitAll_eq]) (w.about_emitAll he)

/-! ### Ripples -/

/-- The second world differs from the first as a poll may make it. -/
structure World.Ripples (w w' : World) : Prop where
  now_eq : w'.now = w.now
  phase_eq : w'.phase = w.phase
  wallClock_eq : w'.wallClock = w.wallClock
  cancelled_of : w.cancelled = true → w'.cancelled = true
  told : w.Told → w'.Told
  louder : w.signals.Louder w'.signals
  trace_eq : ∃ notes, Trace.Notes w.now w.phase notes ∧ w'.trace = notes ++ w.trace

namespace World.Ripples

variable {w w' w'' : World}

lemma refl (w : World) : w.Ripples w :=
  ⟨rfl, rfl, rfl, id, id, .refl _, [], Trace.notes_nil, rfl⟩

lemma trans (h : w.Ripples w') (h' : w'.Ripples w'') : w.Ripples w'' := by
  obtain ⟨notes, hnotes, htr⟩ := h.trace_eq
  obtain ⟨more, hmore, htr'⟩ := h'.trace_eq
  refine ⟨h'.now_eq.trans h.now_eq, h'.phase_eq.trans h.phase_eq,
    h'.wallClock_eq.trans h.wallClock_eq, fun hc => h'.cancelled_of (h.cancelled_of hc),
    fun ht => h'.told (h.told ht), h.louder.trans h'.louder, more ++ notes, ?_,
    by rw [htr', htr, List.append_assoc]⟩
  rw [h.now_eq, h.phase_eq] at hmore
  exact hmore.append hnotes

/-- A kind of events that leaves notes out does not see a ripple. -/
lemma about_eq (h : w.Ripples w') {kind : Event → Bool}
    (hk : ∀ e : Event, e.isNote = true → kind e = false) :
    w'.trace.about kind = w.trace.about kind := by
  obtain ⟨notes, hnotes, htr⟩ := h.trace_eq
  rw [htr, Trace.about_notes_append hnotes hk]

/-- A note is a ripple. -/
lemma emit {event : Event} (he : event.isNote = true) (hc : event.isCancellation = false)
    (w : World) : w.Ripples (w.emit event) :=
  ⟨rfl, rfl, rfl, id, fun ht => ht.emit hc, .refl _, [_], Trace.notes_nil.cons he, rfl⟩

lemma emitAll {events : List Event}
    (he : ∀ event ∈ events, event.isNote = true ∧ event.isCancellation = false) (w : World) :
    w.Ripples (w.emitAll events) := by
  induction events generalizing w with
  | nil => exact refl w
  | cons event events ih =>
      obtain ⟨hnote, hc⟩ := he event List.mem_cons_self
      have hhead := emit hnote hc w
      exact hhead.trans (ih (fun x hx => he x (List.mem_cons_of_mem event hx)) (w.emit event))

/-- A routine that cancels the token leaves a note of it. -/
lemma cancel (w : World) (actor : Actor) : w.Ripples (w.cancel (some actor)) :=
  ⟨rfl, rfl, rfl, fun _ => rfl, fun _ => w.told_cancel _, .refl _, [_], Trace.notes_nil.cons rfl,
    rfl⟩

lemma updateScheduler (w : World) (owner : Nat) (f : Scheduler → Scheduler) :
    w.Ripples (w.updateScheduler owner f) :=
  ⟨rfl, rfl, rfl, id, id, .refl _, [], Trace.notes_nil, rfl⟩

lemma raise (w : World) (signal : Signal) :
    w.Ripples { w with signals := w.signals.raise signal } :=
  ⟨rfl, rfl, rfl, id, id, .raise _ signal, [], Trace.notes_nil, rfl⟩

end World.Ripples

/-! ### Growth -/

/-- The clock of the second world is not behind that of the first, and what was recorded in between
happened at the first one's instant. -/
structure World.Grows (w w' : World) : Prop where
  now_le : w.now ≤ w'.now
  trace_eq : ∃ new, w'.trace = new ++ w.trace ∧ ∀ x ∈ new, x.time = w.now

namespace World.Grows

variable {w w' w'' : World}

lemma refl (w : World) : w.Grows w := ⟨Nat.le_refl _, [], rfl, by simp⟩

lemma emit (w : World) (event : Event) : w.Grows (w.emit event) :=
  ⟨Nat.le_refl _, [_], rfl, by simp⟩

/-- Two growths follow each other if the clock has stood still in the first. -/
lemma trans (h : w.Grows w') (hnow : w'.now = w.now) (h' : w'.Grows w'') : w.Grows w'' := by
  obtain ⟨new, htr, hnew⟩ := h.trace_eq
  obtain ⟨more, htr', hmore⟩ := h'.trace_eq
  refine ⟨Nat.le_trans h.now_le h'.now_le, more ++ new, by rw [htr', htr, List.append_assoc], ?_⟩
  intro x hx
  rcases List.mem_append.mp hx with hx | hx
  · exact (hmore x hx).trans hnow
  · exact hnew x hx

/-- What has been recorded stays recorded. -/
lemma mem (h : w.Grows w') {x : Record} (hx : x ∈ w.trace) : x ∈ w'.trace := by
  obtain ⟨new, htr, -⟩ := h.trace_eq
  rw [htr]
  exact List.mem_append_right new hx

/-- What is recorded in the end was recorded before or happened at the first instant. -/
lemma mem_or (h : w.Grows w') {x : Record}
    (hx : x ∈ w'.trace) : x ∈ w.trace ∨ x.time = w.now := by
  obtain ⟨new, htr, hnew⟩ := h.trace_eq
  rw [htr] at hx
  rcases List.mem_append.mp hx with hx | hx
  · exact .inr (hnew x hx)
  · exact .inl hx

/-- Events of other kinds keep a property that says nothing about them. -/
lemma always (h : w.Grows w') {kind : Event → Bool} {P : Record → Trace → Prop}
    (hv : w'.trace.about kind = w.trace.about kind)
    (hP : ∀ (x : Record) before, kind x.event = false → P x before)
    (hw : Trace.Always P w.trace) : Trace.Always P w'.trace := by
  obtain ⟨new, htr, -⟩ := h.trace_eq
  have hnone : new.about kind = [] := by simpa [htr] using hv
  rw [htr]
  refine Trace.always_append hw fun x hx before => hP x before ?_
  exact Bool.eq_false_iff.mpr (List.filter_eq_nil_iff.mp hnone x hx)

lemma chronological (h : w.Grows w') (hw : Trace.Chronological w.now w.trace) :
    Trace.Chronological w'.now w'.trace := by
  obtain ⟨new, htr, hnew⟩ := h.trace_eq
  rw [htr]
  exact (hw.append hnew).mono h.now_le

end World.Grows

/-- What a poll does makes the world grow. -/
lemma World.Ripples.grows {w w' : World} (h : w.Ripples w') : w.Grows w' := by
  obtain ⟨notes, hnotes, htr⟩ := h.trace_eq
  exact ⟨Nat.le_of_eq h.now_eq.symm, notes, htr, fun x hx => (hnotes x hx).2.1⟩

/-- A loop that is polled changes its scheduler and leaves notes. -/
lemma World.pollLoop_ripples (w : World) (owner number : Nat) (fires : Bool) :
    w.Ripples (w.pollLoop owner number fires) := by
  rw [World.pollLoop]
  refine (World.Ripples.updateScheduler w owner _).trans (World.Ripples.emitAll ?_ _)
  intro event he
  obtain ⟨note, -, rfl⟩ := List.mem_map.mp he
  exact ⟨rfl, rfl⟩

/-! ### Routines -/

/-- Whether a task has not been polled yet. -/
def Task.isUnbegun : Task → Bool
  | .unbegun _ => true
  | _ => false

namespace Routine

variable (actor : Actor) (owner : Nat)

/-- A routine that acts until it has to wait has begun, and whatever it does is a ripple. -/
theorem exec_spec (routine : Routine) (w : World) :
    (routine.exec actor owner w).1.isUnbegun = false ∧
      w.Ripples (routine.exec actor owner w).2 := by
  induction routine generalizing w with
  | stop ending => exact ⟨rfl, .refl w⟩
  | hang => exact ⟨rfl, .refl w⟩
  | pause next ih => exact ⟨rfl, .refl w⟩
  | sleep span next ih =>
      rw [exec]
      split
      · exact ih w
      · exact ⟨rfl, .refl w⟩
  | awaitCancel next ih =>
      rw [exec]
      split
      · exact ih w
      · exact ⟨rfl, .refl w⟩
  | sleepOrCancel span late cancelled ihl ihc =>
      rw [exec]
      split
      · exact ihc w
      · split
        · exact ihl w
        · exact ⟨rfl, .refl w⟩
  | cancel next ih => exact ⟨(ih _).1, (World.Ripples.cancel w actor).trans (ih _).2⟩
  | ifCancelled yes no ihy ihn =>
      rw [exec]
      split
      · exact ihy w
      · exact ihn w
  | note left next ih => exact ⟨(ih _).1, (World.Ripples.emit rfl rfl w).trans (ih _).2⟩
  | raise signal next ih =>
      rw [exec]
      split
      · exact ⟨(ih _).1, (World.Ripples.emit rfl rfl w).trans (ih _).2⟩
      · exact ⟨(ih _).1, ((World.Ripples.raise w signal).trans (.emit rfl rfl _)).trans (ih _).2⟩
  | startJobs next ih =>
      exact ⟨(ih _).1, ((World.Ripples.updateScheduler w owner _).trans (.emit rfl rfl _)).trans
        (ih _).2⟩
  | stopJobs next ih =>
      exact ⟨(ih _).1, (World.Ripples.updateScheduler w owner _).trans (ih _).2⟩
  | awaitJobs span idle late ihi ihl =>
      rw [exec]
      split
      · exact ihi w
      · split
        · exact ihl w
        · exact ⟨rfl, .refl w⟩

end Routine

/-! ### Tasks -/

namespace Task

lemma hasEnded_eq_false {task : Task} (h : task.ending? = none) : task.hasEnded = false := by
  cases task <;> first | rfl | cases h

lemma eq_ended {task : Task} {ending : Ending} (h : task.ending? = some ending) :
    task = .ended ending := by
  cases task <;> cases h
  rfl

section Poll

variable (actor : Actor) (owner : Nat)

/-- A task that has been polled has begun, and whatever it does is a ripple. -/
theorem poll_spec (task : Task) (w : World) :
    (task.poll actor owner w).1.isUnbegun = false ∧ w.Ripples (task.poll actor owner w).2 := by
  cases task with
  | unbegun routine => exact routine.exec_spec actor owner w
  | paused next => exact next.exec_spec actor owner w
  | asleep until_ next =>
      rw [poll]
      split
      · exact next.exec_spec actor owner w
      · exact ⟨rfl, .refl w⟩
  | awaiting next =>
      rw [poll]
      split
      · exact next.exec_spec actor owner w
      · exact ⟨rfl, .refl w⟩
  | racing until_ late cancelled =>
      rw [poll]
      split
      · exact cancelled.exec_spec actor owner w
      · split
        · exact late.exec_spec actor owner w
        · exact ⟨rfl, .refl w⟩
  | joining until_ idle late =>
      rw [poll]
      split
      · exact idle.exec_spec actor owner w
      · split
        · exact late.exec_spec actor owner w
        · exact ⟨rfl, .refl w⟩
  | hung => exact ⟨rfl, .refl w⟩
  | ended ending => exact ⟨rfl, .refl w⟩

end Poll

/-- What is recorded when a task begins. -/
def beginMark (begins : Event) (w : World) (task : Task) : Trace :=
  if task.isUnbegun then [⟨w.now, w.phase, begins⟩] else []

/-- What is recorded when a task has ended. -/
def endMark (ends : Ending → Event) (w : World) (task : Task) : Trace :=
  match task.ending? with
  | none => []
  | some ending => [⟨w.now, w.phase, ends ending⟩]

/-- The second task and world come from the first by a poll: the beginning of the task is recorded
first and its end last, and a task that looks at nothing but the clock ends when it is due. -/
structure Advances (task : Task) (begins : Event) (ends : Ending → Event) (w : World)
    (task' : Task) (w' : World) : Prop where
  now_eq : w'.now = w.now
  phase_eq : w'.phase = w.phase
  wallClock_eq : w'.wallClock = w.wallClock
  cancelled_of : w.cancelled = true → w'.cancelled = true
  told : begins.isCancellation = false → (∀ ending, (ends ending).isCancellation = false) →
    w.Told → w'.Told
  louder : w.signals.Louder w'.signals
  begun : task'.isUnbegun = false
  due : ∀ due, task.Due w.now due → task'.Due w.now due
  trace_eq : ∃ notes, Trace.Notes w.now w.phase notes ∧
    w'.trace = endMark ends w task' ++ (notes ++ (beginMark begins w task ++ w.trace))

section Advance

variable {begins : Event} {ends : Ending → Event} {task task' : Task} {w w' : World}

/-- A task that has not ended and goes on does so as `Advances` says. -/
theorem advances_advance (actor : Actor) (owner : Nat) (h : task.hasEnded = false) :
    task.Advances begins ends w (task.advance begins ends actor owner w).1
      (task.advance begins ends actor owner w).2 := by
  have hann : task.announce begins w = { w with trace := beginMark begins w task ++ w.trace } := by
    cases task <;> rfl
  obtain ⟨hbegun, hrip⟩ := task.poll_spec actor owner (task.announce begins w)
  have hdue : ∀ due, task.Due w.now due →
      (task.poll actor owner (task.announce begins w)).1.Due w.now due := by
    rw [hann]
    exact fun due hdue => Due.poll (w := { w with trace := beginMark begins w task ++ w.trace })
      hdue actor owner
  have hbegin : begins.isCancellation = false → w.Told →
      ({ w with trace := beginMark begins w task ++ w.trace } : World).Told := by
    intro hb ht
    rw [beginMark]
    split
    · exact ht.emit hb
    · exact ht
  obtain ⟨notes, hnotes, htr⟩ := hrip.trace_eq
  rw [advance, h]
  generalize hpoll : task.poll actor owner (task.announce begins w) = polled at *
  obtain ⟨task', w'⟩ := polled
  rw [hann] at hrip hnotes htr
  cases hend : task'.ending? with
  | none =>
      simp only [Bool.false_eq_true, if_false, hend]
      exact ⟨hrip.now_eq, hrip.phase_eq, hrip.wallClock_eq, hrip.cancelled_of,
        fun hb _ ht => hrip.told (hbegin hb ht), hrip.louder, hbegun, hdue, notes, hnotes,
        by simpa [endMark, hend] using htr⟩
  | some ending =>
      simp only [Bool.false_eq_true, if_false, hend]
      refine ⟨hrip.now_eq, hrip.phase_eq, hrip.wallClock_eq, hrip.cancelled_of,
        fun hb he ht => (hrip.told (hbegin hb ht)).emit (he ending), hrip.louder, hbegun, hdue,
        notes, hnotes, ?_⟩
      have hnow : w'.now = w.now := hrip.now_eq
      have hphase : w'.phase = w.phase := hrip.phase_eq
      simp only [World.emit, endMark, hend, hnow, hphase]
      simpa using htr

/-- A task that rests has begun. -/
lemma Rests.isUnbegun {instant : Nat} (h : task.Rests w instant) : task.isUnbegun = false := by
  obtain ⟨⟨owner, hready⟩, -⟩ := h
  cases task <;> first | rfl | cases hready

/-- A task that a poll makes go on has not ended. -/
lemma hasEnded_of_ready {owner : Nat} (h : task.ready w owner = true) : task.hasEnded = false := by
  cases task <;> first | rfl | simp [ready] at h

/-- A task that is ready goes on as `Advances` says. -/
lemma advances_of_ready {actor : Actor} {owner : Nat} (h : task.ready w owner = true)
    (hp : task.advance begins ends actor owner w = (task', w')) :
    task.Advances begins ends w task' w' := by
  have hadv : task.Advances begins ends w (task.advance begins ends actor owner w).1
      (task.advance begins ends actor owner w).2 :=
    advances_advance actor owner (hasEnded_of_ready h)
  rwa [hp] at hadv

lemma Advances.grows (h : task.Advances begins ends w task' w') : w.Grows w' := by
  obtain ⟨notes, hnotes, htr⟩ := h.trace_eq
  refine ⟨Nat.le_of_eq h.now_eq.symm, endMark ends w task' ++ (notes ++ beginMark begins w task),
    by simp [htr], ?_⟩
  intro x hx
  simp only [List.mem_append] at hx
  rcases hx with hx | hx | hx
  · rw [endMark] at hx
    split at hx <;> simp_all
  · exact (hnotes x hx).2.1
  · rw [beginMark] at hx
    split at hx <;> simp_all

/-- What a poll records about its own task. -/
lemma Advances.about_eq (h : task.Advances begins ends w task' w') {kind : Event → Bool}
    (hk : ∀ e : Event, e.isNote = true → kind e = false) (hb : kind begins = true)
    (he : ∀ ending, kind (ends ending) = true) :
    w'.trace.about kind
      = endMark ends w task' ++ (beginMark begins w task ++ w.trace.about kind) := by
  obtain ⟨notes, hnotes, htr⟩ := h.trace_eq
  have hbegin : Trace.about kind (beginMark begins w task) = beginMark begins w task := by
    rw [beginMark]
    split <;> simp [hb]
  have hend : Trace.about kind (endMark ends w task') = endMark ends w task' := by
    rw [endMark]
    split <;> simp [he]
  rw [htr, Trace.about_append, Trace.about_notes_append hnotes hk, Trace.about_append, hbegin, hend]

/-- A poll records nothing of another kind than its task's own. -/
lemma Advances.about_eq_of_other (h : task.Advances begins ends w task' w')
    {kind : Event → Bool} (hk : ∀ e : Event, e.isNote = true → kind e = false)
    (hb : kind begins = false) (he : ∀ ending, kind (ends ending) = false) :
    w'.trace.about kind = w.trace.about kind := by
  obtain ⟨notes, hnotes, htr⟩ := h.trace_eq
  have hbegin : Trace.about kind (beginMark begins w task) = [] := by
    rw [beginMark]
    split <;> simp [hb]
  have hend : Trace.about kind (endMark ends w task') = [] := by
    rw [endMark]
    split <;> simp [he]
  rw [htr, Trace.about_append, Trace.about_notes_append hnotes hk, Trace.about_append, hbegin, hend,
    List.nil_append, List.nil_append]

end Advance

/-! ### What a trace tells of a task -/

/-- The records of a task's beginning and end, latest first, as they fit its state: it began at
`start`, unless it has not begun. -/
inductive Chronicle (begins : Event) (ends : Ending → Event) (start : Nat) : Task → Trace → Prop
  | unbegun (routine : Routine) : Chronicle begins ends start (.unbegun routine) []
  | running {task : Task} (phase : Phase) (hu : task.isUnbegun = false)
      (he : task.ending? = none) : Chronicle begins ends start task [⟨start, phase, begins⟩]
  | ended (ending : Ending) {time : Nat} (phase phase' : Phase) (hle : start ≤ time) :
      Chronicle begins ends start (.ended ending)
        [⟨time, phase', ends ending⟩, ⟨start, phase, begins⟩]

variable {begins : Event} {ends : Ending → Event} {task task' : Task} {w w' : World}

/-- A task that has ended has both its records. -/
lemma Chronicle.of_ended {start : Nat} {ending : Ending} {tr : Trace}
    (h : Chronicle begins ends start (.ended ending) tr) :
    ∃ time phase phase', start ≤ time ∧
      tr = [⟨time, phase', ends ending⟩, ⟨start, phase, begins⟩] := by
  cases h with
  | running phase hu he => cases he
  | ended ending phase phase' hle => exact ⟨_, phase, phase', hle, rfl⟩

/-- What is recorded of a task and is not its end is its beginning. -/
lemma Chronicle.begin_of_mem {start time : Nat} {phase : Phase} {event : Event} {tr : Trace}
    (h : Chronicle begins ends start task tr) (hx : ⟨time, phase, event⟩ ∈ tr)
    (he : ∀ ending, event ≠ ends ending) : time = start ∧ event = begins := by
  cases h with
  | unbegun routine => cases hx
  | running phase' hu hn =>
      obtain ⟨rfl, -, rfl⟩ : time = start ∧ phase = phase' ∧ event = begins := by simpa using hx
      exact ⟨rfl, rfl⟩
  | ended ending phase' phase'' hle =>
      rcases List.mem_cons.mp hx with hx | hx
      · exact absurd (congrArg Record.event hx) (he ending)
      · obtain ⟨rfl, -, rfl⟩ : time = start ∧ phase = phase' ∧ event = begins := by simpa using hx
        exact ⟨rfl, rfl⟩

/-- A poll leaves a task that has not ended with the record of its beginning. -/
lemma Chronicle.beginMark_append {start : Nat} {tr : Trace}
    (h : Chronicle begins ends start task tr) (hn : task.hasEnded = false)
    (hstart : task.isUnbegun = true → start = w.now) :
    ∃ phase, beginMark begins w task ++ tr = [⟨start, phase, begins⟩] := by
  cases h with
  | unbegun routine =>
      obtain rfl := hstart rfl
      exact ⟨w.phase, rfl⟩
  | running phase hu he => exact ⟨phase, by simp [beginMark, hu]⟩
  | ended ending phase phase' hle => cases hn

/-- A poll extends the records of a task as its state changes. -/
lemma Advances.chronicle {start : Nat} {phase : Phase}
    (hadv : task.Advances begins ends w task' w') (hle : start ≤ w.now) :
    Chronicle begins ends start task' (endMark ends w task' ++ [⟨start, phase, begins⟩]) := by
  cases hend : task'.ending? with
  | none => simpa [endMark, hend] using Chronicle.running phase hadv.begun hend
  | some ending =>
      obtain rfl := eq_ended hend
      exact Chronicle.ended ending phase w.phase hle

end Task

end ServiceSupervisor
