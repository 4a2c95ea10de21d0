import Mathlib.Data.List.Forall2
import ServiceSupervisor.Supervisor

/-!
An error in the place of a panic: routines, tasks and the world.

Take two applications that differ in nothing but this: where some routines of the first one panic,
those of the second one return errors.  What is alike in their runs is a relation for each kind of
thing, and whatever acts on things that are alike leaves things that are alike.

* `Exchange`: the two applications, with the panics and the errors in their places;
* `Ending.Alike`, `Routine.Alike`, `Task.Alike`: the same, but for such a panic;
* `World.Alike`: the same world, whose records are alike (`Record.Alike`): everything is recorded
  at the same instants, and only what it says about a panic is something else;
* `Routine.Alike.exec`, `Task.Alike.advance`: routines that are alike go on in the same way.
-/

namespace ServiceSupervisor

/-! ### Lists -/

/-- What is related is there on both sides or on neither. -/
lemma rel_cases {α β : Type} {R : α → β → Prop} {a : Option α} {b : Option β}
    (h : Option.Rel R a b) :
    (a = none ∧ b = none) ∨ ∃ x y, a = some x ∧ b = some y ∧ R x y := by
  cases h with
  | some hxy => exact .inr ⟨_, _, rfl, rfl, hxy⟩
  | none => exact .inl ⟨rfl, rfl⟩

/-- Two lists correspond place by place. -/
def Corresponds {α β : Type} (R : Nat → α → β → Prop) (xs : List α) (ys : List β) : Prop :=
  ∀ i : Nat, Option.Rel (R i) xs[i]? ys[i]?

namespace Corresponds

variable {α β γ : Type} {R : Nat → α → β → Prop} {xs : List α} {ys : List β}

/-- At each place there is something in both lists, or in neither. -/
lemma cases (h : Corresponds R xs ys) (i : Nat) :
    (xs[i]? = none ∧ ys[i]? = none) ∨ ∃ x y, xs[i]? = some x ∧ ys[i]? = some y ∧ R i x y :=
  rel_cases (h i)

lemma length_eq (h : Corresponds R xs ys) : ys.length = xs.length := by
  refine Nat.le_antisymm ?_ ?_
  · rcases h.cases xs.length with ⟨-, hy⟩ | ⟨x, y, hx, -, -⟩
    · exact List.getElem?_eq_none_iff.mp hy
    · simp at hx
  · rcases h.cases ys.length with ⟨hx, -⟩ | ⟨x, y, -, hy, -⟩
    · exact List.getElem?_eq_none_iff.mp hx
    · simp at hy

/-- What does not tell corresponding things apart is the same of both lists. -/
lemma map_zipIdx_eq (h : Corresponds R xs ys) {f : α × Nat → γ} {g : β × Nat → γ}
    (hfg : ∀ i x y, R i x y → g (y, i) = f (x, i)) : ys.zipIdx.map g = xs.zipIdx.map f := by
  refine List.ext_getElem? fun i => ?_
  rw [List.getElem?_map, List.getElem?_map, List.getElem?_zipIdx, List.getElem?_zipIdx,
    Nat.zero_add]
  rcases h.cases i with ⟨hx, hy⟩ | ⟨x, y, hx, hy, hxy⟩
  · rw [hx, hy]
    rfl
  · rw [hx, hy]
    exact congrArg some (hfg i x y hxy)

lemma map_eq (h : Corresponds R xs ys) {f : α → γ} {g : β → γ}
    (hfg : ∀ i x y, R i x y → g y = f x) : ys.map g = xs.map f := by
  refine List.ext_getElem? fun i => ?_
  rw [List.getElem?_map, List.getElem?_map]
  rcases h.cases i with ⟨hx, hy⟩ | ⟨x, y, hx, hy, hxy⟩
  · rw [hx, hy]
    rfl
  · rw [hx, hy]
    exact congrArg some (hfg i x y hxy)

lemma filterMap_eq (h : Corresponds R xs ys) {f : α → Option γ} {g : β → Option γ}
    (hfg : ∀ i x y, R i x y → g y = f x) : ys.filterMap g = xs.filterMap f := by
  simpa only [List.filterMap_map, Function.id_comp]
    using congrArg (List.filterMap id) (h.map_eq hfg)

lemma all_eq (h : Corresponds R xs ys) {p : α → Bool} {q : β → Bool}
    (hpq : ∀ i x y, R i x y → q y = p x) : ys.all q = xs.all p := by
  simpa only [List.all_map, Function.id_comp] using congrArg (List.all · id) (h.map_eq hpq)

lemma map {α' β' : Type} {R' : Nat → α' → β' → Prop} (h : Corresponds R xs ys) {f : α → α'}
    {g : β → β'} (hfg : ∀ i x y, R i x y → R' i (f x) (g y)) :
    Corresponds R' (xs.map f) (ys.map g) := by
  intro i
  rw [List.getElem?_map, List.getElem?_map]
  rcases h.cases i with ⟨hx, hy⟩ | ⟨x, y, hx, hy, hxy⟩
  · rw [hx, hy]
    exact .none
  · rw [hx, hy]
    exact .some (hfg i x y hxy)

lemma set (h : Corresponds R xs ys) {i : Nat} {x : α} {y : β} (hxy : R i x y) :
    Corresponds R (xs.set i x) (ys.set i y) := by
  intro j
  rw [List.getElem?_set, List.getElem?_set, h.length_eq]
  by_cases hj : i = j
  · subst hj
    rw [if_pos rfl, if_pos rfl]
    split
    · exact .some hxy
    · exact .none
  · rw [if_neg hj, if_neg hj]
    exact h j

lemma concat (h : Corresponds R xs ys) {x : α} {y : β} (hxy : ∀ i, R i x y) :
    Corresponds R (xs ++ [x]) (ys ++ [y]) := by
  intro j
  rw [List.getElem?_append, List.getElem?_append, h.length_eq]
  split
  · exact h j
  · cases j - xs.length with
    | zero => exact .some (hxy j)
    | succ n => exact .none

end Corresponds

/-! ### Endings, routines and tasks -/

section Swaps

variable (swaps : Option String → Failure → Prop)

/-- The same ending, or an error in the place of a panic. -/
inductive Ending.Alike : Ending → Ending → Prop
  | same (ending : Ending) : Alike ending ending
  | swap {payload : Option String} {failure : Failure} (h : swaps payload failure) :
      Alike (.panicked payload) (.failed failure)

/-- The same outcome of a teardown, or an error in the place of a panic. -/
inductive Outcome.Alike : Outcome → Outcome → Prop
  | same (outcome : Outcome) : Alike outcome outcome
  | swap {payload : Option String} {failure : Failure} (h : swaps payload failure) :
      Alike (.panicked payload) (.failed failure)

/-- The same routine, but for errors in the places of panics. -/
inductive Routine.Alike : Routine → Routine → Prop
  | stop {ending ending' : Ending} (h : ending.Alike swaps ending') :
      Alike (.stop ending) (.stop ending')
  | hang : Alike .hang .hang
  | sleep (span : Duration) {next next' : Routine} (h : Alike next next') :
      Alike (.sleep span next) (.sleep span next')
  | pause {next next' : Routine} (h : Alike next next') : Alike (.pause next) (.pause next')
  | awaitCancel {next next' : Routine} (h : Alike next next') :
      Alike (.awaitCancel next) (.awaitCancel next')
  | sleepOrCancel (span : Duration) {late late' cancelled cancelled' : Routine}
      (hl : Alike late late') (hc : Alike cancelled cancelled') :
      Alike (.sleepOrCancel span late cancelled) (.sleepOrCancel span late' cancelled')
  | cancel {next next' : Routine} (h : Alike next next') : Alike (.cancel next) (.cancel next')
  | ifCancelled {yes yes' no no' : Routine} (hy : Alike yes yes') (hn : Alike no no') :
      Alike (.ifCancelled yes no) (.ifCancelled yes' no')
  | note (left : Note) {next next' : Routine} (h : Alike next next') :
      Alike (.note left next) (.note left next')
  | raise (signal : Signal) {next next' : Routine} (h : Alike next next') :
      Alike (.raise signal next) (.raise signal next')
  | startJobs {next next' : Routine} (h : Alike next next') :
      Alike (.startJobs next) (.startJobs next')
  | stopJobs {next next' : Routine} (h : Alike next next') :
      Alike (.stopJobs next) (.stopJobs next')
  | awaitJobs (span : Duration) {idle idle' late late' : Routine} (hi : Alike idle idle')
      (hl : Alike late late') : Alike (.awaitJobs span idle late) (.awaitJobs span idle' late')

/-- The same task, but for errors in the places of panics. -/
inductive Task.Alike : Task → Task → Prop
  | unbegun {routine routine' : Routine} (h : routine.Alike swaps routine') :
      Alike (.unbegun routine) (.unbegun routine')
  | asleep (until_ : Nat) {next next' : Routine} (h : next.Alike swaps next') :
      Alike (.asleep until_ next) (.asleep until_ next')
  | paused {next next' : Routine} (h : next.Alike swaps next') :
      Alike (.paused next) (.paused next')
  | awaiting {next next' : Routine} (h : next.Alike swaps next') :
      Alike (.awaiting next) (.awaiting next')
  | racing (until_ : Nat) {late late' cancelled cancelled' : Routine}
      (hl : late.Alike swaps late') (hc : cancelled.Alike swaps cancelled') :
      Alike (.racing until_ late cancelled) (.racing until_ late' cancelled')
  | joining (until_ : Nat) {idle idle' late late' : Routine} (hi : idle.Alike swaps idle')
      (hl : late.Alike swaps late') :
      Alike (.joining until_ idle late) (.joining until_ idle' late')
  | hung : Alike .hung .hung
  | ended {ending ending' : Ending} (h : ending.Alike swaps ending') :
      Alike (.ended ending) (.ended ending')

end Swaps

/-! ### Applications -/

/-- The same registration, but for errors in the places of panics of its two routines. -/
structure Registration.Alike (swaps : Actor → Option String → Failure → Prop) (index : Nat)
    (r r' : Registration) : Prop where
  name : r'.name = r.name
  advertised : r'.component.advertised = r.component.advertised
  jobs : r'.component.jobs = r.component.jobs
  instanceId : r'.instanceId = r.instanceId
  explicit : r'.explicit = r.explicit
  entry : r.component.entry.Alike (swaps (.entry index)) r'.component.entry
  teardown : ∀ deadline,
    (r.component.teardown deadline).Alike (swaps (.teardown index)) (r'.component.teardown deadline)

/-- Two applications that differ in nothing but this: where some routines of the first one panic,
those of the second one return errors. -/
structure Exchange where
  /-- The application whose routines panic. -/
  panicking : Application
  /-- The application whose routines return errors in the places of those panics. -/
  returning : Application
  /-- Which panics of a routine are exchanged for which errors. -/
  swaps : Actor → Option String → Failure → Prop
  registrations : Corresponds (Registration.Alike swaps) panicking.registry.entries
    returning.registry.entries
  shutdownTimeout : returning.shutdownTimeout = panicking.shutdownTimeout
  trigger : returning.trigger = panicking.trigger

namespace Exchange

variable (x : Exchange)

lemma size_eq : x.returning.registry.size = x.panicking.registry.size := x.registrations.length_eq

lemma nameAt_eq (index : Nat) :
    x.returning.registry.nameAt index = x.panicking.registry.nameAt index := by
  rw [Registry.nameAt, Registry.nameAt]
  rcases x.registrations.cases index with ⟨h, h'⟩ | ⟨entry, entry', h, h', halike⟩
  · rw [h, h']
  · rw [h, h']
    exact halike.name

end Exchange

/-! ### What is recorded -/

section Exchanged

variable (x : Exchange)

/-- A failure of the same component, which may be an error in the place of a panic of its entry
routine. -/
structure Culprit.Alike (c c' : Culprit) : Prop where
  component : c'.component = c.component
  failure : c'.failure = c.failure ∨ ∃ index payload,
    x.panicking.registry.nameAt index = c.component ∧ x.swaps (.entry index) payload c'.failure ∧
      (Ending.panicked payload).failure? = some c.failure

/-- The same event, but for errors in the places of panics. -/
inductive Event.Alike : Event → Event → Prop
  | same (event : Event) : Alike event event
  | entryEnded (index : Nat) {ending ending' : Ending}
      (h : ending.Alike (x.swaps (.entry index)) ending') :
      Alike (.entryEnded index ending) (.entryEnded index ending')
  | exitReported (index : Nat) {ending ending' : Ending}
      (h : ending.Alike (x.swaps (.entry index)) ending') :
      Alike (.exitReported index ending) (.exitReported index ending')
  | teardownEnded (index : Nat) {ending ending' : Ending}
      (h : ending.Alike (x.swaps (.teardown index)) ending') :
      Alike (.teardownEnded index ending) (.teardownEnded index ending')
  | teardownReported (index : Nat) (deadline : Duration) {outcome outcome' : Outcome}
      (h : outcome.Alike (x.swaps (.teardown index)) outcome') :
      Alike (.teardownReported index deadline outcome) (.teardownReported index deadline outcome')
  | failureReported (lateness : Lateness) {culprit culprit' : Culprit}
      (h : culprit.Alike x culprit') :
      Alike (.failureReported lateness culprit) (.failureReported lateness culprit')

/-- An event of the same instant and phase, but for errors in the places of panics. -/
structure Record.Alike (r r' : Record) : Prop where
  time : r'.time = r.time
  phase : r'.phase = r.phase
  event : r.event.Alike x r'.event

/-- The same world, but for errors in the places of panics on record. -/
structure World.Alike (w w' : World) : Prop where
  same : w' = { w with trace := w'.trace }
  trace : List.Forall₂ (Record.Alike x) w.trace w'.trace

end Exchanged

variable {x : Exchange} {w w' : World}

namespace World.Alike

lemma refl (x : Exchange) (w : World) : w.Alike x w :=
  ⟨rfl, List.forall₂_same.mpr fun r _ => ⟨rfl, rfl, .same r.event⟩⟩

variable (h : w.Alike x w')

include h

lemma now : w'.now = w.now := (congrArg World.now h.same :)

lemma phase : w'.phase = w.phase := (congrArg World.phase h.same :)

lemma cancelled : w'.cancelled = w.cancelled := (congrArg World.cancelled h.same :)

lemma signals : w'.signals = w.signals := (congrArg World.signals h.same :)

lemma schedulers : w'.schedulers = w.schedulers := (congrArg World.schedulers h.same :)

lemma scheduler (owner : Nat) : w'.scheduler owner = w.scheduler owner := by
  rw [World.scheduler, World.scheduler, h.schedulers]

/-- Something changes that is not the record. -/
lemma update {f : World → World} (hf : ∀ w trace, f { w with trace } = { f w with trace }) :
    (f w).Alike x (f w') := by
  have hkeep (v : World) : (f v).trace = v.trace := (congrArg World.trace (hf v v.trace) :)
  refine ⟨?_, by rw [hkeep, hkeep]; exact h.trace⟩
  rw [hkeep w', ← hf, ← h.same]

lemma emit {event event' : Event} (he : event.Alike x event') :
    (w.emit event).Alike x (w'.emit event') where
  same := congrArg (fun v : World => { v with trace := (w'.emit event').trace }) h.same
  trace := .cons ⟨h.now, h.phase, he⟩ h.trace

lemma enter (phase : Phase) : (w.enter phase).Alike x (w'.enter phase) :=
  (h.update (f := fun w => { w with phase }) fun _ _ => rfl).emit (.same _)

lemma cancel (actor : Option Actor) : (w.cancel actor).Alike x (w'.cancel actor) :=
  (h.update (f := fun w => { w with cancelled := true }) fun _ _ => rfl).emit (.same _)

lemma updateScheduler (owner : Nat) (f : Scheduler → Scheduler) :
    (w.updateScheduler owner f).Alike x (w'.updateScheduler owner f) :=
  h.update (f := fun w => w.updateScheduler owner f) fun _ _ => rfl

omit h in
lemma emitAll {events events' : List Event} (he : List.Forall₂ (Event.Alike x) events events')
    (h : w.Alike x w') : (w.emitAll events).Alike x (w'.emitAll events') := by
  induction he generalizing w w' with
  | nil => exact h
  | cons hevent _ ih => exact ih (h.emit hevent)

lemma pollLoop (owner number : Nat) (fires : Bool) :
    (w.pollLoop owner number fires).Alike x (w'.pollLoop owner number fires) := by
  have hclock : w'.wallClock = w.wallClock := (congrArg World.wallClock h.same :)
  rw [World.pollLoop, World.pollLoop, h.scheduler, h.now, hclock]
  exact emitAll (List.forall₂_same.mpr fun event _ => .same event) (h.updateScheduler owner _)

end World.Alike

/-- What a function leaves of a part of the run and of the world: both parts are alike. -/
def Together {α : Type} (R : α → α → Prop) (x : Exchange) (p p' : α × World) : Prop :=
  R p.1 p'.1 ∧ p.2.Alike x p'.2

/-! ### Routines at work -/

variable {actor : Actor}

/-- **Routines that are alike act in the same way.** -/
theorem Routine.Alike.exec {r r' : Routine} (hr : r.Alike (x.swaps actor) r') (owner : Nat)
    (h : w.Alike x w') :
    Together (Task.Alike (x.swaps actor)) x (r.exec actor owner w) (r'.exec actor owner w') := by
  -- Every condition reads the clock, the token, the signals or the jobs: all but the record.
  induction hr generalizing w w' with
  | stop he => exact ⟨.ended he, h⟩
  | hang => exact ⟨.hung, h⟩
  | sleep span hn ih =>
      rw [Routine.exec, Routine.exec, h.now]
      split
      · exact ih h
      · exact ⟨.asleep _ hn, h⟩
  | pause hn => exact ⟨.paused hn, h⟩
  | awaitCancel hn ih =>
      rw [Routine.exec, Routine.exec, h.cancelled]
      split
      · exact ih h
      · exact ⟨.awaiting hn, h⟩
  | sleepOrCancel span hl hc ihl ihc =>
      rw [Routine.exec, Routine.exec, h.cancelled, h.now]
      split
      · exact ihc h
      · split
        · exact ihl h
        · exact ⟨.racing _ hl hc, h⟩
  | cancel hn ih => exact ih (h.cancel (some actor))
  | ifCancelled hy hn ihy ihn =>
      rw [Routine.exec, Routine.exec, h.cancelled]
      split
      · exact ihy h
      · exact ihn h
  | note left hn ih => exact ih (h.emit (.same _))
  | raise signal hn ih =>
      rw [Routine.exec, Routine.exec, h.signals]
      cases w.signals.effect signal with
      | fatal => exact ih (h.emit (.same _))
      | raised =>
          exact ih ((h.update (f := fun v => { v with signals := w.signals.raise signal })
            fun _ _ => rfl).emit (.same _))
  | startJobs hn ih =>
      rw [Routine.exec, Routine.exec, h.scheduler]
      exact ih ((h.updateScheduler owner Scheduler.start).emit (.same _))
  | stopJobs hn ih => exact ih (h.updateScheduler owner Scheduler.stop)
  | awaitJobs span hi hl ihi ihl =>
      rw [Routine.exec, Routine.exec, h.scheduler, h.now]
      split
      · exact ihi h
      · split
        · exact ihl h
        · exact ⟨.joining _ hi hl, h⟩

namespace Task.Alike

variable {swaps : Option String → Failure → Prop} {t t' : Task}

lemma hasEnded (ht : t.Alike swaps t') : t'.hasEnded = t.hasEnded := by cases ht <;> rfl

lemma wake (ht : t.Alike swaps t') : t'.wake = t.wake := by cases ht <;> rfl

lemma ready (ht : t.Alike swaps t') (owner : Nat) (h : w.Alike x w') :
    t'.ready w' owner = t.ready w owner := by
  cases ht <;> simp only [Task.ready, h.now, h.cancelled, h.scheduler]

lemma poll (ht : t.Alike (x.swaps actor) t') (owner : Nat) (h : w.Alike x w') :
    Together (Task.Alike (x.swaps actor)) x (t.poll actor owner w) (t'.poll actor owner w') := by
  cases ht with
  | unbegun hr => exact hr.exec owner h
  | paused hn => exact hn.exec owner h
  | asleep until_ hn =>
      rw [Task.poll, Task.poll, h.now]
      split
      · exact hn.exec owner h
      · exact ⟨.asleep until_ hn, h⟩
  | awaiting hn =>
      rw [Task.poll, Task.poll, h.cancelled]
      split
      · exact hn.exec owner h
      · exact ⟨.awaiting hn, h⟩
  | racing until_ hl hc =>
      rw [Task.poll, Task.poll, h.cancelled, h.now]
      split
      · exact hc.exec owner h
      · split
        · exact hl.exec owner h
        · exact ⟨.racing until_ hl hc, h⟩
  | joining until_ hi hl =>
      rw [Task.poll, Task.poll, h.scheduler, h.now]
      split
      · exact hi.exec owner h
      · split
        · exact hl.exec owner h
        · exact ⟨.joining until_ hi hl, h⟩
  | hung => exact ⟨.hung, h⟩
  | ended he => exact ⟨.ended he, h⟩

lemma announce (ht : t.Alike swaps t') (begins : Event) (h : w.Alike x w') :
    (t.announce begins w).Alike x (t'.announce begins w') := by
  cases ht with
  | unbegun hr => exact h.emit (.same begins)
  | _ => exact h

/-- **Tasks that are alike go on in the same way**: they begin, wait and end at the same instants,
and their ends are alike. -/
theorem advance (ht : t.Alike (x.swaps actor) t') (begins : Event) {ends : Ending → Event}
    (hends : ∀ {e e'}, e.Alike (x.swaps actor) e' → (ends e).Alike x (ends e')) (owner : Nat)
    (h : w.Alike x w') :
    Together (Task.Alike (x.swaps actor)) x (t.advance begins ends actor owner w)
      (t'.advance begins ends actor owner w') := by
  rw [Task.advance, Task.advance, ht.hasEnded]
  split
  · exact ⟨ht, h⟩
  · obtain ⟨htask, hworld⟩ := ht.poll owner (ht.announce begins h)
    generalize t.poll actor owner (t.announce begins w) = polled at htask hworld ⊢
    generalize t'.poll actor owner (t'.announce begins w') = polled' at htask hworld ⊢
    obtain ⟨task, world⟩ := polled
    obtain ⟨task', world'⟩ := polled'
    cases htask with
    | ended he => exact ⟨.ended he, hworld.emit (hends he)⟩
    | unbegun hr => exact ⟨.unbegun hr, hworld⟩
    | asleep until_ hn => exact ⟨.asleep until_ hn, hworld⟩
    | paused hn => exact ⟨.paused hn, hworld⟩
    | awaiting hn => exact ⟨.awaiting hn, hworld⟩
    | racing until_ hl hc => exact ⟨.racing until_ hl hc, hworld⟩
    | joining until_ hi hl => exact ⟨.joining until_ hi hl, hworld⟩
    | hung => exact ⟨.hung, hworld⟩

end Task.Alike

end ServiceSupervisor
