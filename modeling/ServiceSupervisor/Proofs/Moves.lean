import Mathlib.Logic.Relation
import ServiceSupervisor.Proofs.Effects
import ServiceSupervisor.Supervisor

/-!
The moves of a run.

One poll of the supervisor can take exits, notice the trigger, cancel, drain and begin several
teardowns.  The theorems on runs are proved by invariants, and an invariant is checked on moves,
each of which does one of these things:

* `Teardown.Move`: what the coordinator of a teardown can do (`Teardown.proceed_moves`);
* `Run.Move`: what can happen in a run, and `Run.SupervisorSide`: what that means for the
  supervisor;
* `Run.Parked`: between two polls the coordinator waits for a teardown or has nothing left to do, so
  the clock moves at no other moment;
* `Run.tearDown_moves`, `Run.drain_moves`: a teardown and a drain as sequences of moves;
* `Run.Move.grows`: a move only adds to the record, at the instant at which it is made.
-/

namespace ServiceSupervisor

/-! ### The coordinator of a teardown -/

namespace Teardown

/-- One move of the coordinator of a teardown. -/
inductive Move (registry : Registry) (fallback : Duration) :
    Teardown × World → Teardown × World → Prop
  /-- A place without a registration is passed over. -/
  | skip {t : Teardown} {w : World} {index : Nat} (hr : t.remaining = index + 1)
      (ha : t.awaited = none) (he : registry.entries[index]? = none) :
      Move registry fallback (t, w) ({ t with remaining := index }, w)
  /-- The next teardown is spawned, and is waited for. -/
  | spawn {t : Teardown} {w : World} {index : Nat} {entry : Registration}
      (hr : t.remaining = index + 1) (ha : t.awaited = none)
      (he : registry.entries[index]? = some entry)
      (hd : (entry.effectiveDeadline fallback).millis ≠ 0) :
      Move registry fallback (t, w)
        ({ t with
            tasks := t.tasks ++ [⟨index, entry.effectiveDeadline fallback,
              .unbegun (entry.component.teardown (entry.effectiveDeadline fallback))⟩]
            remaining := index
            awaitingUntil := some (w.now + (entry.effectiveDeadline fallback).millis) },
          w.emit (.teardownSpawned index (entry.effectiveDeadline fallback)))
  /-- The next teardown is spawned with a deadline of no length, which is over at once. -/
  | expire {t : Teardown} {w : World} {index : Nat} {entry : Registration}
      (hr : t.remaining = index + 1) (ha : t.awaited = none)
      (he : registry.entries[index]? = some entry)
      (hd : (entry.effectiveDeadline fallback).millis = 0) :
      Move registry fallback (t, w)
        ({ t with
            tasks := t.tasks ++ [⟨index, entry.effectiveDeadline fallback,
              .unbegun (entry.component.teardown (entry.effectiveDeadline fallback))⟩]
            remaining := index
            awaitingUntil := none
            reports := t.reports ++ [⟨entry.name, entry.effectiveDeadline fallback, .timedOut⟩] },
          (w.emit (.teardownSpawned index (entry.effectiveDeadline fallback))).emit
            (.teardownReported index (entry.effectiveDeadline fallback) .timedOut))
  /-- The wait for the teardown spawned last is over. -/
  | settle {t : Teardown} {w : World} {task : TeardownTask} {until_ : Nat} {outcome : Outcome}
      (ha : t.awaited = some (task, until_)) (ho : outcome? task until_ w = some outcome) :
      Move registry fallback (t, w) (settle registry task outcome t w)

/-- The clock stands still while the coordinator makes a move. -/
lemma Move.now_eq {registry : Registry} {fallback : Duration} {before after : Teardown × World}
    (hm : Move registry fallback before after) : after.2.now = before.2.now := by
  cases hm <;> rfl

/-- The coordinator leaves the phase alone. -/
lemma Move.phase_eq {registry : Registry} {fallback : Duration} {before after : Teardown × World}
    (hm : Move registry fallback before after) : after.2.phase = before.2.phase := by
  cases hm <;> rfl

/-- A move of the coordinator records nothing but events of its own instant. -/
lemma Move.grows {registry : Registry} {fallback : Duration} {before after : Teardown × World}
    (hm : Move registry fallback before after) : before.2.Grows after.2 := by
  cases hm with
  | skip hr ha he => exact .refl _
  | spawn hr ha he hd => exact .emit _ _
  | expire hr ha he hd => exact (World.Grows.emit _ _).trans rfl (.emit _ _)
  | settle ha ho => exact .emit _ _

variable (registry : Registry) (fallback : Duration)

lemma awaited_of_none {t : Teardown} (h : t.awaitingUntil = none) : t.awaited = none := by
  rw [awaited, h]
  rfl

/-- The task that is waited for is the one spawned last. -/
lemma awaited_eq_some {t : Teardown} {task : TeardownTask} {until_ : Nat}
    (h : t.awaited = some (task, until_)) :
    t.awaitingUntil = some until_ ∧ t.tasks.getLast? = some task := by
  obtain ⟨until', hu, h⟩ := Option.bind_eq_some_iff.mp h
  obtain ⟨task', ht, h⟩ := Option.bind_eq_some_iff.mp h
  obtain ⟨rfl, rfl⟩ := Prod.mk.inj (Option.some.inj h)
  exact ⟨hu, ht⟩

/-- A task is waited for once one has been spawned and while there is an instant until which. -/
lemma isSome_awaited (t : Teardown) :
    t.awaited.isSome = (t.awaitingUntil.isSome && !t.tasks.isEmpty) := by
  rw [awaited]
  cases t.awaitingUntil with
  | none => rfl
  | some until_ =>
      cases ht : t.tasks with
      | nil => rfl
      | cons task tasks => simp [List.getLast?_cons]

/-- A poll of a teardown routine changes neither whether one is waited for nor what is left. -/
lemma isSome_awaited_set (t : Teardown) (number : Nat) (task : TeardownTask) :
    ({ t with tasks := t.tasks.set number task } : Teardown).awaited.isSome = t.awaited.isSome := by
  rw [isSome_awaited, isSome_awaited]
  cases t.tasks <;> cases number <;> rfl

lemma isOver_set (t : Teardown) (number : Nat) (task : TeardownTask) :
    ({ t with tasks := t.tasks.set number task } : Teardown).isOver = t.isOver := by
  rw [isOver, isOver, ← Option.not_isSome, ← Option.not_isSome, isSome_awaited_set]

lemma awaited_settle (task : TeardownTask) (outcome : Outcome) (t : Teardown) (w : World) :
    (settle registry task outcome t w).1.awaited = none :=
  awaited_of_none rfl

/-- Tearing down from a place on is a sequence of moves, after which a task is waited for or nothing
is left. -/
lemma spawnFrom_moves (index : Nat) (t : Teardown) (w : World) (ha : t.awaited = none) :
    Relation.ReflTransGen (Move registry fallback) ({ t with remaining := index }, w)
        (spawnFrom registry fallback index t w) ∧
      ((spawnFrom registry fallback index t w).1.awaited.isSome ∨
        (spawnFrom registry fallback index t w).1.isOver = true) := by
  induction index generalizing t w with
  | zero =>
      refine ⟨.refl, Or.inr ?_⟩
      have : ({ t with remaining := 0 } : Teardown).awaited = none := ha
      simp [spawnFrom, isOver, this]
  | succ index ih =>
      rw [spawnFrom]
      cases he : registry.entries[index]? with
      | none =>
          obtain ⟨hmoves, hend⟩ := ih t w ha
          exact ⟨hmoves.head (.skip rfl ha he), hend⟩
      | some entry =>
          by_cases hd : (entry.effectiveDeadline fallback).millis = 0
          · simp only [hd, if_true]
            obtain ⟨hmoves, hend⟩ := ih _ _ (awaited_settle registry
              ⟨index, entry.effectiveDeadline fallback,
                .unbegun (entry.component.teardown (entry.effectiveDeadline fallback))⟩ .timedOut
              { t with tasks := t.tasks ++ [⟨index, entry.effectiveDeadline fallback,
                .unbegun (entry.component.teardown (entry.effectiveDeadline fallback))⟩] }
              (w.emit (.teardownSpawned index (entry.effectiveDeadline fallback))))
            refine ⟨hmoves.head ?_, hend⟩
            have hexpire : Move registry fallback ({ t with remaining := index + 1 }, w) _ :=
              .expire rfl ha he hd
            simpa [settle, Registry.nameAt, he] using hexpire
          · simp only [hd, if_false]
            refine ⟨.single ?_, Or.inl (by simp [awaited])⟩
            exact Move.spawn (t := { t with remaining := index + 1 }) rfl ha he hd

/-- A poll of the coordinator is a sequence of moves, after which a task is waited for or nothing is
left. -/
theorem proceed_moves (t : Teardown) (w : World) :
    Relation.ReflTransGen (Move registry fallback) (t, w) (proceed registry fallback t w) ∧
      ((proceed registry fallback t w).1.awaited.isSome ∨
        (proceed registry fallback t w).1.isOver = true) := by
  rw [proceed]
  cases ha : t.awaited with
  | none => exact spawnFrom_moves registry fallback t.remaining t w ha
  | some found =>
      obtain ⟨task, until_⟩ := found
      cases ho : outcome? task until_ w with
      | none => exact ⟨by simp only [ho]; exact .refl, Or.inl (by simp [ho, ha])⟩
      | some outcome =>
          obtain ⟨hmoves, hend⟩ := spawnFrom_moves registry fallback
            (settle registry task outcome t w).1.remaining (settle registry task outcome t w).1
            (settle registry task outcome t w).2 (awaited_settle registry task outcome t w)
          simp only [ho]
          exact ⟨hmoves.head (.settle ha ho), hend⟩

end Teardown

/-! ### Entry routines -/

namespace EntryTask

/-- An entry routine that is ready goes on as `Task.Advances` says. -/
lemma advances_of_ready {task : EntryTask} {w w' : World} {owner : Nat} {actor : Actor}
    {begins : Event} {ends : Ending → Event} {polled : Task} (h : task.ready w owner = true)
    (hp : task.task.advance begins ends actor owner w = (polled, w')) :
    task.task.Advances begins ends w polled w' := by
  cases task with
  | unspawned routine => cases h
  | watched task => exact Task.advances_of_ready h hp
  | reported ending => cases h
  | unwatched task => exact Task.advances_of_ready h hp

end EntryTask

/-! ### Runs -/

namespace Run

/-- Whether the coordinator of the teardown is at rest: it waits for a teardown, or it has nothing
left to do. -/
def Parked (r : Run) : Prop :=
  match r.control with
  | .stopping _ => r.teardown.awaited.isSome = true
  | .byHand => r.teardown.awaited.isSome = true ∨ r.teardown.isOver = true
  | _ => True

/-- The shutdown begins: the phase changes, the shared token is cancelled, and the drain begins. -/
def beginDrain (first : Option Culprit) (r : Run) : Run :=
  { r with world := (r.world.enter .shuttingDown).cancel, control := .draining first [] }

/-- One move of a run. -/
inductive Move (app : Application) : Run → Run → Prop
  /-- The supervisor launches the entry routines and begins to wait. -/
  | launch {r : Run} (hc : r.control = .idle) :
      Move app r (r.launch app)
  /-- The waiting supervisor takes the exit of a routine that has not failed. -/
  | skim {r : Run} {exit : Exit} {exits : List Exit} (hc : r.control = .waiting)
      (he : r.startup.exits = exit :: exits) (hok : exit.culprit? = none) :
      Move app r { r with startup := { r.startup with exits } }
  /-- The waiting supervisor takes the exit of a routine that has failed. -/
  | fail {r : Run} {exit : Exit} {exits : List Exit} {culprit : Culprit}
      (hc : r.control = .waiting) (he : r.startup.exits = exit :: exits)
      (hf : exit.culprit? = some culprit) :
      Move app r (beginDrain (some culprit)
        { r with
          startup := { r.startup with exits }
          world := r.world.emit (.failureReported .beforeShutdown culprit) })
  /-- The waiting supervisor sees that the trigger has fired. -/
  | trigger {r : Run} (prefers : Signal) (hc : r.control = .waiting)
      (hd : r.triggerDue app = true) :
      Move app r (beginDrain none
        { r.observeSignal prefers with
          world := (r.observeSignal prefers).world.emit .shutdownRequested })
  /-- The draining supervisor takes the exits there are. -/
  | collect {r : Run} {first : Option Culprit} {drained : List Exit}
      (hc : r.control = .draining first drained) :
      Move app r { r with
        startup := { r.startup with exits := [] }
        control := .draining first (drained ++ r.startup.exits) }
  /-- The drain is over: its failures are reported, and the teardown begins. -/
  | judge {r : Run} {first : Option Culprit} {drained : List Exit}
      (hc : r.control = .draining first drained) (he : r.startup.exits = [])
      (hp : r.startup.allReported = true) :
      Move app r { r with
        world := r.world.emitAll (reportFailures first drained).2
        teardown := r.teardown.begin_ app.registry
        control := .stopping (reportFailures first drained).1 }
  /-- The coordinator of the teardown makes a move. -/
  | coordinate {r : Run} {t : Teardown} {w : World}
      (hc : (∃ first, r.control = .stopping first) ∨ r.control = .byHand)
      (hm : Teardown.Move app.registry app.shutdownTimeout (r.teardown, r.world) (t, w)) :
      Move app r { r with teardown := t, world := w }
  /-- The teardown is over, and the supervisor returns. -/
  | finish {r : Run} {first : Option Culprit} (hc : r.control = .stopping first)
      (ho : r.teardown.isOver = true) : Move app r (r.finish first)
  /-- The task of an entry routine is spawned. -/
  | spawnEntry {r : Run} {index : Nat} {entry : Registration} {routine : Routine}
      (he : app.registry.entries[index]? = some entry)
      (ht : r.startup.entries[index]? = some (.unspawned routine)) :
      Move app r { r with
        startup := { r.startup with
          entries := r.startup.entries.set index (.watched (.unbegun routine)) }
        world := r.world.emit (.entrySpawned index) }
  /-- The end of an entry routine is reported. -/
  | reportExit {r : Run} {index : Nat} {entry : Registration} {ending : Ending}
      (he : app.registry.entries[index]? = some entry)
      (ht : r.startup.entries[index]? = some (.watched (.ended ending))) :
      Move app r { r with
        startup :=
          { entries := r.startup.entries.set index (.reported ending)
            exits := r.startup.exits ++ [⟨index, entry.name, ending, r.world.now⟩] }
        world := r.world.emit (.exitReported index ending) }
  /-- An entry routine goes on. -/
  | entry {r : Run} {index : Nat} {entry : Registration} {task : EntryTask} {polled : Task}
      {w : World} (he : app.registry.entries[index]? = some entry)
      (ht : r.startup.entries[index]? = some task)
      (hr : task.ready r.world entry.instanceId = true)
      (hp : task.task.advance (.entryBegun index) (.entryEnded index) (.entry index)
        entry.instanceId r.world = (polled, w)) :
      Move app r { r with
        startup := { r.startup with
          entries := r.startup.entries.set index (task.withTask polled) }
        world := w }
  /-- A teardown routine goes on. -/
  | teardown {r : Run} {number : Nat} {task : TeardownTask} {polled : Task} {w : World}
      (ht : r.teardown.tasks[number]? = some task)
      (hr : task.task.ready r.world (Teardown.owner app.registry task) = true)
      (hp : task.task.advance (.teardownBegun task.index task.deadline) (.teardownEnded task.index)
        (.teardown task.index) (Teardown.owner app.registry task) r.world = (polled, w)) :
      Move app r { r with
        teardown := { r.teardown with
          tasks := r.teardown.tasks.set number { task with task := polled } }
        world := w }
  /-- The loop of a recurring job goes on. -/
  | job {r : Run} {owner number : Nat} (fires : Bool)
      (hr : r.readyLoops.contains (owner, number) = true) :
      Move app r { r with world := r.world.pollLoop owner number fires }
  /-- The runtime delivers the signals that have been raised. -/
  | deliver {r : Run} (hw : r.world.signals.waiting.isEmpty = false) :
      Move app r { r with world := { r.world with signals := r.world.signals.deliver } }
  /-- The clock moves, at a moment at which nothing can go on. -/
  | tick {r : Run} {instant : Nat} (hq : r.isQuiet app = true) (hp : r.Parked)
      (hn : r.nextWake app = some instant) : Move app r (r.atInstant instant)

/-! ### What the supervisor leaves alone -/

section Fields

variable (prefers : Signal) (first : Option Culprit) (app : Application) (r : Run)

/-- A look at the pending signals changes the world's signals alone, and may record one. -/
lemma observeSignal_eq : ∃ signals seen,
    r.observeSignal prefers
        = { r with world := { r.world with signals, trace := seen ++ r.world.trace } } ∧
      (seen = [] ∨ ∃ signal, seen = [⟨r.world.now, r.world.phase, .signalObserved signal⟩]) := by
  rw [observeSignal]
  split
  · exact ⟨r.world.signals, [], rfl, Or.inl rfl⟩
  · exact ⟨_, [_], rfl, Or.inr ⟨_, rfl⟩⟩

/-- The launch records three events, after the installation of listeners if there is one. -/
lemma launch_eq : ∃ signals listener seen,
    r.launch app
        = { r with
            startup := .launch app.registry
            control := .waiting
            listener
            world := { r.world with
              phase := .running
              signals
              trace := ⟨r.world.now, .running, .launched app.registry.size⟩
                :: ⟨r.world.now, .running, .entered .running⟩
                :: ⟨r.world.now, .starting, .entered .starting⟩ :: (seen ++ r.world.trace) } } ∧
      (seen = [] ∨ ∃ live, seen = [⟨r.world.now, r.world.phase, .listening live⟩]) := by
  rw [launch, installListener]
  split
  · exact ⟨_, _, [_], rfl, Or.inr ⟨_, rfl⟩⟩
  · exact ⟨_, _, [], rfl, Or.inl rfl⟩

/-- The end of a run records two events and drops the listener. -/
lemma finish_eq : ∃ signals,
    r.finish first
      = { r with
          control := .returned first
          listener := none
          world := { r.world with
            phase := .stopped
            signals
            trace := ⟨r.world.now, .stopped,
                .finished r.teardown.clean r.teardown.reports.length⟩
              :: ⟨r.world.now, .stopped, .entered .stopped⟩ :: r.world.trace } } := by
  rw [finish, dropListener]
  cases r.listener with
  | none => exact ⟨r.world.signals, by simp [World.enter, World.emit]⟩
  | some number => exact ⟨_, by simp [World.enter, World.emit]; rfl⟩

/-- The failures of a drain are reported as such. -/
lemma forall_reportFailures (drained : List Exit) {p : Event → Prop}
    (hp : ∀ lateness culprit, p (.failureReported lateness culprit)) :
    ∀ event ∈ (reportFailures first drained).2, p event := by
  induction drained generalizing first with
  | nil => simp [reportFailures]
  | cons exit exits ih =>
      rw [reportFailures]
      split
      · exact ih first
      · intro event he
        rcases List.mem_cons.mp he with rfl | he
        · exact hp _ _
        · exact ih _ event he

/-! A kind of events that leaves the supervisor's out does not see what it records. -/

variable {kind : Event → Bool} (hk : ∀ e : Event, e.isOfSupervisor = true → kind e = false)
include hk

lemma about_launch : (r.launch app).world.trace.about kind = r.world.trace.about kind := by
  obtain ⟨signals, listener, seen, heq, hseen⟩ := launch_eq app r
  have hevents : ∀ phase, kind (.entered phase) = false := fun _ => hk _ rfl
  have hlaunched : kind (.launched app.registry.size) = false := hk _ rfl
  rw [heq]
  rcases hseen with rfl | ⟨live, rfl⟩
  · simp [hevents, hlaunched]
  · have hlistening : kind (.listening live) = false := hk _ rfl
    simp [hevents, hlaunched, hlistening]

lemma about_observeSignal :
    (r.observeSignal prefers).world.trace.about kind = r.world.trace.about kind := by
  obtain ⟨signals, seen, heq, hseen⟩ := observeSignal_eq prefers r
  rw [heq]
  rcases hseen with rfl | ⟨signal, rfl⟩
  · rfl
  · have hobserved : kind (.signalObserved signal) = false := hk _ rfl
    simp [hobserved]

lemma about_finish : (r.finish first).world.trace.about kind = r.world.trace.about kind := by
  obtain ⟨signals, heq⟩ := finish_eq first r
  have hentered : kind (.entered .stopped) = false := hk _ rfl
  have hfinished : kind (.finished r.teardown.clean r.teardown.reports.length) = false := hk _ rfl
  rw [heq]
  simp [hentered, hfinished]

lemma about_reportFailures (drained : List Exit) (w : World) :
    (w.emitAll (reportFailures first drained).2).trace.about kind = w.trace.about kind :=
  w.about_emitAll (forall_reportFailures first drained fun _ _ => hk _ rfl)

end Fields

/-! ### What a move does to the supervisor -/

section SupervisorSide

variable {app : Application} {r r' : Run}

/-- The second state comes from the first by a move, as far as the supervisor is concerned. -/
inductive SupervisorSide (app : Application) (r r' : Run) : Prop
  /-- It launches the entry routines. -/
  | launch (hc : r.control = .idle) (hr : r' = r.launch app)
  /-- It takes the exit of a routine that has failed, and leaves the wait. -/
  | fail (exit : Exit) (exits : List Exit) (culprit : Culprit) (hc : r.control = .waiting)
      (he : r.startup.exits = exit :: exits) (hf : exit.culprit? = some culprit)
      (hr : r' = beginDrain (some culprit)
        { r with
          startup := { r.startup with exits }
          world := r.world.emit (.failureReported .beforeShutdown culprit) })
  /-- It sees that the trigger has fired, and leaves the wait. -/
  | trigger (prefers : Signal) (hc : r.control = .waiting) (hd : r.triggerDue app = true)
      (hr : r' = beginDrain none
        { r.observeSignal prefers with
          world := (r.observeSignal prefers).world.emit .shutdownRequested })
  /-- It takes the exits there are. -/
  | collect (first : Option Culprit) (drained : List Exit)
      (hc : r.control = .draining first drained)
      (hr : r' = { r with
        startup := { r.startup with exits := [] }
        control := .draining first (drained ++ r.startup.exits) })
  /-- It reports the failures of the drain, and the teardown begins. -/
  | judge (first : Option Culprit) (drained : List Exit)
      (hc : r.control = .draining first drained) (he : r.startup.exits = [])
      (hp : r.startup.allReported = true)
      (hr : r' = { r with
        world := r.world.emitAll (reportFailures first drained).2
        teardown := r.teardown.begin_ app.registry
        control := .stopping (reportFailures first drained).1 })
  /-- It returns. -/
  | finish (first : Option Culprit) (hc : r.control = .stopping first)
      (ho : r.teardown.isOver = true) (hr : r' = r.finish first)
  /-- It stays where it is and records nothing. -/
  | stay (hc : r'.control = r.control) (hphase : r'.world.phase = r.world.phase)
      (hv : r'.world.trace.about Event.isOfSupervisor = r.world.trace.about Event.isOfSupervisor)
      (hnow : r'.world.now = r.world.now)
  /-- The clock moves, at a moment at which nothing can go on. -/
  | tick (instant : Nat) (hq : r.isQuiet app = true) (hp : r.Parked)
      (hn : r.nextWake app = some instant) (hr : r' = r.atInstant instant)

/-- Every move is one of these to the supervisor. -/
lemma Move.supervisorSide (hm : Move app r r') : SupervisorSide app r r' := by
  have hnote := Event.isOfSupervisor_of_isNote
  cases hm with
  | launch hc => exact .launch hc rfl
  | skim hc he hok => exact .stay rfl rfl rfl rfl
  | fail hc he hf => exact .fail _ _ _ hc he hf rfl
  | trigger prefers hc hd => exact .trigger prefers hc hd rfl
  | collect hc => exact .collect _ _ hc rfl
  | judge hc he hp => exact .judge _ _ hc he hp rfl
  | coordinate hc hm => exact .stay rfl hm.phase_eq (by cases hm <;> rfl) hm.now_eq
  | finish hc ho => exact .finish _ hc ho rfl
  | spawnEntry he ht => exact .stay rfl rfl rfl rfl
  | reportExit he ht => exact .stay rfl rfl rfl rfl
  | entry he ht hr hp =>
      have hadv := EntryTask.advances_of_ready hr hp
      exact .stay rfl hadv.phase_eq (hadv.about_eq_of_other hnote rfl fun _ => rfl)
        hadv.now_eq
  | teardown ht hr hp =>
      have hadv := Task.advances_of_ready hr hp
      exact .stay rfl hadv.phase_eq (hadv.about_eq_of_other hnote rfl fun _ => rfl)
        hadv.now_eq
  | @job owner number fires hr =>
      have hrip := World.pollLoop_ripples r.world owner number fires
      exact .stay rfl hrip.phase_eq (hrip.about_eq hnote) hrip.now_eq
  | deliver hw => exact .stay rfl rfl rfl rfl
  | tick hq hp hn => exact .tick _ hq hp hn rfl

end SupervisorSide

/-- A sequence of moves. -/
abbrev Moves (app : Application) : Run → Run → Prop := Relation.ReflTransGen (Move app)

variable (app : Application)

/-! ### The supervisor -/

/-- Moves of the coordinator are moves of the run. -/
lemma coordinate_moves {r : Run} (hc : (∃ first, r.control = .stopping first) ∨ r.control = .byHand)
    {before after : Teardown × World}
    (h : Relation.ReflTransGen (Teardown.Move app.registry app.shutdownTimeout) before after) :
    Moves app { r with teardown := before.1, world := before.2 }
      { r with teardown := after.1, world := after.2 } := by
  induction h with
  | refl => exact .refl
  | tail _ hm ih => exact ih.tail (.coordinate hc hm)

/-- A supervisor that tears down makes moves until it is parked. -/
lemma tearDown_moves (first : Option Culprit) (r : Run) :
    Moves app { r with control := .stopping first } (r.tearDown app first) ∧
      (r.tearDown app first).Parked := by
  obtain ⟨hmoves, hend⟩ :=
    Teardown.proceed_moves app.registry app.shutdownTimeout r.teardown r.world
  have hrun := coordinate_moves app (r := { r with control := .stopping first })
    (Or.inl ⟨first, rfl⟩) hmoves
  rw [tearDown]
  generalize Teardown.proceed app.registry app.shutdownTimeout r.teardown r.world = after at *
  obtain ⟨t, w⟩ := after
  by_cases ho : t.isOver = true
  · simp only [ho, if_true]
    refine ⟨hrun.tail (.finish rfl ho), ?_⟩
    simp only [finish, dropListener]
    split <;> trivial
  · simp only [ho]
    exact ⟨hrun, hend.resolve_right ho⟩

/-- A supervisor that drains makes moves until it is parked. -/
lemma drain_moves (first : Option Culprit) (drained : List Exit) (r : Run) :
    Moves app { r with control := .draining first drained } (r.drain app first drained) ∧
      (r.drain app first drained).Parked := by
  have hcollect : Move app { r with control := .draining first drained }
      { r with
        startup := { r.startup with exits := [] }
        control := .draining first (drained ++ r.startup.exits) } := .collect rfl
  rw [drain]
  by_cases hp : r.startup.allReported = true
  · have hpend : ({ r.startup with exits := [] } : Startup).hasPending = false := by
      simpa [Startup.hasPending, Startup.allReported] using hp
    simp only [hpend, Bool.false_eq_true, if_false]
    obtain ⟨hmoves, hparked⟩ := tearDown_moves app
      (reportFailures first (drained ++ r.startup.exits)).1
      { r with
        startup := { r.startup with exits := [] }
        world := r.world.emitAll (reportFailures first (drained ++ r.startup.exits)).2
        teardown := r.teardown.begin_ app.registry }
    exact ⟨(hmoves.head (.judge rfl rfl hp)).head hcollect, hparked⟩
  · have hpend : ({ r.startup with exits := [] } : Startup).hasPending = true := by
      simpa [Startup.hasPending, Startup.allReported] using hp
    simp only [hpend, if_true]
    exact ⟨.single hcollect, trivial⟩

/-! ### Time -/

variable {app}

/-- A move records nothing but events of its own instant, and the clock does not go back. -/
theorem Move.grows {r r' : Run} (hm : Move app r r') : r.world.Grows r'.world := by
  cases hm with
  | launch hc =>
      obtain ⟨signals, listener, seen, heq, hseen⟩ := launch_eq app r
      rw [heq]
      refine ⟨Nat.le_refl _, _ :: _ :: _ :: seen, rfl, ?_⟩
      rcases hseen with rfl | ⟨live, rfl⟩ <;> simp
  | skim hc he hok => exact .refl _
  | fail hc he hf => exact ⟨Nat.le_refl _, [_, _, _], rfl, by simp⟩
  | trigger prefers hc hd =>
      obtain ⟨signals, seen, heq, hseen⟩ := observeSignal_eq prefers r
      rw [heq]
      refine ⟨Nat.le_refl _, _ :: _ :: _ :: seen, rfl, ?_⟩
      rcases hseen with rfl | ⟨signal, rfl⟩ <;> simp
  | collect hc => exact .refl _
  | @judge first drained hc he hp =>
      refine ⟨by simp [World.emitAll_eq], _, by rw [World.emitAll_eq], ?_⟩
      simp
  | coordinate hc hm => exact hm.grows
  | @finish first hc ho =>
      obtain ⟨signals, heq⟩ := finish_eq first r
      rw [heq]
      exact ⟨Nat.le_refl _, [_, _], rfl, by simp⟩
  | spawnEntry he ht => exact .emit _ _
  | reportExit he ht => exact .emit _ _
  | entry he ht hr hp => exact (EntryTask.advances_of_ready hr hp).grows
  | teardown ht hr hp => exact (Task.advances_of_ready hr hp).grows
  | job fires hr => exact (World.pollLoop_ripples _ _ _ fires).grows
  | deliver hw => exact ⟨Nat.le_refl _, [], rfl, by simp⟩
  | tick hq hp hn => exact ⟨Nat.le_max_left _ _, [], rfl, by simp⟩

end Run

end ServiceSupervisor
