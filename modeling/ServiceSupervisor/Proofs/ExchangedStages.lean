import ServiceSupervisor.Proofs.Exchange

/-!
An error in the place of a panic: entry routines and teardowns.

A panic of an entry routine reaches the supervisor as an error of its component, and one of a
teardown as an outcome like a failed one.

* `Startup.Alike`, `Teardown.Alike`: the same progress, but for errors in the places of panics;
* `Exit.Alike.culprit?`: exits that are alike blame the same component, or none;
* `Startup.Alike.watch`, `Startup.Alike.poll`: entry routines and their watching tasks;
* `Teardown.Alike.proceed`, `Teardown.Alike.pollTask`: the coordinator and the teardown routines.
-/

namespace ServiceSupervisor

variable {x : Exchange} {w w' : World}

/-! ### Entry routines -/

/-- The same task of an entry routine, but for errors in the places of panics. -/
inductive EntryTask.Alike (swaps : Option String → Failure → Prop) : EntryTask → EntryTask → Prop
  | unspawned {routine routine' : Routine} (h : routine.Alike swaps routine') :
      Alike swaps (.unspawned routine) (.unspawned routine')
  | watched {task task' : Task} (h : task.Alike swaps task') :
      Alike swaps (.watched task) (.watched task')
  | reported {ending ending' : Ending} (h : ending.Alike swaps ending') :
      Alike swaps (.reported ending) (.reported ending')
  | unwatched {task task' : Task} (h : task.Alike swaps task') :
      Alike swaps (.unwatched task) (.unwatched task')

namespace EntryTask.Alike

variable {swaps : Option String → Failure → Prop} {t t' : EntryTask}

lemma isReported (h : t.Alike swaps t') : t'.isReported = t.isReported := by cases h <;> rfl

lemma wake (h : t.Alike swaps t') : t'.wake = t.wake := by
  cases h with
  | watched ht => exact ht.wake
  | unwatched ht => exact ht.wake
  | _ => rfl

lemma watchReady (h : t.Alike swaps t') : t'.watchReady = t.watchReady := by
  cases h with
  | watched ht => exact ht.hasEnded
  | _ => rfl

lemma ready (h : t.Alike swaps t') (owner : Nat) (hw : w.Alike x w') :
    t'.ready w' owner = t.ready w owner := by
  cases h with
  | watched ht => exact ht.ready owner hw
  | unwatched ht => exact ht.ready owner hw
  | _ => rfl

lemma task (h : t.Alike swaps t') : t.task.Alike swaps t'.task := by
  cases h with
  | unspawned hr => exact .unbegun hr
  | watched ht => exact ht
  | reported he => exact .ended he
  | unwatched ht => exact ht

lemma withTask (h : t.Alike swaps t') {polled polled' : Task} (hp : polled.Alike swaps polled') :
    (t.withTask polled).Alike swaps (t'.withTask polled') := by
  cases h with
  | unspawned hr => exact .unspawned hr
  | watched ht => exact .watched hp
  | reported he => exact .reported he
  | unwatched ht => exact .unwatched hp

end EntryTask.Alike

/-- An exit of the same entry routine at the same instant, but for an error in the place of a
panic. -/
structure Exit.Alike (x : Exchange) (e e' : Exit) : Prop where
  index : e'.index = e.index
  nameAt : x.panicking.registry.nameAt e.index = e.name
  name : e'.name = e.name
  ending : e.ending.Alike (x.swaps (.entry e.index)) e'.ending
  time : e'.time = e.time

/-- Exits that are alike blame the same component, or none. -/
lemma Exit.Alike.culprit? {e e' : Exit} (h : e.Alike x e') :
    Option.Rel (Culprit.Alike x) e.culprit? e'.culprit? := by
  have hending := h.ending
  rw [Exit.culprit?, Exit.culprit?, Exit.failure?, Exit.failure?, h.name]
  generalize e.ending = ending at hending ⊢
  generalize e'.ending = ending' at hending ⊢
  cases hending with
  | same ending =>
      cases ending.failure? with
      | none => exact .none
      | some failure => exact .some ⟨rfl, .inl rfl⟩
  | swap hs => exact .some ⟨rfl, .inr ⟨_, _, h.nameAt, hs, rfl⟩⟩

namespace Startup

/-- The same progress of the entry routines, but for errors in the places of panics. -/
structure Alike (x : Exchange) (s s' : Startup) : Prop where
  entries : Corresponds (fun index => EntryTask.Alike (x.swaps (.entry index))) s.entries s'.entries
  exits : List.Forall₂ (Exit.Alike x) s.exits s'.exits

variable {s s' : Startup}

lemma alike_launch (x : Exchange) :
    (launch x.panicking.registry).Alike x (launch x.returning.registry) where
  entries := x.registrations.map fun _ _ _ halike => .unspawned halike.entry
  exits := .nil

namespace Alike

variable (h : s.Alike x s')

include h

lemma wakes : s'.wakes = s.wakes := h.entries.filterMap_eq fun _ _ _ halike => halike.wake

lemma allReported : s'.allReported = s.allReported :=
  h.entries.all_eq fun _ _ _ halike => halike.isReported

lemma isEmpty_exits : s'.exits.isEmpty = s.exits.isEmpty := by
  have hexits := h.exits
  generalize s.exits = exits at hexits ⊢
  generalize s'.exits = exits' at hexits ⊢
  cases hexits <;> rfl

lemma hasPending : s'.hasPending = s.hasPending := by
  rw [Startup.hasPending, Startup.hasPending, h.isEmpty_exits, h.allReported]

lemma watchReady (index : Nat) : s'.watchReady index = s.watchReady index := by
  rcases h.entries.cases index with ⟨ht, ht'⟩ | ⟨task, task', ht, ht', halike⟩
  · simp only [Startup.watchReady, ht, ht']
  · simpa only [Startup.watchReady, ht, ht'] using halike.watchReady

lemma ready (index : Nat) (hw : w.Alike x w') :
    s'.ready x.returning.registry w' index = s.ready x.panicking.registry w index := by
  rcases x.registrations.cases index with ⟨hr, hr'⟩ | ⟨entry, entry', hr, hr', hentry⟩
  · simp only [Startup.ready, hr, hr']
  · rcases h.entries.cases index with ⟨ht, ht'⟩ | ⟨task, task', ht, ht', halike⟩
    · simp only [Startup.ready, hr, hr', ht, ht']
    · simpa only [Startup.ready, hr, hr', ht, ht', hentry.instanceId] using halike.ready _ hw

/-- A watching task spawns the same entry routine, or reports its end at the same instant. -/
lemma watch (index : Nat) (hw : w.Alike x w') :
    Together (Startup.Alike x) x (s.watch x.panicking.registry index w)
      (s'.watch x.returning.registry index w') := by
  rcases x.registrations.cases index with ⟨hr, hr'⟩ | ⟨entry, entry', hr, hr', hentry⟩
  · simp only [Startup.watch, hr, hr']
    exact ⟨h, hw⟩
  have hname : x.panicking.registry.nameAt index = entry.name := by
    rw [Registry.nameAt, hr]
    rfl
  rcases h.entries.cases index with ⟨ht, ht'⟩ | ⟨task, task', ht, ht', halike⟩
  · simp only [Startup.watch, hr, hr', ht, ht']
    exact ⟨h, hw⟩
  simp only [Startup.watch, hr, hr', ht, ht']
  cases halike with
  | unspawned hroutine =>
      exact ⟨⟨h.entries.set (.watched (.unbegun hroutine)), h.exits⟩, hw.emit (.same _)⟩
  | watched htask =>
      cases htask with
      | ended hending =>
          have hexit : Exit.Alike x ⟨index, entry.name, _, w.now⟩ ⟨index, entry'.name, _, w'.now⟩ :=
            ⟨rfl, hname, hentry.name, hending, hw.now⟩
          exact ⟨⟨h.entries.set (.reported hending), List.rel_append h.exits (.cons hexit .nil)⟩,
            hw.emit (.exitReported index hending)⟩
      | _ => exact ⟨h, hw⟩
  | reported hending => exact ⟨h, hw⟩
  | unwatched htask => exact ⟨h, hw⟩

/-- An entry routine goes on in the same way. -/
lemma poll (index : Nat) (hw : w.Alike x w') :
    Together (Startup.Alike x) x (s.poll x.panicking.registry index w)
      (s'.poll x.returning.registry index w') := by
  rcases x.registrations.cases index with ⟨hr, hr'⟩ | ⟨entry, entry', hr, hr', hentry⟩
  · simp only [Startup.poll, hr, hr']
    exact ⟨h, hw⟩
  rcases h.entries.cases index with ⟨ht, ht'⟩ | ⟨task, task', ht, ht', halike⟩
  · simp only [Startup.poll, hr, hr', ht, ht']
    exact ⟨h, hw⟩
  simp only [Startup.poll, hr, hr', ht, ht', hentry.instanceId, halike.ready entry.instanceId hw]
  split
  · obtain ⟨hpolled, hworld⟩ :=
      halike.task.advance (.entryBegun index) (.entryEnded index) entry.instanceId hw
    exact ⟨⟨h.entries.set (halike.withTask hpolled), h.exits⟩, hworld⟩
  · exact ⟨h, hw⟩

end Alike

end Startup

/-! ### Teardowns -/

/-- The same outcome of a teardown that has ended in time, but for an error in the place of a
panic. -/
lemma Ending.Alike.outcome {swaps : Option String → Failure → Prop} {e e' : Ending}
    (h : e.Alike swaps e') : (Outcome.ofEnding e).Alike swaps (.ofEnding e') := by
  cases h with
  | same ending => exact .same _
  | swap hs => exact .swap hs

/-- A report on the same teardown, but for an error in the place of a panic. -/
structure TeardownReport.Alike (x : Exchange) (r r' : TeardownReport) : Prop where
  name : r'.name = r.name
  deadline : r'.deadline = r.deadline
  outcome : ∃ index, x.panicking.registry.nameAt index = r.name ∧
    r.outcome.Alike (x.swaps (.teardown index)) r'.outcome

/-- The same teardown routine in execution, but for errors in the places of panics. -/
structure TeardownTask.Alike (x : Exchange) (t t' : TeardownTask) : Prop where
  index : t'.index = t.index
  deadline : t'.deadline = t.deadline
  task : t.task.Alike (x.swaps (.teardown t.index)) t'.task

namespace Teardown

/-- The same progress of a teardown, but for errors in the places of panics. -/
structure Alike (x : Exchange) (t t' : Teardown) : Prop where
  tasks : Corresponds (fun _ => TeardownTask.Alike x) t.tasks t'.tasks
  remaining : t'.remaining = t.remaining
  awaitingUntil : t'.awaitingUntil = t.awaitingUntil
  reports : List.Forall₂ (TeardownReport.Alike x) t.reports t'.reports

variable {t t' : Teardown}

/-- What is waited for is alike. -/
lemma Alike.awaited (h : t.Alike x t') :
    Option.Rel (fun p p' => p.1.Alike x p'.1 ∧ p'.2 = p.2) t.awaited t'.awaited := by
  rw [Teardown.awaited, Teardown.awaited, h.awaitingUntil, List.getLast?_eq_getElem?,
    List.getLast?_eq_getElem?, h.tasks.length_eq]
  cases t.awaitingUntil with
  | none => exact .none
  | some until_ =>
      rcases h.tasks.cases (t.tasks.length - 1) with ⟨ht, ht'⟩ | ⟨task, task', ht, ht', halike⟩
      · rw [ht, ht']
        exact .none
      · rw [ht, ht']
        exact .some ⟨halike, rfl⟩

lemma Alike.isOver (h : t.Alike x t') : t'.isOver = t.isOver := by
  rcases rel_cases h.awaited with ⟨ha, ha'⟩ | ⟨p, p', ha, ha', -⟩ <;>
    simp only [Teardown.isOver, h.remaining, ha, ha', Option.isNone_none, Option.isNone_some]

lemma Alike.clean (h : t.Alike x t') : t'.clean = t.clean := by
  have hreports := h.reports
  rw [Teardown.clean, Teardown.clean]
  generalize t.reports = reports at hreports ⊢
  generalize t'.reports = reports' at hreports ⊢
  induction hreports with
  | nil => rfl
  | @cons report report' _ _ hreport _ ih =>
      -- A teardown that fails is no cleaner than one that panics.
      obtain ⟨index, -, houtcome⟩ := hreport.outcome
      have hsame : decide (report'.outcome = .completed)
          = decide (report.outcome = .completed) := by
        generalize report.outcome = outcome at houtcome ⊢
        generalize report'.outcome = outcome' at houtcome ⊢
        cases houtcome <;> rfl
      rw [List.filter_cons, List.filter_cons, hsame]
      split
      · exact congrArg Nat.succ ih
      · exact ih

lemma Alike.begin_ (h : t.Alike x t') :
    (t.begin_ x.panicking.registry).Alike x (t'.begin_ x.returning.registry) :=
  ⟨h.tasks, x.size_eq, rfl, h.reports⟩

/-- The wait for a task is over at the same instant, with an outcome that is alike. -/
lemma alike_outcome? {task task' : TeardownTask} (ht : task.Alike x task') (until_ : Nat)
    (hw : w.Alike x w') : Option.Rel (Outcome.Alike (x.swaps (.teardown task.index)))
      (outcome? task until_ w) (outcome? task' until_ w') := by
  have htask := ht.task
  rw [outcome?, outcome?, hw.now]
  generalize task.task = routine at htask ⊢
  generalize task'.task = routine' at htask ⊢
  have htimeout : Option.Rel (Outcome.Alike (x.swaps (.teardown task.index)))
      (if until_ ≤ w.now then some .timedOut else none)
      (if until_ ≤ w.now then some .timedOut else none) := by
    split
    · exact .some (.same _)
    · exact .none
  cases htask with
  | ended hending => exact .some hending.outcome
  | _ => exact htimeout

lemma alike_settle {task task' : TeardownTask} (ht : task.Alike x task')
    {outcome outcome' : Outcome}
    (ho : outcome.Alike (x.swaps (.teardown task.index)) outcome') (h : t.Alike x t')
    (hw : w.Alike x w') :
    Together (Alike x) x (settle x.panicking.registry task outcome t w)
      (settle x.returning.registry task' outcome' t' w') := by
  have hname := (x.nameAt_eq task'.index).trans (by rw [ht.index])
  refine ⟨⟨h.tasks, h.remaining, rfl, List.rel_append h.reports (.cons ?_ .nil)⟩, ?_⟩
  · exact ⟨hname, ht.deadline, task.index, rfl, ho⟩
  · rw [settle, settle, ht.index, ht.deadline]
    exact hw.emit (.teardownReported task.index task.deadline ho)

lemma alike_spawnFrom (fallback : Duration) (index : Nat) (h : t.Alike x t') (hw : w.Alike x w') :
    Together (Alike x) x (spawnFrom x.panicking.registry fallback index t w)
      (spawnFrom x.returning.registry fallback index t' w') := by
  induction index generalizing t t' w w' with
  | zero => exact ⟨⟨h.tasks, rfl, h.awaitingUntil, h.reports⟩, hw⟩
  | succ index ih =>
      rcases x.registrations.cases index with ⟨hr, hr'⟩ | ⟨entry, entry', hr, hr', hentry⟩
      · simp only [spawnFrom, hr, hr']
        exact ih h hw
      have hdeadline : entry'.effectiveDeadline fallback = entry.effectiveDeadline fallback := by
        rw [Registration.effectiveDeadline, Registration.effectiveDeadline, hentry.explicit,
          hentry.advertised]
      simp only [spawnFrom, hr, hr', hdeadline]
      generalize entry.effectiveDeadline fallback = deadline
      have htask : TeardownTask.Alike x
          ⟨index, deadline, .unbegun (entry.component.teardown deadline)⟩
          ⟨index, deadline, .unbegun (entry'.component.teardown deadline)⟩ :=
        ⟨rfl, rfl, .unbegun (hentry.teardown deadline)⟩
      have hspawned := hw.emit (.same (.teardownSpawned index deadline))
      have hbegun : Alike x { t with tasks := t.tasks ++ [_] }
          { t' with tasks := t'.tasks ++ [_] } :=
        ⟨h.tasks.concat fun _ => htask, h.remaining, h.awaitingUntil, h.reports⟩
      split
      · obtain ⟨hsettled, hworld⟩ := alike_settle htask (.same .timedOut) hbegun hspawned
        exact ih hsettled hworld
      · exact ⟨⟨hbegun.tasks, rfl, congrArg (fun now => some (now + deadline.millis)) hspawned.now,
          h.reports⟩, hspawned⟩

/-- Teardown routines that are alike belong to the same instance. -/
lemma owner_alike {task task' : TeardownTask} (ht : task.Alike x task') :
    owner x.returning.registry task' = owner x.panicking.registry task := by
  rw [owner, owner, ht.index]
  rcases x.registrations.cases task.index with ⟨hr, hr'⟩ | ⟨entry, entry', hr, hr', hentry⟩
  · rw [hr, hr']
  · rw [hr, hr']
    exact hentry.instanceId

namespace Alike

variable (h : t.Alike x t')

include h

/-- **The coordinator goes on in the same way.** -/
theorem proceed (hw : w.Alike x w') :
    Together (Teardown.Alike x) x
      (t.proceed x.panicking.registry x.panicking.shutdownTimeout w)
      (t'.proceed x.returning.registry x.returning.shutdownTimeout w') := by
  rw [Teardown.proceed, Teardown.proceed, h.remaining, x.shutdownTimeout]
  rcases rel_cases h.awaited with
    ⟨ha, ha'⟩ | ⟨⟨task, until_⟩, ⟨task', until'⟩, ha, ha', htask, hsame⟩
  · simp only [ha, ha']
    exact alike_spawnFrom _ _ h hw
  · obtain rfl : until' = until_ := hsame
    simp only [ha, ha']
    rcases rel_cases (alike_outcome? htask until' hw) with
      ⟨ho, ho'⟩ | ⟨outcome, outcome', ho, ho', houtcome⟩
    · simp only [ho, ho']
      exact ⟨h, hw⟩
    · obtain ⟨hsettled, hworld⟩ := alike_settle htask houtcome h hw
      simp only [ho, ho', hsettled.remaining]
      exact alike_spawnFrom _ _ hsettled hworld

lemma ready (hw : w.Alike x w') : t'.ready w' = t.ready w := by
  rw [Teardown.ready, Teardown.ready]
  rcases rel_cases h.awaited with
    ⟨ha, ha'⟩ | ⟨⟨task, until_⟩, ⟨task', until'⟩, ha, ha', htask, hsame⟩
  · simp only [ha, ha']
  · obtain rfl : until' = until_ := hsame
    rcases rel_cases (alike_outcome? htask until' hw) with
      ⟨ho, ho'⟩ | ⟨outcome, outcome', ho, ho', -⟩ <;>
      simp only [ha, ha', ho, ho', Option.isSome_none, Option.isSome_some]

lemma taskReady (number : Nat) (hw : w.Alike x w') :
    t'.taskReady x.returning.registry w' number = t.taskReady x.panicking.registry w number := by
  rcases h.tasks.cases number with ⟨ht, ht'⟩ | ⟨task, task', ht, ht', halike⟩
  · simp only [Teardown.taskReady, ht, ht']
  · simpa only [Teardown.taskReady, ht, ht', owner_alike halike] using halike.task.ready _ hw

/-- A teardown routine goes on in the same way. -/
lemma pollTask (number : Nat) (hw : w.Alike x w') :
    Together (Teardown.Alike x) x (t.pollTask x.panicking.registry number w)
      (t'.pollTask x.returning.registry number w') := by
  rcases h.tasks.cases number with ⟨ht, ht'⟩ | ⟨task, task', ht, ht', halike⟩
  · simp only [Teardown.pollTask, ht, ht']
    exact ⟨h, hw⟩
  simp only [Teardown.pollTask, ht, ht', owner_alike halike, halike.index, halike.deadline]
  obtain ⟨hpolled, hworld⟩ := halike.task.advance (.teardownBegun task.index task.deadline)
    (.teardownEnded task.index) (owner x.panicking.registry task) hw
  exact ⟨⟨h.tasks.set ⟨rfl, rfl, hpolled⟩, h.remaining, h.awaitingUntil,
    h.reports⟩, hworld⟩

lemma taskWakes : t'.taskWakes = t.taskWakes :=
  h.tasks.filterMap_eq fun _ _ _ halike => halike.task.wake

end Alike

end Teardown

end ServiceSupervisor
