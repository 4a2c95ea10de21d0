import Mathlib.Tactic.Lemma
import ServiceSupervisor.Task

/-!
Routines that look at nothing but the clock.

* `Routine.Takes`: how long such a routine takes and how it ends, or that it never ends;
* `Task.Due`: the instant at which a task will end, and how.  A poll leaves that instant where it is
  (`Task.Due.poll`), and so does the clock while the task rests (`Task.Due.wait`).
-/

namespace ServiceSupervisor

/-- What happens some time after an instant. -/
def later (instant : Nat) (took : Option (Nat × Ending)) : Option (Nat × Ending) :=
  took.map fun (span, ending) => (instant + span, ending)

@[simp] lemma later_zero (took : Option (Nat × Ending)) : later 0 took = took := by
  cases took <;> simp [later]

lemma later_later (instant span : Nat) (took : Option (Nat × Ending)) :
    later instant (later span took) = later (instant + span) took := by
  cases took <;> simp [later, Nat.add_assoc]

/-- What happens some time after an instant does not happen before it. -/
lemma later_eq_some {instant stop : Nat} {took : Option (Nat × Ending)} {ending : Ending}
    (h : later instant took = some (stop, ending)) :
    instant ≤ stop ∧ took = some (stop - instant, ending) := by
  obtain ⟨⟨span, ending'⟩, rfl, heq⟩ := Option.map_eq_some_iff.mp h
  obtain ⟨hstop, rfl⟩ := Prod.mk.inj heq
  refine ⟨by omega, ?_⟩
  rw [← hstop, Nat.add_sub_cancel_left]

/-- A routine looks at nothing but the clock, and takes some time until it ends, or never ends. -/
inductive Routine.Takes : Routine → Option (Nat × Ending) → Prop
  | stop (ending : Ending) : Takes (.stop ending) (some (0, ending))
  | hang : Takes .hang none
  | sleep {next : Routine} {took : Option (Nat × Ending)} (span : Duration) (h : Takes next took) :
      Takes (.sleep span next) (later span.millis took)
  | pause {next : Routine} {took : Option (Nat × Ending)} (h : Takes next took) :
      Takes (.pause next) took
  | cancel {next : Routine} {took : Option (Nat × Ending)} (h : Takes next took) :
      Takes (.cancel next) took
  | note {next : Routine} {took : Option (Nat × Ending)} (left : Note) (h : Takes next took) :
      Takes (.note left next) took
  | raise {next : Routine} {took : Option (Nat × Ending)} (signal : Signal) (h : Takes next took) :
      Takes (.raise signal next) took
  | startJobs {next : Routine} {took : Option (Nat × Ending)} (h : Takes next took) :
      Takes (.startJobs next) took
  | stopJobs {next : Routine} {took : Option (Nat × Ending)} (h : Takes next took) :
      Takes (.stopJobs next) took

namespace Task

/-- A task that looks at nothing but the clock will end at some instant, or never. -/
inductive Due (now : Nat) : Task → Option (Nat × Ending) → Prop
  | unbegun {routine : Routine} {took : Option (Nat × Ending)} (h : routine.Takes took) :
      Due now (.unbegun routine) (later now took)
  | paused {next : Routine} {took : Option (Nat × Ending)} (h : next.Takes took) :
      Due now (.paused next) (later now took)
  | asleep {next : Routine} {took : Option (Nat × Ending)} {until_ : Nat} (h : next.Takes took)
      (hle : now ≤ until_) : Due now (.asleep until_ next) (later until_ took)
  | hung : Due now .hung none
  | ended (ending : Ending) : Due now (.ended ending) (some (now, ending))

/-- A task cannot go on, and does not go on by itself before an instant. -/
def Rests (task : Task) (w : World) (instant : Nat) : Prop :=
  (∃ owner, task.ready w owner = false) ∧ ∀ until_, task.wake = some until_ → instant ≤ until_

/-- A task that cannot go on waits for an instant that is still to come, if for one at all. -/
lemma now_lt_wake {task : Task} {w : World} {owner until_ : Nat} (hr : task.ready w owner = false)
    (hwake : task.wake = some until_) : w.now < until_ := by
  cases task with
  | asleep instant next =>
      obtain rfl := Option.some.inj hwake
      exact Nat.lt_of_not_le (of_decide_eq_false hr)
  | racing instant late cancelled =>
      obtain rfl := Option.some.inj hwake
      exact Nat.lt_of_not_le (of_decide_eq_false (Bool.or_eq_false_iff.mp hr).2)
  | joining instant idle late =>
      obtain rfl := Option.some.inj hwake
      exact Nat.lt_of_not_le (of_decide_eq_false (Bool.or_eq_false_iff.mp hr).2)
  | _ => cases hwake

/-- A routine that begins now ends after the time that it takes. -/
lemma due_exec {routine : Routine} {took : Option (Nat × Ending)} (h : routine.Takes took)
    (actor : Actor) (owner : Nat) (w : World) :
    (routine.exec actor owner w).1.Due w.now (later w.now took) := by
  induction h generalizing w with
  | stop ending => exact .ended ending
  | hang => exact .hung
  | @sleep next took span h ih =>
      rw [Routine.exec]
      by_cases hspan : span.millis = 0
      · rw [if_pos hspan, hspan, later_zero]
        exact ih w
      · rw [if_neg hspan, later_later]
        exact .asleep h (Nat.le_add_right _ _)
  | pause h ih => exact .paused h
  | cancel h ih => exact ih (w.cancel (some actor))
  | note left h ih => exact ih (w.emit _)
  | raise signal h ih =>
      rw [Routine.exec]
      split
      · exact ih (w.emit _)
      · exact ih ({ w with signals := w.signals.raise signal }.emit
          (.noted actor owner (.raised signal)))
  | startJobs h ih =>
      exact ih ((w.updateScheduler owner Scheduler.start).emit
        (.jobNoted owner (.started (w.scheduler owner).jobs.length)))
  | stopJobs h ih => exact ih (w.updateScheduler owner Scheduler.stop)

namespace Due

variable {now : Nat} {task : Task} {due : Option (Nat × Ending)} {w : World}

/-- A poll leaves the end of a task where it is. -/
theorem poll (h : task.Due w.now due) (actor : Actor) (owner : Nat) :
    (task.poll actor owner w).1.Due w.now due := by
  cases h with
  | unbegun h => exact due_exec h actor owner w
  | paused h => exact due_exec h actor owner w
  | @asleep next took until_ h hle =>
      rw [Task.poll]
      by_cases hover : until_ ≤ w.now
      · obtain rfl : until_ = w.now := Nat.le_antisymm hover hle
        rw [if_pos hover]
        exact due_exec h actor owner w
      · rw [if_neg hover]
        exact .asleep h hle
  | hung => exact .hung
  | ended ending => exact .ended ending

/-- The clock leaves the end of a task where it is while the task rests. -/
theorem wait {now' : Nat} (h : task.Due w.now due) (hn : task.hasEnded = false)
    (hr : task.Rests w now') : task.Due now' due := by
  obtain ⟨⟨owner, hready⟩, hwake⟩ := hr
  cases h with
  | unbegun h => cases hready
  | paused h => cases hready
  | asleep h hle => exact .asleep h (hwake _ rfl)
  | hung => exact .hung
  | ended ending => cases hn

/-- The end of a task is still to come. -/
lemma now_le {stop : Nat} {ending : Ending} (h : task.Due now (some (stop, ending))) :
    now ≤ stop := by
  generalize hdue : some (stop, ending) = due at h
  cases h with
  | unbegun h => exact (later_eq_some hdue.symm).1
  | paused h => exact (later_eq_some hdue.symm).1
  | asleep h hle => exact Nat.le_trans hle (later_eq_some hdue.symm).1
  | hung => cases hdue
  | ended ending' =>
      obtain ⟨rfl, -⟩ := Prod.mk.inj (Option.some.inj hdue)
      exact Nat.le_refl _

/-- A task that has ended was due now. -/
lemma eq_some {ending : Ending} (h : task.Due now due) (he : task = .ended ending) :
    due = some (now, ending) := by
  subst he
  cases h with
  | ended => rfl

end Due

end Task

end ServiceSupervisor
