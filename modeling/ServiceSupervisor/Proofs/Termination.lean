import Mathlib.Algebra.BigOperators.Fin
import Mathlib.Algebra.BigOperators.Intervals
import Mathlib.Algebra.Order.BigOperators.Group.Finset
import Mathlib.Data.Prod.Lex
import ServiceSupervisor.Proofs.Drain
import ServiceSupervisor.Proofs.FireTimes
import ServiceSupervisor.Proofs.Quiet

/-!
Every teardown comes to its end.

Once the teardown has begun the supervisor returns after finitely many steps, in whatever order the
steps are taken and whatever the teardown routines do.  At each instant only so much can go on: a
routine takes finitely many actions, a loop that has gone on has to wait, and signals that have been
delivered are not delivered again.  Then the clock moves, though not past the deadline for which the
coordinator waits; and when that is over, or the teardown before it, one more registration has been
reported.

* `Teardown.effort`, `World.busyLoops`: what is left for the teardown routines and for the loops of
  recurring jobs to do at an instant;
* `Run.effort`: what is left to do, the reports first;
* `Run.Stopping.step`: a step of a teardown takes some of that away, or the supervisor returns;
* `Run.Inevitably`: whatever the next steps are, the goal is reached;
* `Run.Stopping.inevitably`: the supervisor returns, no later than all deadlines together allow.
-/

namespace ServiceSupervisor

/-! ### Sums over lists -/

/-- A sum over a list gets smaller with one of its terms. -/
lemma sum_map_set_lt {α : Type} {l : List α} {f : α → Nat} {i : Nat} {old new : α}
    (h : l[i]? = some old) (hlt : f new < f old) : ((l.set i new).map f).sum < (l.map f).sum := by
  induction l generalizing i with
  | nil => cases h
  | cons x l ih =>
      cases i with
      | zero =>
          obtain rfl := Option.some.inj h
          simpa using hlt
      | succ i => simpa using ih h

/-! ### Routines -/

/-- What is left of a routine after a poll is no longer than the routine. -/
lemma Routine.remaining_exec_le (actor : Actor) (owner : Nat) (routine : Routine) (w : World) :
    (routine.exec actor owner w).1.remaining ≤ routine.depth := by
  induction routine generalizing w with
  | stop ending => exact Nat.le_refl _
  | hang => exact Nat.le_refl _
  | pause next ih => exact Nat.le_refl _
  | sleep span next ih =>
      rw [exec, depth]
      split
      · exact Nat.le_succ_of_le (ih w)
      · exact Nat.le_refl _
  | awaitCancel next ih =>
      rw [exec, depth]
      split
      · exact Nat.le_succ_of_le (ih w)
      · exact Nat.le_refl _
  | sleepOrCancel span late cancelled ihl ihc =>
      have hlate := ihl w
      have hcancelled := ihc w
      rw [exec, depth]
      split
      · omega
      · split
        · omega
        · exact Nat.le_refl _
  | cancel next ih => exact Nat.le_succ_of_le (ih (w.cancel (some actor)))
  | ifCancelled yes no ihy ihn =>
      have hyes := ihy w
      have hno := ihn w
      rw [exec, depth]
      split <;> omega
  | note left next ih => exact Nat.le_succ_of_le (ih (w.emit (.noted actor owner left)))
  | raise signal next ih =>
      rw [exec, depth]
      split
      · exact Nat.le_succ_of_le (ih _)
      · exact Nat.le_succ_of_le (ih _)
  | startJobs next ih => exact Nat.le_succ_of_le (ih _)
  | stopJobs next ih => exact Nat.le_succ_of_le (ih _)
  | awaitJobs span idle late ihi ihl =>
      have hidle := ihi w
      have hlate := ihl w
      rw [exec, depth]
      split
      · omega
      · split
        · omega
        · exact Nat.le_refl _

namespace Task

variable {task : Task} {w : World} {owner : Nat} (actor : Actor)

/-- **A poll takes away from what a task that is ready has left to do.** -/
lemma remaining_poll_lt (h : task.ready w owner = true) :
    (task.poll actor owner w).1.remaining < task.remaining := by
  have hexec := fun routine : Routine => routine.remaining_exec_le actor owner w
  cases task with
  | unbegun routine => exact Nat.lt_succ_of_le (hexec routine)
  | paused next => exact Nat.lt_succ_of_le (hexec next)
  | asleep until_ next =>
      rw [poll, if_pos (of_decide_eq_true h)]
      exact Nat.lt_succ_of_le (hexec next)
  | awaiting next =>
      have hcancelled : w.cancelled = true := h
      rw [poll, if_pos hcancelled]
      exact Nat.lt_succ_of_le (hexec next)
  | racing until_ late cancelled =>
      have hlate := hexec late
      have hcancelled := hexec cancelled
      rw [ready, Bool.or_eq_true, decide_eq_true_eq] at h
      rw [poll, remaining]
      split
      · omega
      · rw [if_pos (h.resolve_left ‹_›)]
        omega
  | joining until_ idle late =>
      have hidle := hexec idle
      have hlate := hexec late
      rw [ready, Bool.or_eq_true, decide_eq_true_eq] at h
      rw [poll, remaining]
      split
      · omega
      · rw [if_pos (h.resolve_left ‹_›)]
        omega
  | hung => cases h
  | ended ending => cases h

/-- What is on record does not make a task ready. -/
lemma ready_announce (begins : Event) :
    task.ready (task.announce begins w) owner = task.ready w owner := by
  cases task <;> rfl

lemma remaining_advance_lt (begins : Event) (ends : Ending → Event)
    (h : task.ready w owner = true) :
    (task.advance begins ends actor owner w).1.remaining < task.remaining := by
  have hlt := remaining_poll_lt actor ((ready_announce begins).trans h)
  rw [advance, hasEnded_of_ready h]
  generalize task.poll actor owner (task.announce begins w) = polled at hlt
  obtain ⟨polled, w'⟩ := polled
  dsimp only
  cases hend : polled.ending? <;> exact hlt

end Task

/-! ### The coordinator and its tasks -/

namespace Teardown

variable {registry : Registry} {fallback : Duration} {t : Teardown} {w : World}

/-- What is left for all teardown routines to do. -/
def effort (t : Teardown) : Nat := (t.tasks.map (·.task.remaining)).sum

/-- A poll of a teardown routine that is ready takes some of it away. -/
lemma effort_pollTask_lt {number : Nat} (h : t.taskReady registry w number = true) :
    (t.pollTask registry number w).1.effort < t.effort := by
  rw [taskReady] at h
  rw [pollTask]
  cases ht : t.tasks[number]? with
  | none => simp [ht] at h
  | some task =>
      rw [ht] at h
      exact sum_map_set_lt ht (Task.remaining_advance_lt _ _ _ h)

/-- It takes no time, and is nothing to the coordinator. -/
lemma pollTask_spec {number : Nat} (h : t.taskReady registry w number = true) :
    (t.pollTask registry number w).2.now = w.now ∧
      (t.pollTask registry number w).1.awaitingUntil = t.awaitingUntil ∧
        (t.pollTask registry number w).1.reports = t.reports := by
  rw [taskReady] at h
  rw [pollTask]
  cases ht : t.tasks[number]? with
  | none => exact ⟨rfl, rfl, rfl⟩
  | some task =>
      rw [ht] at h
      exact ⟨(Task.advances_of_ready h rfl).now_eq, rfl, rfl⟩

/-- No report is taken back. -/
lemma Move.reports_le {before after : Teardown × World} (hm : Move registry fallback before after) :
    before.1.reports.length ≤ after.1.reports.length := by
  cases hm with
  | skip hr ha he => exact Nat.le_refl _
  | spawn hr ha he hd => exact Nat.le_refl _
  | expire hr ha he hd => simp
  | settle ha ho => simp [Teardown.settle]

/-- The coordinator takes no report back, and its moves take no time. -/
lemma moves_spec {before after : Teardown × World}
    (h : Relation.ReflTransGen (Move registry fallback) before after) :
    before.1.reports.length ≤ after.1.reports.length ∧ after.2.now = before.2.now := by
  induction h with
  | refl => exact ⟨Nat.le_refl _, rfl⟩
  | tail _ hm ih => exact ⟨Nat.le_trans ih.1 hm.reports_le, hm.now_eq.trans ih.2⟩

variable (registry fallback) in
lemma now_proceed (t : Teardown) (w : World) : (t.proceed registry fallback w).2.now = w.now :=
  (moves_spec (proceed_moves registry fallback t w).1).2

variable (registry fallback) in
/-- **A coordinator that can go on makes a report.** -/
lemma reports_proceed_lt (h : t.ready w = true) :
    t.reports.length < (t.proceed registry fallback w).1.reports.length := by
  rw [ready] at h
  rw [proceed]
  cases ha : t.awaited with
  | none => simp [ha] at h
  | some awaited =>
      obtain ⟨task, until_⟩ := awaited
      simp only [ha] at h
      obtain ⟨outcome, ho⟩ := Option.isSome_iff_exists.mp h
      have hmoves := spawnFrom_moves registry fallback t.remaining
        (settle registry task outcome t w).1 (settle registry task outcome t w).2
        (awaited_settle registry task outcome t w)
      have hle := (moves_spec hmoves.1).1
      simp only [ho]
      simp only [settle, List.length_append, List.length_singleton] at hle ⊢
      omega

end Teardown

/-! ### The loops of recurring jobs -/

/-- The number of loops that a poll makes go on. -/
def Scheduler.busyLoops (now : Nat) (s : Scheduler) : Nat :=
  (s.loops.map fun l => (s.loopReady now l).toNat).sum

/-- The number of loops of all instances that a poll makes go on. -/
def World.busyLoops (w : World) : Nat := (w.schedulers.map (Scheduler.busyLoops w.now)).sum

/-- A loop that cannot go on waits for an instant that is still to come, if for one at all. -/
lemma Scheduler.now_lt_loopWake {s : Scheduler} {now wake : Nat} {l : JobLoop}
    (hr : s.loopReady now l = false) (hwake : loopWake l = some wake) : now < wake := by
  rw [loopReady] at hr
  rw [loopWake] at hwake
  cases hstate : l.state with
  | unbegun => simp [hstate] at hr
  | ended => simp [hstate] at hwake
  | waiting anchor fire =>
      simp only [hstate, Bool.or_eq_false_iff, decide_eq_false_iff_not] at hr hwake
      obtain rfl := Option.some.inj hwake
      exact Nat.lt_of_not_le hr.2
  | working anchor fire done outcome =>
      simp only [hstate, decide_eq_false_iff_not] at hr hwake
      obtain rfl := Option.some.inj hwake
      exact Nat.lt_of_not_le hr

/-- **A loop that goes on is one fewer to go on.** -/
lemma World.busyLoops_pollLoop_lt {w : World} {owner number : Nat} {s : Scheduler} {l : JobLoop}
    (hs : w.schedulers[owner]? = some s) (hl : s.loops[number]? = some l)
    (hr : s.loopReady w.now l = true) (fires : Bool) :
    (w.pollLoop owner number fires).busyLoops < w.busyLoops := by
  have hscheduler : w.scheduler owner = s := by rw [scheduler, hs]; rfl
  have hstep := s.loopReady_stepLoop w.now hr (w.wallClock w.now) fires
  rw [pollLoop, hscheduler, Scheduler.pollLoop, hl]
  dsimp only
  rw [emitAll_eq]
  generalize s.stepLoop w.now (w.wallClock w.now) fires l = after at hstep ⊢
  obtain ⟨state, begins, notes⟩ := after
  rw [busyLoops, busyLoops, updateScheduler]
  dsimp only
  rw [List.modify_eq_set_getElem?, hs]
  refine sum_map_set_lt hs ?_
  rw [Scheduler.busyLoops, Scheduler.busyLoops]
  refine sum_map_set_lt (f := fun l => (s.loopReady w.now l).toNat) hl ?_
  show (s.loopReady w.now { l with state := state }).toNat < (s.loopReady w.now l).toNat
  rw [hr, hstep]
  exact Nat.zero_lt_one

namespace Run

variable {app : Application} {r r' : Run}

/-- The loops that can be polled are those that exist and can go on. -/
lemma contains_readyLoops {owner number : Nat} :
    r.readyLoops.contains (owner, number) = true ↔
      ∃ s l, r.world.schedulers[owner]? = some s ∧ s.loops[number]? = some l ∧
        s.loopReady r.world.now l = true := by
  rw [List.contains_iff_mem, readyLoops, List.mem_flatMap]
  constructor
  · rintro ⟨⟨s, owner'⟩, hs, hmem⟩
    obtain ⟨⟨l, number'⟩, hl, hfound⟩ := List.mem_filterMap.mp hmem
    obtain ⟨hr, heq⟩ := Option.ite_none_right_eq_some.mp hfound
    obtain ⟨rfl, rfl⟩ := Prod.mk.inj (Option.some.inj heq)
    exact ⟨s, l, List.mem_zipIdx_iff_getElem?.mp hs, List.mem_zipIdx_iff_getElem?.mp hl, hr⟩
  · rintro ⟨s, l, hs, hl, hr⟩
    exact ⟨(s, owner), List.mem_zipIdx_iff_getElem?.mpr hs, List.mem_filterMap.mpr
      ⟨(l, number), List.mem_zipIdx_iff_getElem?.mpr hl, if_pos hr⟩⟩

/-! ### What is left to do -/

/-- What is left to do in a teardown: the reports to make, the time until the deadline that is
waited for, and what can go on before the clock moves. -/
def effort (app : Application) (r : Run) : ℕ ×ₗ ℕ ×ₗ ℕ ×ₗ ℕ ×ₗ ℕ :=
  toLex (app.registry.size - r.teardown.reports.length,
    toLex (r.teardown.awaitingUntil.getD 0 - r.world.now,
      toLex (r.teardown.effort, toLex (r.world.busyLoops, r.world.signals.waiting.length))))

/-- Less is left to do when what comes first is less, or as much and what comes next is less. -/
lemma effort_lt_iff : r'.effort app < r.effort app ↔
    app.registry.size - r'.teardown.reports.length
        < app.registry.size - r.teardown.reports.length ∨
      app.registry.size - r'.teardown.reports.length
          = app.registry.size - r.teardown.reports.length ∧
        (r'.teardown.awaitingUntil.getD 0 - r'.world.now
            < r.teardown.awaitingUntil.getD 0 - r.world.now ∨
          r'.teardown.awaitingUntil.getD 0 - r'.world.now
              = r.teardown.awaitingUntil.getD 0 - r.world.now ∧
            (r'.teardown.effort < r.teardown.effort ∨ r'.teardown.effort = r.teardown.effort ∧
              (r'.world.busyLoops < r.world.busyLoops ∨ r'.world.busyLoops = r.world.busyLoops ∧
                r'.world.signals.waiting.length < r.world.signals.waiting.length))) := by
  simp only [effort, Prod.Lex.toLex_lt_toLex]

/-- The supervisor of a run is tearing down since an instant, and its coordinator is at rest. -/
structure Stopping (app : Application) (start : Nat) (first : Option Culprit) (r : Run) :
    Prop where
  reached : Reached app r
  parked : r.Parked
  tearing : Tearing app start r
  control : r.control = .stopping first

namespace Stopping

variable {start : Nat} {first : Option Culprit} {label : Label}

/-- What the coordinator waits for. -/
lemma exists_awaited (h : Stopping app start first r) :
    ∃ task until_, r.teardown.awaited = some (task, until_) := by
  have hparked := h.parked
  rw [Parked, h.control] at hparked
  obtain ⟨⟨task, until_⟩, ha⟩ := Option.isSome_iff_exists.mp hparked
  exact ⟨task, until_, ha⟩

lemma isOver_eq_false (h : Stopping app start first r) : r.teardown.isOver = false := by
  obtain ⟨task, until_, ha⟩ := h.exists_awaited
  simp [Teardown.isOver, ha]

/-- Every entry routine has been reported. -/
lemma allReported (h : Stopping app start first r) : r.startup.allReported = true := by
  have hstaffed := h.reached.staffed
  rw [Staffed, h.control] at hstaffed
  exact hstaffed.2

lemma isReported (h : Stopping app start first r) {index : Nat} {task : EntryTask}
    (ht : r.startup.entries[index]? = some task) : ∃ ending, task = .reported ending := by
  have hreported := Startup.isReported_of_allReported h.allReported ht
  cases task with
  | reported ending => exact ⟨ending, rfl⟩
  | _ => cases hreported

/-- Some registration has not been reported. -/
lemma reports_lt (h : Stopping app start first r) :
    r.teardown.reports.length < app.registry.size := by
  obtain ⟨p, hledger⟩ := h.tearing.ledger
  have hle := hledger.books.reports_le
  have hlength := hledger.books.length_eq
  have hover := hledger.isOver_iff
  rw [h.isOver_eq_false] at hover
  simp only [Bool.false_eq_true, false_iff] at hover
  omega

/-- The clock has not passed the deadline that is waited for. -/
lemma now_le (h : Stopping app start first r) :
    ∃ until_, r.teardown.awaitingUntil = some until_ ∧ r.world.now ≤ until_ := by
  obtain ⟨task, until_, ha⟩ := h.exists_awaited
  obtain ⟨p, hledger⟩ := h.tearing.ledger
  refine ⟨until_, (Teardown.awaited_eq_some ha).1, ?_⟩
  cases hledger.standing with
  | free hnone => simp [Teardown.awaited_of_none hnone] at ha
  | waiting hl hawait hpos hnow hend =>
      obtain rfl := Option.some.inj ((Teardown.awaited_eq_some ha).1.symm.trans hawait)
      exact hnow

/-- A step that leaves the supervisor tearing down. -/
lemma keep (h : Stopping app start first r) (hs : r.step? app label = some r')
    (hc : r'.control = .stopping first) : Stopping app start first r' := by
  obtain ⟨hmoves, hparked⟩ := step?_moves app h.parked hs
  exact ⟨h.reached.moves hmoves, hparked, h.tearing.moves hmoves, hc⟩

/-- What goes on by itself goes on later than at a moment at which nothing can. -/
lemma now_lt_wake (h : Stopping app start first r) (hq : r.isQuiet app = true) {wake : Nat}
    (hw : wake ∈ r.wakes app) : r.world.now < wake := by
  obtain ⟨hs, -, -, ht, hl, -⟩ := isQuiet_iff.mp hq
  simp only [wakes, List.mem_append] at hw
  rcases hw with ((hw | hw) | hw) | hw
  · obtain ⟨task, until_, ha⟩ := h.exists_awaited
    rw [supervisorReady, h.control] at hs
    rw [supervisorWakes, h.control, Option.mem_toList, (Teardown.awaited_eq_some ha).1] at hw
    obtain rfl := Option.some.inj hw
    simp only [Teardown.ready, ha, Teardown.outcome?] at hs
    cases hend : task.task.ending? with
    | some ending => simp [hend] at hs
    | none => simpa [hend] using hs
  · obtain ⟨task, htask, hwake⟩ := List.mem_filterMap.mp hw
    obtain ⟨index, hindex⟩ := List.mem_iff_getElem?.mp htask
    obtain ⟨ending, rfl⟩ := h.isReported hindex
    cases hwake
  · obtain ⟨task, htask, hwake⟩ := List.mem_filterMap.mp hw
    obtain ⟨number, hnumber⟩ := List.mem_iff_getElem?.mp htask
    have hready := ht number
    rw [Teardown.taskReady, hnumber] at hready
    exact Task.now_lt_wake hready hwake
  · obtain ⟨s, hscheduler, hw⟩ := List.mem_flatMap.mp hw
    obtain ⟨l, hloop, hwake⟩ := List.mem_filterMap.mp hw
    exact Scheduler.now_lt_loopWake (hl s hscheduler l hloop) hwake

/-- Every entry routine has been reported, so nothing watches one any more. -/
lemma watchReady_eq_false (h : Stopping app start first r) (index : Nat) :
    r.startup.watchReady index = false := by
  rw [Startup.watchReady]
  cases ht : r.startup.entries[index]? with
  | none => rfl
  | some task =>
      obtain ⟨ending, rfl⟩ := h.isReported ht
      rfl

/-- No entry routine can go on. -/
lemma ready_eq_false (h : Stopping app start first r) (index : Nat) :
    r.startup.ready app.registry r.world index = false := by
  rw [Startup.ready]
  split
  · rename_i entry task he ht
    obtain ⟨ending, rfl⟩ := h.isReported ht
    rfl
  · rfl

/-- A poll of the supervisor makes a report, or the supervisor returns. -/
lemma step_supervisor (h : Stopping app start first r) {patience : Nat} {prefers : Signal}
    (hs : r.step? app (.supervisor patience prefers) = some r') :
    r'.control = .returned first ∧ r'.world.now = r.world.now ∨
      Stopping app start first r' ∧ r'.effort app < r.effort app := by
  obtain ⟨hready, heq⟩ := Option.ite_none_right_eq_some.mp hs
  have hpoll : r.supervise app patience prefers = r.tearDown app first := by
    rw [supervise, h.control]
  obtain rfl : r.tearDown app first = r' := hpoll.symm.trans (Option.some.inj heq)
  obtain ⟨hteardown, hnow, hcontrol⟩ := tearDown_spec app first r
  rcases hcontrol with hstopping | hreturned
  · have hkeep := h.keep hs hstopping
    rw [supervisorReady, h.control] at hready
    have hreports := Teardown.reports_proceed_lt app.registry app.shutdownTimeout hready
    have hlt := hkeep.reports_lt
    rw [← hteardown] at hreports
    exact .inr ⟨hkeep, effort_lt_iff.mpr (.inl (by omega))⟩
  · exact .inl ⟨hreturned, hnow.trans (Teardown.now_proceed ..)⟩

/-- The clock comes closer to the deadline that is waited for. -/
lemma effort_tick_lt (h : Stopping app start first r) (hs : r.step? app .tick = some r')
    (hkeep : Stopping app start first r') : r'.effort app < r.effort app := by
  obtain ⟨hq, heq⟩ := Option.ite_none_right_eq_some.mp hs
  obtain ⟨instant, hn, rfl⟩ := Option.map_eq_some_iff.mp heq
  have hlt := h.now_lt_wake hq (List.min?_mem hn)
  obtain ⟨until_, huntil, hle⟩ := hkeep.now_le
  have huntil' : r.teardown.awaitingUntil = some until_ := huntil
  have hle' : max r.world.now instant ≤ until_ := hle
  refine effort_lt_iff.mpr (.inr ⟨rfl, .inl ?_⟩)
  show r.teardown.awaitingUntil.getD 0 - max r.world.now instant
    < r.teardown.awaitingUntil.getD 0 - r.world.now
  rw [huntil', Option.getD_some]
  omega

/-- A poll of a teardown routine takes away from what the routines have left to do. -/
lemma effort_teardown_lt {number : Nat} (hs : r.step? app (.teardown number) = some r') :
    r'.effort app < r.effort app := by
  obtain ⟨hready, heq⟩ := Option.ite_none_right_eq_some.mp hs
  have hlt := Teardown.effort_pollTask_lt hready
  obtain ⟨hnow, huntil, hreports⟩ := Teardown.pollTask_spec hready
  have hteardown : r'.teardown = (r.teardown.pollTask app.registry number r.world).1 :=
    congrArg Run.teardown (Option.some.inj heq).symm
  have hworld : r'.world = (r.teardown.pollTask app.registry number r.world).2 :=
    congrArg Run.world (Option.some.inj heq).symm
  rw [← hteardown] at hlt huntil hreports
  rw [← hworld] at hnow
  exact effort_lt_iff.mpr (.inr ⟨by rw [hreports], .inr ⟨by rw [huntil, hnow], .inl hlt⟩⟩)

/-- **A step of a teardown** takes away from what is left to do, or the supervisor returns. -/
theorem step (h : Stopping app start first r) (hs : r.step? app label = some r') :
    r'.control = .returned first ∧ r'.world.now = r.world.now ∨
      Stopping app start first r' ∧ r'.effort app < r.effort app := by
  rcases label.supervisor_or with ⟨patience, prefers, rfl⟩ | hl
  · exact h.step_supervisor hs
  have hkeep := h.keep hs ((control_of_step? hl hs).trans h.control)
  refine .inr ⟨hkeep, ?_⟩
  cases label with
  | supervisor patience prefers => exact absurd rfl (hl patience prefers)
  | watch index =>
      obtain ⟨hready, -⟩ := Option.ite_none_right_eq_some.mp hs
      rw [h.watchReady_eq_false] at hready
      cases hready
  | entry index =>
      obtain ⟨hready, -⟩ := Option.ite_none_right_eq_some.mp hs
      rw [h.ready_eq_false] at hready
      cases hready
  | teardown number => exact effort_teardown_lt hs
  | job owner number fires =>
      obtain ⟨hready, heq⟩ := Option.ite_none_right_eq_some.mp hs
      obtain rfl := Option.some.inj heq
      obtain ⟨s, l, hscheduler, hloop, hr⟩ := contains_readyLoops.mp hready
      have hlt := World.busyLoops_pollLoop_lt hscheduler hloop hr fires
      have hnow := (World.pollLoop_ripples r.world owner number fires).now_eq
      exact effort_lt_iff.mpr (.inr ⟨rfl, .inr ⟨by rw [hnow], .inr ⟨rfl, .inl hlt⟩⟩⟩)
  | deliver =>
      obtain ⟨hwaiting, heq⟩ := Option.ite_none_left_eq_some.mp hs
      obtain rfl := Option.some.inj heq
      have hlt : 0 < r.world.signals.waiting.length :=
        List.length_pos_iff.mpr fun hnil => hwaiting (by rw [hnil]; rfl)
      exact effort_lt_iff.mpr (.inr ⟨rfl, .inr ⟨rfl, .inr ⟨rfl, .inr ⟨rfl, hlt⟩⟩⟩⟩)
  | tick => exact h.effort_tick_lt hs hkeep

end Stopping

/-! ### What has to happen -/

/-- Whatever the next steps of the schedule are, a state with the property is reached: if this is
none then some step can be taken, and whichever is taken the same holds after it. -/
inductive Inevitably (app : Application) (goal : Run → Prop) : Run → Prop
  | now {r : Run} (h : goal r) : Inevitably app goal r
  | later {r : Run} (hstep : ∃ label r', r.step? app label = some r')
      (h : ∀ label r', r.step? app label = some r' → Inevitably app goal r') :
      Inevitably app goal r

/-- When something can go on some step can be taken. -/
lemma exists_step_of_not_isQuiet (hq : r.isQuiet app = false) :
    ∃ label r', r.step? app label = some r' := by
  by_contra hnone
  have hnone' : ∀ label, r.step? app label = none := fun label =>
    Option.eq_none_iff_forall_ne_some.mpr fun r' h => hnone ⟨label, r', h⟩
  refine absurd (isQuiet_iff.mpr ⟨?_, fun index => ?_, fun index => ?_, fun number => ?_, ?_, ?_⟩)
    (by rw [hq]; exact Bool.false_ne_true)
  · simpa [step?] using hnone' (.supervisor 0 .interrupt)
  · simpa [step?] using hnone' (.watch index)
  · simpa [step?] using hnone' (.entry index)
  · simpa [step?] using hnone' (.teardown number)
  · intro scheduler hs l hl
    obtain ⟨owner, hs⟩ := List.mem_iff_getElem?.mp hs
    obtain ⟨number, hl⟩ := List.mem_iff_getElem?.mp hl
    refine Bool.eq_false_iff.mpr fun hr => ?_
    have hcontains := contains_readyLoops.mpr ⟨scheduler, l, hs, hl, hr⟩
    have hjob := hnone' (.job owner number false)
    rw [step?, if_pos hcontains] at hjob
    cases hjob
  · simpa [step?] using hnone' .deliver

/-- While the supervisor tears down some step can be taken. -/
lemma Stopping.exists_step {start : Nat} {first : Option Culprit} (h : Stopping app start first r) :
    ∃ label r', r.step? app label = some r' := by
  cases hq : r.isQuiet app with
  | false => exact exists_step_of_not_isQuiet hq
  | true =>
      obtain ⟨-, instant, hn, -⟩ := h.tearing.onTime h.parked h.isOver_eq_false
      exact ⟨.tick, r.atInstant instant, by rw [step?, if_pos hq, hn]; rfl⟩

end Run

/-! ### All deadlines together -/

namespace Registry

variable (registry : Registry) (fallback : Duration)

/-- All effective deadlines together. -/
def totalDeadline : Nat := ((registry.deadlines fallback).map (·.millis)).sum

/-- They are those of all turns. -/
lemma sum_turns :
    ∑ j ∈ Finset.range registry.size, (registry.deadlineAt fallback (registry.turn j)).millis
      = registry.totalDeadline fallback := by
  have hreflect : ∑ j ∈ Finset.range registry.size,
      (registry.deadlineAt fallback (registry.turn j)).millis
        = ∑ j ∈ Finset.range registry.size, (registry.deadlineAt fallback j).millis :=
    Finset.sum_range_reflect (fun j => (registry.deadlineAt fallback j).millis) registry.size
  have hentry : ∀ j : Fin registry.entries.length, (registry.deadlineAt fallback j).millis
      = (registry.entries[j].effectiveDeadline fallback).millis := fun j => by
    rw [registry.deadlineAt_of_getElem? fallback (List.getElem?_eq_getElem j.isLt)]
    rfl
  rw [hreflect, size, Finset.sum_range, Finset.sum_congr rfl fun j _ => hentry j, totalDeadline,
    deadlines, List.map_map]
  exact Fin.sum_univ_fun_getElem registry.entries fun entry =>
    (entry.effectiveDeadline fallback).millis

/-- A turn and the deadline that begins with it do not last longer than all deadlines together. -/
lemma turnInstant_add_le (tr : Trace) (start : Nat) {k : Nat} (hk : k < registry.size) :
    registry.turnInstant fallback tr start k
        + (registry.deadlineAt fallback (registry.turn k)).millis
      ≤ start + registry.totalDeadline fallback := by
  have hwaited : ∀ j ∈ Finset.range k, registry.waited fallback tr j
      ≤ (registry.deadlineAt fallback (registry.turn j)).millis := by
    intro j _
    rw [waited]
    cases tr.span? (registry.turn j) with
    | none => exact Nat.le_refl _
    | some took => exact Nat.min_le_right _ _
  have hsum := Finset.sum_le_sum hwaited
  have hall : ∑ j ∈ Finset.range (k + 1), (registry.deadlineAt fallback (registry.turn j)).millis
      ≤ ∑ j ∈ Finset.range registry.size, (registry.deadlineAt fallback (registry.turn j)).millis :=
    Finset.sum_le_sum_of_subset (Finset.range_subset_range.mpr hk)
  rw [Finset.sum_range_succ, sum_turns] at hall
  rw [turnInstant]
  omega

end Registry

namespace Run

variable {app : Application} {r : Run} {start : Nat} {first : Option Culprit}

/-- The clock has not passed all deadlines together. -/
lemma Stopping.now_le_totalDeadline (h : Stopping app start first r) :
    r.world.now ≤ start + app.registry.totalDeadline app.shutdownTimeout :=
  Nat.le_trans (h.tearing.onTime h.parked h.isOver_eq_false).1
    (app.registry.turnInstant_add_le app.shutdownTimeout r.world.trace start h.reports_lt)

/-- **Every teardown comes to its end.**  Whatever its routines do, and in whatever order the tasks
go on, the supervisor returns with the result that it had when the teardown began, and no later than
all effective deadlines together after that. -/
theorem Stopping.inevitably (h : Stopping app start first r) :
    Inevitably app (fun t => t.result? = some first ∧
      t.world.now ≤ start + app.registry.totalDeadline app.shutdownTimeout) r := by
  induction hn : r.effort app using WellFoundedLT.induction generalizing r with
  | ind n ih =>
      refine .later h.exists_step fun label r' hs => ?_
      rcases h.step hs with ⟨hreturned, hnow⟩ | ⟨hkeep, hlt⟩
      · refine .now ⟨by rw [result?, hreturned], ?_⟩
        rw [hnow]
        exact h.now_le_totalDeadline
      · exact ih _ (hn ▸ hlt) hkeep rfl

end Run

end ServiceSupervisor
