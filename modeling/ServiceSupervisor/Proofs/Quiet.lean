import ServiceSupervisor.Proofs.TeardownTiming

/-!
Quiet moments, at which nothing but the clock can move.

* `Run.isQuiet_iff`: what it is that cannot go on;
* `Run.eq_tick_of_isQuiet`: the only step that a schedule can take;
* `Task.ready_later`, `Scheduler.loopReady_later`: what waits goes on waiting until its wake;
* `Run.isQuiet_atInstant`: a quiet moment lasts until the next wake.
-/

namespace ServiceSupervisor

/-- A task that waits goes on waiting until the instant at which it goes on by itself. -/
lemma Task.ready_later {task : Task} {w : World} {owner instant : Nat}
    (hr : task.ready w owner = false) (hlt : ∀ wake, task.wake = some wake → instant < wake) :
    task.ready { w with now := max w.now instant } owner = false := by
  cases task with
  | unbegun routine => cases hr
  | paused next => cases hr
  | awaiting next => exact hr
  | hung => rfl
  | ended ending => rfl
  | asleep until_ next =>
      have hwake := hlt until_ rfl
      simp only [ready, decide_eq_false_iff_not] at hr ⊢
      omega
  | racing until_ late cancelled =>
      have hwake := hlt until_ rfl
      simp only [ready, Bool.or_eq_false_iff, decide_eq_false_iff_not] at hr ⊢
      exact ⟨hr.1, by omega⟩
  | joining until_ idle late =>
      have hwake := hlt until_ rfl
      simp only [ready, Bool.or_eq_false_iff, decide_eq_false_iff_not] at hr ⊢
      exact ⟨hr.1, by omega⟩

/-- So does the loop of a recurring job. -/
lemma Scheduler.loopReady_later {scheduler : Scheduler} {now instant : Nat} {l : JobLoop}
    (hr : scheduler.loopReady now l = false)
    (hlt : ∀ wake, loopWake l = some wake → instant < wake) :
    scheduler.loopReady (max now instant) l = false := by
  rw [loopReady] at hr ⊢
  rw [loopWake] at hlt
  cases hstate : l.state with
  | unbegun => simp [hstate] at hr
  | ended => rfl
  | waiting anchor fire =>
      rw [hstate] at hr hlt
      have hwake := hlt (anchor.instantOf fire) rfl
      simp only [Bool.or_eq_false_iff, decide_eq_false_iff_not] at hr ⊢
      exact ⟨hr.1, by omega⟩
  | working anchor fire done outcome =>
      rw [hstate] at hr hlt
      have hwake := hlt done rfl
      simp only [decide_eq_false_iff_not] at hr ⊢
      omega

/-- So does the coordinator of a teardown. -/
lemma Teardown.ready_later {t : Teardown} {w : World} {instant : Nat} (hr : t.ready w = false)
    (hlt : ∀ until_, t.awaitingUntil = some until_ → instant < until_) :
    t.ready { w with now := max w.now instant } = false := by
  rw [ready] at hr ⊢
  cases ha : t.awaited with
  | none => rfl
  | some awaited =>
      obtain ⟨task, until_⟩ := awaited
      have hwake := hlt until_ (awaited_eq_some ha).1
      simp only [ha, outcome?] at hr ⊢
      cases hend : task.task.ending? with
      | some ending => simp [hend] at hr
      | none =>
          simp only [hend] at hr ⊢
          have hnow : ¬ until_ ≤ w.now := fun hle => by simp [hle] at hr
          rw [if_neg (show ¬ until_ ≤ max w.now instant by omega)]
          rfl

namespace Run

variable {app : Application} {r r' : Run}

/-- What it is that cannot go on at a quiet moment. -/
theorem isQuiet_iff : r.isQuiet app = true ↔
    r.supervisorReady app = false ∧ (∀ index, r.startup.watchReady index = false) ∧
      (∀ index, r.startup.ready app.registry r.world index = false) ∧
      (∀ number, r.teardown.taskReady app.registry r.world number = false) ∧
      (∀ scheduler ∈ r.world.schedulers, ∀ l ∈ scheduler.loops,
        scheduler.loopReady r.world.now l = false) ∧
      r.world.signals.waiting.isEmpty = true := by
  -- The lists of what is ready are filters of ranges, beyond which nothing is.
  have hfilter : ∀ (p : Nat → Bool) bound, (∀ i, bound ≤ i → p i = false) →
      (((List.range bound).filter p).isEmpty = true ↔ ∀ i, p i = false) := by
    intro p bound hout
    rw [List.isEmpty_iff, List.filter_eq_nil_iff]
    constructor
    · intro hall i
      rcases Nat.lt_or_ge i bound with hlt | hge
      · exact Bool.eq_false_iff.mpr (hall i (List.mem_range.mpr hlt))
      · exact hout i hge
    · intro hall i _
      rw [hall i]
      exact Bool.false_ne_true
  have hwatches : r.readyWatches.isEmpty = true ↔ ∀ index, r.startup.watchReady index = false := by
    refine hfilter _ _ fun index hi => ?_
    rw [Startup.watchReady, List.getElem?_eq_none hi]
  have hentries : (r.readyEntries app).isEmpty = true ↔
      ∀ index, r.startup.ready app.registry r.world index = false := by
    refine hfilter _ _ fun index hi => ?_
    rw [Startup.ready, List.getElem?_eq_none hi]
    cases app.registry.entries[index]? <;> rfl
  have htasks : (r.readyTeardowns app).isEmpty = true ↔
      ∀ number, r.teardown.taskReady app.registry r.world number = false := by
    refine hfilter _ _ fun number hi => ?_
    rw [Teardown.taskReady, List.getElem?_eq_none hi]
  have hloops : r.readyLoops.isEmpty = true ↔ ∀ scheduler ∈ r.world.schedulers,
      ∀ l ∈ scheduler.loops, scheduler.loopReady r.world.now l = false := by
    rw [List.isEmpty_iff, readyLoops, List.flatMap_eq_nil_iff]
    constructor
    · intro hall scheduler hs l hl
      obtain ⟨owner, hs⟩ := List.mem_iff_getElem?.mp hs
      obtain ⟨number, hl⟩ := List.mem_iff_getElem?.mp hl
      have hnone := hall (scheduler, owner) (List.mem_zipIdx_iff_getElem?.mpr hs)
      have hloop := List.filterMap_eq_nil_iff.mp hnone (l, number)
        (List.mem_zipIdx_iff_getElem?.mpr hl)
      cases hready : scheduler.loopReady r.world.now l with
      | false => rfl
      | true => simp [hready] at hloop
    · rintro hall ⟨scheduler, owner⟩ hs
      refine List.filterMap_eq_nil_iff.mpr ?_
      rintro ⟨l, number⟩ hl
      have hready := hall scheduler (List.mem_of_getElem? (List.mem_zipIdx_iff_getElem?.mp hs)) l
        (List.mem_of_getElem? (List.mem_zipIdx_iff_getElem?.mp hl))
      simp [hready]
  rw [isQuiet]
  simp only [Bool.and_eq_true, Bool.not_eq_true', and_assoc]
  rw [hwatches, hentries, htasks, hloops]

/-- At a quiet moment a schedule can take no step but that of the clock. -/
lemma eq_tick_of_isQuiet {label : Label} (hq : r.isQuiet app = true)
    (h : r.step? app label = some r') : label = .tick := by
  obtain ⟨hs, hw, he, ht, hl, hd⟩ := isQuiet_iff.mp hq
  cases label with
  | supervisor patience prefers => simp [step?, hs] at h
  | watch index => simp [step?, hw] at h
  | entry index => simp [step?, he] at h
  | teardown number => simp [step?, ht] at h
  | job owner number fires =>
      obtain ⟨hr, -⟩ := Option.ite_none_right_eq_some.mp h
      simp only [isQuiet, Bool.and_eq_true, List.isEmpty_iff] at hq
      rw [hq.1.2] at hr
      cases hr
  | deliver => simp [step?, hd] at h
  | tick => rfl

/-- A supervisor that waits goes on waiting until the instant at which it goes on by itself. -/
lemma supervisorReady_later {instant : Nat} (hr : r.supervisorReady app = false)
    (hlt : ∀ wake ∈ r.supervisorWakes app, instant < wake) :
    (r.atInstant instant).supervisorReady app = false := by
  have hcontrol : (r.atInstant instant).control = r.control := rfl
  rw [supervisorReady] at hr ⊢
  rw [hcontrol]
  rw [supervisorWakes] at hlt
  cases hc : r.control with
  | idle => simp [hc] at hr
  | waiting =>
      simp only [hc, Bool.or_eq_false_iff] at hr ⊢
      refine ⟨?_, hr.2⟩
      have hdue := hr.1
      rw [triggerDue] at hdue ⊢
      cases htrigger : app.trigger with
      | never => rfl
      | signals =>
          simp only [htrigger] at hdue ⊢
          exact hdue
      | atInstant fires =>
          have hwake := hlt fires (by simp [hc, htrigger])
          simp only [htrigger, decide_eq_false_iff_not] at hdue ⊢
          show ¬ fires ≤ max r.world.now instant
          omega
  | draining first drained =>
      rw [hc] at hr
      exact hr
  | stopping first =>
      simp only [hc, Option.mem_toList] at hr hlt
      exact Teardown.ready_later hr hlt
  | byHand =>
      simp only [hc, Option.mem_toList] at hr hlt
      exact Teardown.ready_later hr hlt
  | returned first => rfl
  | abandoned => rfl

/-- **A quiet moment lasts until the next wake.** -/
theorem isQuiet_atInstant {instant : Nat} (hq : r.isQuiet app = true)
    (hlt : ∀ wake ∈ r.wakes app, instant < wake) : (r.atInstant instant).isQuiet app = true := by
  obtain ⟨hs, hw, he, ht, hl, hd⟩ := isQuiet_iff.mp hq
  simp only [wakes, List.mem_append, or_imp, forall_and] at hlt
  obtain ⟨⟨⟨hsupervisor, hentries⟩, htasks⟩, hloops⟩ := hlt
  refine isQuiet_iff.mpr ⟨supervisorReady_later hs hsupervisor, hw, fun index => ?_,
    fun number => ?_, fun scheduler hmem l hloop => ?_, hd⟩
  · have hready := he index
    have hstartup : (r.atInstant instant).startup = r.startup := rfl
    rw [Startup.ready] at hready ⊢
    rw [hstartup]
    split
    · rename_i entry task hentry htask
      simp only [hentry, htask] at hready
      have hwake : ∀ wake, task.wake = some wake → instant < wake := fun wake hwake =>
        hentries wake (List.mem_filterMap.mpr ⟨task, List.mem_of_getElem? htask, hwake⟩)
      cases task with
      | unspawned routine => rfl
      | watched task => exact Task.ready_later hready hwake
      | reported ending => rfl
      | unwatched task => exact Task.ready_later hready hwake
    · rfl
  · have hready := ht number
    have hteardown : (r.atInstant instant).teardown = r.teardown := rfl
    rw [Teardown.taskReady] at hready ⊢
    rw [hteardown]
    cases htask : r.teardown.tasks[number]? with
    | none => rfl
    | some task =>
        rw [htask] at hready
        refine Task.ready_later hready fun wake hwake => htasks wake ?_
        exact List.mem_filterMap.mpr ⟨task, List.mem_of_getElem? htask, hwake⟩
  · refine Scheduler.loopReady_later (hl scheduler hmem l hloop) fun wake hwake => hloops wake ?_
    refine List.mem_flatMap.mpr ⟨scheduler, hmem, ?_⟩
    exact List.mem_filterMap.mpr ⟨l, hloop, hwake⟩

end Run

end ServiceSupervisor
