import Mathlib.Data.List.Nodup
import ServiceSupervisor.Consumer
import ServiceSupervisor.Proofs.Verdict

/-!
Exits handed out to a consumer.

An exit is reported once, waits with the others, and is taken by a call.  What has been handed out,
what a drain has collected and what still waits are therefore the reports in their order, cut in
three; and the reports themselves are known from the courses of the entry routines.

* `Routine.CanEnd`: the endings at the leaves of a routine; execution adds none
  (`Task.advance_canEnd`);
* `Run.Unsupervised`: all that holds of entry routines that run without a supervisor; every move
  keeps it (`Run.Unsupervised.move`);
* `Run.nodup_reportedExits`, `Run.exists_reportedExits_iff`: each place is reported once, when its
  routine has ended and been watched to the end;
* `Consumer.Sound`: the reports, cut in three; every step of a consumer keeps it
  (`Consumer.Sound.step`);
* `Consumer.exits_handed_once`: the theorem on exits.
-/

namespace ServiceSupervisor

/-! ### The endings of a routine -/

/-- A routine can end so: the ending stands at one of its leaves. -/
def Routine.CanEnd (ending : Ending) : Routine → Prop
  | stop own => own = ending
  | hang => False
  | sleep _ next | pause next | awaitCancel next | cancel next | note _ next | raise _ next
  | startJobs next | stopJobs next => next.CanEnd ending
  | sleepOrCancel _ late cancelled => late.CanEnd ending ∨ cancelled.CanEnd ending
  | ifCancelled yes no => yes.CanEnd ending ∨ no.CanEnd ending
  | awaitJobs _ idle late => idle.CanEnd ending ∨ late.CanEnd ending

/-- A task can still end so. -/
def Task.CanEnd (ending : Ending) : Task → Prop
  | unbegun next | asleep _ next | paused next | awaiting next => next.CanEnd ending
  | racing _ late cancelled => late.CanEnd ending ∨ cancelled.CanEnd ending
  | joining _ idle late => idle.CanEnd ending ∨ late.CanEnd ending
  | hung => False
  | ended own => own = ending

/-- A routine that acts goes towards its leaves. -/
lemma Routine.exec_canEnd {actor : Actor} {owner : Nat} {ending : Ending} {routine : Routine}
    {w : World} (h : (routine.exec actor owner w).1.CanEnd ending) : routine.CanEnd ending := by
  induction routine generalizing w with
  | stop own => exact h
  | hang => exact h
  | pause next ih => exact h
  | cancel next ih => exact ih h
  | note left next ih => exact ih h
  | startJobs next ih => exact ih h
  | stopJobs next ih => exact ih h
  | sleep span next ih =>
      rw [exec] at h
      split at h
      · exact ih h
      · exact h
  | awaitCancel next ih =>
      rw [exec] at h
      split at h
      · exact ih h
      · exact h
  | raise signal next ih =>
      rw [exec] at h
      split at h
      · exact ih h
      · exact ih h
  | ifCancelled yes no ihYes ihNo =>
      rw [exec] at h
      split at h
      · exact .inl (ihYes h)
      · exact .inr (ihNo h)
  | sleepOrCancel span late cancelled ihLate ihCancelled =>
      rw [exec] at h
      split at h
      · exact .inr (ihCancelled h)
      split at h
      · exact .inl (ihLate h)
      · exact h
  | awaitJobs span idle late ihIdle ihLate =>
      rw [exec] at h
      split at h
      · exact .inl (ihIdle h)
      split at h
      · exact .inr (ihLate h)
      · exact h

namespace Task

variable {actor : Actor} {owner : Nat} {ending : Ending} {task : Task}

lemma poll_canEnd (w : World) (h : (task.poll actor owner w).1.CanEnd ending) :
    task.CanEnd ending := by
  cases task with
  | unbegun routine => exact Routine.exec_canEnd h
  | paused next => exact Routine.exec_canEnd h
  | hung => exact h
  | ended own => exact h
  | asleep until_ next =>
      rw [poll] at h
      split at h
      · exact Routine.exec_canEnd h
      · exact h
  | awaiting next =>
      rw [poll] at h
      split at h
      · exact Routine.exec_canEnd h
      · exact h
  | racing until_ late cancelled =>
      rw [poll] at h
      split at h
      · exact .inr (Routine.exec_canEnd h)
      split at h
      · exact .inl (Routine.exec_canEnd h)
      · exact h
  | joining until_ idle late =>
      rw [poll] at h
      split at h
      · exact .inl (Routine.exec_canEnd h)
      split at h
      · exact .inr (Routine.exec_canEnd h)
      · exact h

/-- A task that goes on can only end as it could before. -/
lemma advance_canEnd {begins : Event} {ends : Ending → Event} {w : World}
    (h : (task.advance begins ends actor owner w).1.CanEnd ending) : task.CanEnd ending := by
  rw [advance] at h
  split at h
  · exact h
  · have hpoll : (task.poll actor owner (task.announce begins w)).1.CanEnd ending := by
      generalize task.poll actor owner (task.announce begins w) = result at h ⊢
      cases hend : result.1.ending? with
      | none => simpa [hend] using h
      | some own => simpa [hend] using h
    exact poll_canEnd _ hpoll

end Task

/-- A panic is reported as an error that says so. -/
lemma Ending.failure?_panicked (payload : Option String) :
    ∃ failure, (Ending.panicked payload).failure? = some failure ∧
      "component task panicked".toList <+: failure.message.toList := by
  refine ⟨_, rfl, ?_⟩
  rw [Failure.message, List.getLast?_nil, Option.getD_none, String.toList_append]
  exact List.IsPrefix.trans (by decide) (List.prefix_append ..)

/-! ### The reports of one place -/

/-- The reports in the course of the routine at a place: one if it has been reported, else none. -/
lemma EntryTask.Course.exits {now index : Nat} {found : Option EntryTask} {tr : Trace}
    (h : EntryTask.Course now index found tr) (registry : Registry) :
    tr.reverse.filterMap (Record.exit? registry) = [] ∧
        (∀ ending, found ≠ some (.reported ending)) ∨
      ∃ ending time, found = some (.reported ending) ∧
        tr.reverse.filterMap (Record.exit? registry)
          = [⟨index, registry.nameAt index, ending, time⟩] := by
  cases h with
  | absent => exact .inl ⟨rfl, by simp⟩
  | unspawned routine => exact .inl ⟨rfl, by simp⟩
  | watched hn hle hc =>
      refine .inl ⟨?_, by simp⟩
      cases hc with
      | unbegun routine => rfl
      | running phase hu he => rfl
      | ended ending phase phase' hle' => cases hn
  | finished ending phase phase' hle => exact .inl ⟨rfl, by simp⟩
  | @reported start time ending phase phase' phase'' hle hnow =>
      exact .inr ⟨ending, time, rfl, rfl⟩

namespace Run

variable {app : Application} {r r' : Run}

/-- The reports of one place are those in its course. -/
lemma filter_reportedExits (r : Run) (index : Nat) :
    (r.reportedExits app).filter (fun exit => exit.index = index)
      = (r.world.trace.about (Event.concernsEntry index)).reverse.filterMap
          (Record.exit? app.registry) := by
  have hwider : ∀ e, Event.concernsEntry index e = true → e.isOfEntries = true :=
    fun _ => Event.isOfEntries_of_concernsEntry
  rw [← about_entryTrace hwider, reportedExits, Trace.about, ← List.filter_reverse,
    List.filter_filterMap, List.filterMap_filter]
  congr 1
  funext x
  obtain ⟨time, phase, event⟩ := x
  cases event with
  | exitReported i ending =>
      by_cases hi : i = index <;> simp [Record.exit?, Event.concernsEntry, hi, Option.filter]
  | _ => simp [Record.exit?]

section Courses

variable (hcourse : ∀ index, EntryTask.Course r.world.now index r.startup.entries[index]?
  (r.world.trace.about (Event.concernsEntry index)))
include hcourse

/-- No place is reported twice while every entry routine is on its course. -/
lemma nodup_reportedExits : ((r.reportedExits app).map (·.index)).Nodup := by
  refine List.nodup_iff_count_le_one.mpr fun index => ?_
  rw [List.count, List.countP_map, List.countP_eq_length_filter]
  have hfilter : (r.reportedExits app).filter ((· == index) ∘ (·.index))
      = (r.reportedExits app).filter fun exit => exit.index = index := rfl
  rw [hfilter, filter_reportedExits]
  rcases (hcourse index).exits app.registry with
    ⟨hnone, -⟩ | ⟨ending, time, -, hone⟩
  · simp [hnone]
  · simp [hone]

/-- A place is reported then exactly when the watching task of its routine has reported the end. -/
lemma exists_reportedExits_iff (index : Nat) :
    (∃ exit ∈ r.reportedExits app, exit.index = index) ↔
      ∃ ending, r.startup.entries[index]? = some (.reported ending) := by
  have hview : (∃ exit ∈ r.reportedExits app, exit.index = index) ↔
      (r.reportedExits app).filter (fun exit => exit.index = index) ≠ [] := by
    simp [List.filter_eq_nil_iff]
  rw [hview, filter_reportedExits]
  rcases (hcourse index).exits app.registry with
    ⟨hnone, hnot⟩ | ⟨ending, time, hfound, hone⟩
  · simp [hnone, hnot]
  · simp [hone, hfound]

end Courses

/-! ### Runs without a supervisor -/

/-- Each entry routine can only end as that of its registration can. -/
def Own (app : Application) (r : Run) : Prop :=
  ∀ (index : Nat) (entry : Registration) (task : EntryTask) (ending : Ending),
    app.registry.entries[index]? = some entry → r.startup.entries[index]? = some task →
      task.task.CanEnd ending → entry.component.entry.CanEnd ending

/-- One entry routine goes on and can only end as before. -/
lemma Own.set {index : Nat} {old new : EntryTask} (h : Own app r)
    (ht : r.startup.entries[index]? = some old)
    (hs : r'.startup.entries = r.startup.entries.set index new)
    (hnew : ∀ ending, new.task.CanEnd ending → old.task.CanEnd ending) : Own app r' := by
  intro i entry task ending he htask hend
  rw [hs, getElem?_set_cases ht] at htask
  split at htask
  · subst i
    cases htask
    exact h index entry old ending he ht (hnew ending hend)
  · exact h i entry task ending he htask hend

/-- All that holds of entry routines that run without a supervisor. -/
structure Unsupervised (app : Application) (r : Run) : Prop where
  /-- There is no supervisor. -/
  control_eq : r.control = .byHand
  /-- There is one entry routine per registration. -/
  length_eq : r.startup.entries.length = app.registry.size
  /-- The records stand in the order of time. -/
  chronological : Trace.Chronological r.world.now r.world.trace
  /-- Each entry routine is on its course. -/
  course : ∀ index, EntryTask.Course r.world.now index r.startup.entries[index]?
    (r.world.trace.about (Event.concernsEntry index))
  /-- It is that of its registration. -/
  own : Own app r

/-- Without a supervisor a move at most adds exits to those that wait, as it reports them. -/
lemma Move.unsupervised (hm : Move app r r') (hc : r.control = .byHand) :
    r'.control = .byHand ∧ r'.startup.entries.length = r.startup.entries.length ∧
      (Own app r → Own app r') ∧
        ∃ new, r'.startup.exits = r.startup.exits ++ new ∧
          r'.reportedExits app = r.reportedExits app ++ new := by
  have hrest : ∀ w : World, w.trace.about Event.isOfEntries = r.entryTrace → ∃ new,
      r.startup.exits = r.startup.exits ++ new ∧
        reportedExits app { r with world := w } = r.reportedExits app ++ new := by
    intro w hw
    have hview : entryTrace { r with world := w } = r.entryTrace := hw
    exact ⟨[], (List.append_nil _).symm,
      (reportedExits_congr hview).trans (List.append_nil _).symm⟩
  cases hm with
  | launch hc' => cases hc.symm.trans hc'
  | skim hc' => cases hc.symm.trans hc'
  | fail hc' => cases hc.symm.trans hc'
  | trigger prefers hc' => cases hc.symm.trans hc'
  | collect hc' => cases hc.symm.trans hc'
  | judge hc' => cases hc.symm.trans hc'
  | finish hc' => cases hc.symm.trans hc'
  | coordinate hc' hmove => exact ⟨hc, rfl, id, hrest _ hmove.about_isOfEntries⟩
  | teardown ht hr hp =>
      refine ⟨hc, rfl, id, hrest _ ?_⟩
      exact (Task.advances_of_ready hr hp).about_eq_of_other
        Event.isOfEntries_of_isNote rfl fun _ => rfl
  | @job owner number fires hr =>
      refine ⟨hc, rfl, id, hrest _ ?_⟩
      exact (World.pollLoop_ripples r.world owner number fires).about_eq Event.isOfEntries_of_isNote
  | deliver hw => exact ⟨hc, rfl, id, hrest _ rfl⟩
  | tick hq hp hn => exact ⟨hc, rfl, id, hrest _ rfl⟩
  | spawnEntry he ht =>
      exact ⟨hc, List.length_set .., fun h => h.set ht rfl fun _ => id, hrest _ rfl⟩
  | @reportExit index entry ending he ht =>
      refine ⟨hc, List.length_set .., fun h => h.set ht rfl fun _ => id, _, rfl, ?_⟩
      simp [reportedExits, entryTrace, Event.isOfEntries, Record.exit?, Registry.nameAt, he]
  | @entry index entry task polled w he ht hr hp =>
      refine ⟨hc, List.length_set .., fun h => h.set ht rfl fun ending hend => ?_, [], ?_, ?_⟩
      · have hpolled : (task.withTask polled).task = polled := by
          cases task <;> first | rfl | cases hr
        rw [hpolled, ← show _ = polled from congrArg Prod.fst hp] at hend
        exact Task.advance_canEnd hend
      · exact (List.append_nil _).symm
      · exact (reportedExits_of_advances (EntryTask.advances_of_ready hr hp)).trans
          (List.append_nil _).symm

namespace Unsupervised

/-- Every move keeps it. -/
theorem move (h : Unsupervised app r) (hm : Move app r r') : Unsupervised app r' := by
  obtain ⟨hc, hlength, hown, -⟩ := hm.unsupervised h.control_eq
  refine ⟨hc, hlength.trans h.length_eq, hm.grows.chronological h.chronological,
    fun index => hm.course (fun hidle => ?_) (h.course index), hown h.own⟩
  cases h.control_eq.symm.trans hidle

/-- Moves keep it, and add as many exits to those that wait as they report. -/
lemma moves (h : Unsupervised app r) (hm : Moves app r r') : Unsupervised app r' ∧
    ∃ new, r'.startup.exits = r.startup.exits ++ new ∧
      r'.reportedExits app = r.reportedExits app ++ new := by
  induction hm with
  | refl => exact ⟨h, [], (List.append_nil _).symm, (List.append_nil _).symm⟩
  | tail _ hm ih =>
      obtain ⟨hold, before, hexits, hreports⟩ := ih
      obtain ⟨-, -, -, new, hexits', hreports'⟩ := hm.unsupervised hold.control_eq
      refine ⟨hold.move hm, before ++ new, ?_, ?_⟩
      · rw [hexits', hexits, List.append_assoc]
      · rw [hreports', hreports, List.append_assoc]

/-- It holds when the routines have just been launched. -/
lemma launchByHand (signals : Signals) (wallClock : Nat → Timestamp) (cancelled : Bool) :
    Unsupervised app ((initial app signals wallClock).launchByHand app cancelled) := by
  refine ⟨rfl, List.length_map .., (Reached.initial signals wallClock).chronological, ?_, ?_⟩
  · intro index
    have htrace : ((initial app signals wallClock).launchByHand app cancelled).world.trace.about
        (Event.concernsEntry index) = [] :=
      about_initial signals wallClock Event.concernsEntry_of_isNote fun _ _ => rfl
    rw [htrace]
    rw [Run.launchByHand, Startup.launch, List.getElem?_map]
    cases app.registry.entries[index]? with
    | none => exact .absent
    | some entry => exact .unspawned entry.component.entry
  · intro index entry task ending he ht hend
    rw [Run.launchByHand, Startup.launch, List.getElem?_map, he] at ht
    cases ht
    exact hend

/-- What is reported is how the entry routine of that registration ended, at that instant. -/
lemma attributed (h : Unsupervised app r) {exit : Exit} (hexit : exit ∈ r.reportedExits app) :
    ∃ entry phase, app.registry.entries[exit.index]? = some entry ∧ exit.name = entry.name ∧
      entry.component.entry.CanEnd exit.ending ∧
        ⟨exit.time, phase, .entryEnded exit.index exit.ending⟩ ∈ r.world.trace := by
  obtain ⟨phase, hmem, hname⟩ := mem_reportedExits.mp hexit
  obtain ⟨phase', hended⟩ := (h.course exit.index).ended_of_reported
    (Trace.mem_about.mpr ⟨hmem, by simp [Event.concernsEntry]⟩)
  have hmine : exit ∈ (r.reportedExits app).filter fun other => other.index = exit.index := by
    simp [hexit]
  rw [filter_reportedExits] at hmine
  rcases (h.course exit.index).exits app.registry with
    ⟨hnone, -⟩ | ⟨ending, time, hfound, hone⟩
  · rw [hnone] at hmine
    cases hmine
  · rw [hone] at hmine
    have hending : exit.ending = ending :=
      congrArg Exit.ending (List.mem_singleton.mp hmine)
    have hlt : exit.index < app.registry.size := by
      rw [← h.length_eq]
      exact (List.getElem?_eq_some_iff.mp hfound).1
    have hentry := List.getElem?_eq_getElem hlt
    refine ⟨_, phase', hentry, ?_, h.own _ _ _ _ hentry hfound hending.symm,
      (Trace.mem_about.mp hended).1⟩
    rw [hname, Registry.nameAt, hentry]
    rfl

/-- **No place is reported twice.** -/
theorem nodup_reports (h : Unsupervised app r) :
    ((r.reportedExits app).map (·.index)).Nodup :=
  nodup_reportedExits h.course

/-- A place is reported exactly when the watching task of its routine has reported the end. -/
theorem exists_report_iff (h : Unsupervised app r) (index : Nat) :
    (∃ exit ∈ r.reportedExits app, exit.index = index) ↔
      ∃ ending, r.startup.entries[index]? = some (.reported ending) :=
  exists_reportedExits_iff h.course index

/-- Every place is reported exactly when all watching tasks have reported. -/
theorem allReported_iff (h : Unsupervised app r) : r.startup.allReported = true ↔
    ∀ index, index < app.registry.size → ∃ exit ∈ r.reportedExits app, exit.index = index := by
  simp only [h.exists_report_iff, ← h.length_eq, Startup.allReported, List.all_eq_true]
  constructor
  · intro hall index hindex
    have hreported := hall _ (List.getElem_mem hindex)
    rw [List.getElem?_eq_getElem hindex]
    cases htask : r.startup.entries[index] with
    | reported ending => exact ⟨ending, rfl⟩
    | unspawned routine => simp [htask, EntryTask.isReported] at hreported
    | watched task => simp [htask, EntryTask.isReported] at hreported
    | unwatched task => simp [htask, EntryTask.isReported] at hreported
  · intro hall task htask
    obtain ⟨index, ht⟩ := List.mem_iff_getElem?.mp htask
    obtain ⟨ending, hending⟩ := hall index (List.getElem?_eq_some_iff.mp ht).1
    obtain rfl := Option.some.inj (ht.symm.trans hending)
    rfl

/-- When nothing can go on and every entry routine has ended, all of them have been reported. -/
lemma allReported_of_isQuiet (h : Unsupervised app r) (hq : r.isQuiet app = true)
    (hends : ∀ index, index < app.registry.size → ∃ time phase ending,
      ⟨time, phase, .entryEnded index ending⟩ ∈ r.world.trace) :
    r.startup.allReported = true := by
  rw [h.allReported_iff]
  intro index hindex
  obtain ⟨time, phase, ending, hmem⟩ := hends index hindex
  exact (h.exists_report_iff index).mpr ((h.course index).reported_of_ended
    (Trace.mem_about.mpr ⟨hmem, by simp [Event.concernsEntry]⟩)
    fun task ht => watchReady_of_isQuiet hq ht)

end Unsupervised

end Run

/-! ### Consumers -/

namespace Consumer

variable {app : Application} {c c' : Consumer}

/-- The exits that a drain under way has collected. -/
def Call.collected : Call → List Exit
  | none | next => []
  | drain collected => collected

/-- The exits that have been handed out, in order. -/
def handed (c : Consumer) : List Exit := c.answers.flatMap Answer.exits

/-- All that a step of a consumer keeps. -/
structure Sound (app : Application) (c : Consumer) : Prop where
  /-- There is no supervisor. -/
  unsupervised : c.run.Unsupervised app
  /-- There is no teardown that could go on. -/
  parked : c.run.Parked
  /-- The reports are what has been handed out, what a drain has collected, and what waits. -/
  reports_eq : c.run.reportedExits app = c.handed ++ c.call.collected ++ c.run.startup.exits
  /-- After a drain has returned every place has been handed out. -/
  covered : (∃ exits, .drained exits ∈ c.answers) → ∀ index, index < app.registry.size →
    ∃ exit ∈ c.handed, exit.index = index

namespace Sound

/-- Every place has been handed out exactly when no exit waits and all have been reported, unless a
drain keeps some to itself. -/
lemma hasPending_eq_false_iff (h : Sound app c) (hcall : c.call.collected = []) :
    c.run.startup.hasPending = false ↔
      ∀ index, index < app.registry.size → ∃ exit ∈ c.handed, exit.index = index := by
  have hreports := h.reports_eq
  rw [hcall, List.append_nil] at hreports
  rw [Startup.hasPending, Bool.or_eq_false_iff, Bool.not_eq_false', Bool.not_eq_false',
    List.isEmpty_iff, h.unsupervised.allReported_iff]
  constructor
  · rintro ⟨hempty, hall⟩
    rwa [hreports, hempty, List.append_nil] at hall
  · intro hall
    refine ⟨List.eq_nil_iff_forall_not_mem.mpr fun exit hexit => ?_, fun index hindex => ?_⟩
    · -- An exit that still waits would be the second one of its place.
      obtain ⟨entry, -, hentry, -⟩ := h.unsupervised.attributed
        (hreports ▸ List.mem_append_right _ hexit)
      obtain ⟨other, hother, hsame⟩ := hall exit.index (List.getElem?_eq_some_iff.mp hentry).1
      have hnodup := h.unsupervised.nodup_reports
      rw [hreports, List.map_append, List.nodup_append] at hnodup
      exact hnodup.2.2 _ (List.mem_map_of_mem hother) _ (List.mem_map_of_mem hexit) hsame
    · obtain ⟨exit, hexit, hsame⟩ := hall index hindex
      exact ⟨exit, hreports ▸ List.mem_append_left _ hexit, hsame⟩

/-- What has been handed out stays so. -/
lemma covered_append (h : Sound app c) {answer : Answer}
    (hnew : ∀ exits, answer = .drained exits → ∀ index, index < app.registry.size →
      ∃ exit ∈ c.handed ++ answer.exits, exit.index = index) :
    (∃ exits, .drained exits ∈ c.answers ++ [answer]) → ∀ index, index < app.registry.size →
      ∃ exit ∈ c.handed ++ answer.exits, exit.index = index := by
  rintro ⟨exits, hmem⟩ index hindex
  rcases List.mem_append.mp hmem with hmem | hmem
  · obtain ⟨exit, hexit, hsame⟩ := h.covered ⟨exits, hmem⟩ index hindex
    exact ⟨exit, List.mem_append_left _ hexit, hsame⟩
  · exact hnew exits (List.mem_singleton.mp hmem).symm index hindex

lemma handed_answer (answer : Answer) (c : Consumer) :
    (c.answer answer).handed = c.handed ++ answer.exits := by
  simp [handed, Consumer.answer]

/-- The routines do not see what waits to be handed out. -/
lemma unsupervised_take (h : Sound app c) (exits : List Exit) :
    Run.Unsupervised app { c.run with startup := { c.run.startup with exits } } :=
  ⟨h.unsupervised.control_eq, h.unsupervised.length_eq, h.unsupervised.chronological,
    h.unsupervised.course, h.unsupervised.own⟩

/-- A call for the next exit is polled. -/
lemma pollNext (h : Sound app c) (hcall : c.call.collected = []) : Sound app c.pollNext := by
  have hreports := h.reports_eq
  rw [hcall, List.append_nil] at hreports
  rw [Consumer.pollNext, Startup.takeExit]
  cases hexits : c.run.startup.exits with
  | nil =>
      simp only
      split
      · refine ⟨h.unsupervised, h.parked, ?_, h.covered⟩
        rw [h.reports_eq, hcall]
        rfl
      · refine ⟨h.unsupervised, h.parked, ?_, ?_⟩
        · rw [handed_answer]
          exact hreports.trans (by simp [Answer.exits, Consumer.answer, Call.collected])
        · rw [handed_answer]
          exact h.covered_append fun exits he => by cases he
  | cons exit exits =>
      refine ⟨h.unsupervised_take exits, h.parked, ?_, ?_⟩
      · rw [handed_answer]
        refine (hreports.trans ?_ : c.run.reportedExits app = _)
        simp [hexits, Answer.exits, Consumer.answer, Call.collected, handed]
      · rw [handed_answer]
        exact h.covered_append fun exits he => by cases he

/-- A drain is polled. -/
lemma pollDrain (h : Sound app c) : Sound app (c.pollDrain c.call.collected) := by
  have hunsupervised := h.unsupervised_take []
  have hreports : c.run.reportedExits app
      = c.handed ++ (c.call.collected ++ c.run.startup.exits) := by
    rw [h.reports_eq, List.append_assoc]
  rw [Consumer.pollDrain]
  split
  · refine ⟨hunsupervised, h.parked, ?_, h.covered⟩
    exact hreports.trans (by simp [Call.collected, handed])
  · rename_i hpending
    have hall : c.run.startup.allReported = true := by
      simpa [Startup.hasPending, Startup.allReported] using hpending
    refine ⟨hunsupervised, h.parked, ?_, ?_⟩
    · rw [handed_answer]
      exact hreports.trans (by simp [Answer.exits, Consumer.answer, Call.collected, handed])
    · rw [handed_answer]
      refine h.covered_append fun exits he index hindex => ?_
      rw [show (Answer.drained (c.call.collected ++ c.run.startup.exits)).exits
        = c.call.collected ++ c.run.startup.exits from rfl, ← hreports]
      exact h.unsupervised.allReported_iff.mp hall index hindex

/-- A routine or the clock goes on. -/
lemma step_run (h : Sound app c) {label : Run.Label} {run : Run}
    (hr : c.run.step? app label = some run) : Sound app { c with run } := by
  obtain ⟨hmoves, hparked⟩ := Run.step?_moves app h.parked hr
  obtain ⟨hunsupervised, new, hexits, hreports⟩ := h.unsupervised.moves hmoves
  refine ⟨hunsupervised, hparked, ?_, h.covered⟩
  rw [hexits, hreports, h.reports_eq]
  simp [handed]

/-- The shared token is cancelled. -/
lemma cancel (h : Sound app c) :
    Sound app { c with run := { c.run with world := c.run.world.cancel } } := by
  refine ⟨⟨h.unsupervised.control_eq, h.unsupervised.length_eq, ?_, h.unsupervised.course,
    h.unsupervised.own⟩, h.parked, h.reports_eq, h.covered⟩
  have hnow : ∀ x ∈ [(⟨c.run.world.now, c.run.world.phase, .cancelled none⟩ : Record)],
      x.time = c.run.world.now := by simp
  exact h.unsupervised.chronological.append hnow

/-- Every step of a consumer keeps it. -/
theorem step (h : Sound app c) {label : Label} (hs : c.step? app label = some c') :
    Sound app c' := by
  cases label with
  | run label =>
      obtain ⟨run, hr, rfl⟩ := Option.map_eq_some_iff.mp hs
      exact h.step_run hr
  | next =>
      simp only [step?, Option.ite_none_right_eq_some, Option.some.injEq] at hs
      obtain ⟨hcall, rfl⟩ := hs
      exact h.pollNext (by rw [hcall]; rfl)
  | drain =>
      simp only [step?, Option.ite_none_right_eq_some, Option.some.injEq] at hs
      obtain ⟨hcall, rfl⟩ := hs
      have hpolled := h.pollDrain
      rwa [hcall] at hpolled
  | resume =>
      rw [step?] at hs
      cases hcall : c.call with
      | none => simp [hcall] at hs
      | next =>
          simp only [hcall, Option.some.injEq] at hs
          subst hs
          exact h.pollNext (by rw [hcall]; rfl)
      | drain collected =>
          simp only [hcall, Option.some.injEq] at hs
          subst hs
          have hpolled := h.pollDrain
          rwa [hcall] at hpolled
  | drop =>
      simp only [step?, Option.ite_none_right_eq_some, Option.some.injEq] at hs
      obtain ⟨hcall, rfl⟩ := hs
      refine ⟨h.unsupervised, h.parked, ?_, h.covered⟩
      rw [h.reports_eq, hcall]
      rfl
  | cancel =>
      obtain rfl := Option.some.inj hs
      exact h.cancel

/-- It holds at first. -/
lemma launch (signals : Signals) (wallClock : Nat → Timestamp) (cancelled : Bool) :
    Sound app (Consumer.launch app signals wallClock cancelled) := by
  refine ⟨.launchByHand signals wallClock cancelled, .inr rfl, ?_, by simp [Consumer.launch]⟩
  have htrace : (Consumer.launch app signals wallClock cancelled).run.entryTrace = [] :=
    Run.about_initial signals wallClock Event.isOfEntries_of_isNote fun _ _ => rfl
  rw [Run.reportedExits, htrace]
  rfl

end Sound

/-- In every state of a consumer the reports have been cut in three. -/
theorem sound_of_steps? {labels : List Label} (h : Sound app c)
    (hs : c.steps? app labels = some c') : Sound app c' := by
  induction labels generalizing c with
  | nil =>
      obtain rfl := Option.some.inj hs
      exact h
  | cons label labels ih =>
      obtain ⟨middle, hstep, hrest⟩ := Option.bind_eq_some_iff.mp hs
      exact ih (h.step hstep) hrest

/-! ### The theorem on exits -/

/-- All that holds of the exits that a consumer has been given. -/
structure ExitAccount (app : Application) (c : Consumer) : Prop where
  /-- No place is handed out twice. -/
  nodup : (c.handed.map (·.index)).Nodup
  /-- Each exit has the name of the registration at its place; it ended as the entry routine of that
  registration can end and did end, at that instant. -/
  attributed : ∀ exit ∈ c.handed, ∃ entry phase,
    app.registry.entries[exit.index]? = some entry ∧ exit.name = entry.name ∧
      entry.component.entry.CanEnd exit.ending ∧
        ⟨exit.time, phase, .entryEnded exit.index exit.ending⟩ ∈ c.run.world.trace
  /-- Its result is that of the routine, a panic being an error that says so. -/
  result : ∀ exit ∈ c.handed, (exit.ending = .finished → exit.failure? = none) ∧
    (∀ failure, exit.ending = .failed failure → exit.failure? = some failure) ∧
      ∀ payload, exit.ending = .panicked payload → ∃ failure, exit.failure? = some failure ∧
        "component task panicked".toList <+: failure.message.toList
  /-- They come in the order in which the routines ended. -/
  sorted : c.handed.Pairwise fun earlier later => earlier.time ≤ later.time
  /-- Between calls and while the next exit is waited for, some exit is pending exactly while some
  place has not been handed out. -/
  pending_iff : (∀ collected, c.call ≠ .drain collected) → (c.run.startup.hasPending = true ↔
    ∃ index, index < app.registry.size ∧ ∀ exit ∈ c.handed, exit.index ≠ index)
  /-- A call for the next exit returns that there is none exactly when every place has been handed
  out. -/
  none_iff : ∀ label c', label = .next ∨ label = .resume ∧ c.call = .next →
    c.step? app label = some c' → (c'.answers = c.answers ++ [.next none] ↔
      ∀ index, index < app.registry.size → ∃ exit ∈ c.handed, exit.index = index)
  /-- After a drain has returned the places handed out are all there are, each once. -/
  drained : (∃ exits, .drained exits ∈ c.answers) →
    (c.handed.map (·.index)).Perm (List.range app.registry.size)
  /-- When nothing else can go on and every entry routine has ended, a call that waits returns. -/
  returns : c.run.isQuiet app = true → (∀ index, index < app.registry.size →
      ∃ time phase ending, ⟨time, phase, .entryEnded index ending⟩ ∈ c.run.world.trace) →
    ∀ c', c.step? app .resume = some c' → c'.call = .none

namespace Sound

/-- What has been handed out has been reported. -/
lemma mem_reports (h : Sound app c) {exit : Exit} (hexit : exit ∈ c.handed) :
    exit ∈ c.run.reportedExits app := by
  rw [h.reports_eq, List.append_assoc]
  exact List.mem_append_left _ hexit

/-- What a call for the next exit answers. -/
lemma answers_pollNext (h : Sound app c) (hcall : c.call.collected = []) :
    c.pollNext.answers = c.answers ++ [.next none] ↔
      ∀ index, index < app.registry.size → ∃ exit ∈ c.handed, exit.index = index := by
  rw [← h.hasPending_eq_false_iff hcall, Consumer.pollNext, Startup.takeExit, Startup.hasPending]
  cases c.run.startup.exits with
  | nil => cases hall : c.run.startup.allReported <;> simp [Consumer.answer]
  | cons exit exits => simp [Consumer.answer]

/-- A call that waits returns once everything has been reported. -/
lemma call_resume (hall : c.run.startup.allReported = true) (hs : c.step? app .resume = some c') :
    c'.call = .none := by
  rw [step?] at hs
  cases hcall : c.call with
  | none => simp [hcall] at hs
  | next =>
      simp only [hcall, Option.some.injEq] at hs
      subst hs
      rw [Consumer.pollNext, Startup.takeExit, Startup.hasPending, hall]
      cases c.run.startup.exits <;> rfl
  | drain collected =>
      simp only [hcall, Option.some.injEq] at hs
      subst hs
      have hnone : ({ c.run.startup with exits := [] } : Startup).hasPending = false := by
        simpa [Startup.hasPending, Startup.allReported] using hall
      rw [Consumer.pollDrain]
      simp only [hnone]
      rfl

/-- **The account of the exits.** -/
theorem account (h : Sound app c) : ExitAccount app c := by
  have hnodup : (c.handed.map (·.index)).Nodup := by
    have hall := h.unsupervised.nodup_reports
    rw [h.reports_eq, List.append_assoc, List.map_append] at hall
    exact (List.nodup_append.mp hall).1
  have hattributed := fun exit (hexit : exit ∈ c.handed) =>
    h.unsupervised.attributed (h.mem_reports hexit)
  refine ⟨hnodup, hattributed, ?_, ?_, ?_, ?_, ?_, ?_⟩
  · intro exit hexit
    refine ⟨fun he => ?_, fun failure he => ?_, fun payload he => ?_⟩
    · rw [Exit.failure?, he]
      rfl
    · rw [Exit.failure?, he]
      rfl
    · obtain ⟨failure, hfailure, hmessage⟩ := Ending.failure?_panicked payload
      exact ⟨failure, by rw [Exit.failure?, he, hfailure], hmessage⟩
  · have hsorted : (c.run.reportedExits app).Pairwise fun earlier later =>
        earlier.time ≤ later.time :=
      Run.pairwise_reportedExits_of_chronological h.unsupervised.chronological
    rw [h.reports_eq, List.append_assoc] at hsorted
    exact (List.pairwise_append.mp hsorted).1
  · intro hcall
    have hcollected : c.call.collected = [] := by
      cases hc : c.call with
      | none => rfl
      | next => rfl
      | drain collected => exact absurd hc (hcall collected)
    rw [← not_iff_not, Bool.not_eq_true, h.hasPending_eq_false_iff hcollected]
    simp
  · intro label c' hlabel hs
    rcases hlabel with rfl | ⟨rfl, hcall⟩
    · simp only [step?, Option.ite_none_right_eq_some, Option.some.injEq] at hs
      obtain ⟨hcall, rfl⟩ := hs
      exact h.answers_pollNext (by rw [hcall]; rfl)
    · simp only [step?, hcall, Option.some.injEq] at hs
      subst hs
      exact h.answers_pollNext (by rw [hcall]; rfl)
  · intro hdrained
    refine (List.perm_ext_iff_of_nodup hnodup List.nodup_range).mpr fun index => ?_
    rw [List.mem_range, List.mem_map]
    constructor
    · rintro ⟨exit, hexit, rfl⟩
      obtain ⟨entry, -, hentry, -⟩ := hattributed exit hexit
      exact (List.getElem?_eq_some_iff.mp hentry).1
    · exact h.covered hdrained index
  · intro hq hends c' hs
    exact call_resume (h.unsupervised.allReported_of_isQuiet hq hends) hs

end Sound

/-- **No exit is lost, handed out twice or attributed to another.**  Whatever the entry routines do
and in whatever order they go on, whenever the token is cancelled, and however a consumer mixes
calls for the next exit, calls that it drops while they wait, and drains: the exits handed out are
those of its account. -/
theorem exits_handed_once (app : Application) (signals : Signals) (wallClock : Nat → Timestamp)
    (cancelled : Bool) (labels : List Label) (c : Consumer)
    (h : (launch app signals wallClock cancelled).steps? app labels = some c) :
    ExitAccount app c :=
  (sound_of_steps? (.launch signals wallClock cancelled) h).account

/-- A first call is dropped while it waits, the next one returns the failure of the server, and
after the cancellation a drain returns the store. -/
theorem exits_of_storeAndServer : ∃ c,
    (launch .storeAndServer .fresh (fun _ => 0) false).steps? .storeAndServer
        [.next, .run (.watch 0), .run (.watch 1), .run (.entry 0), .run (.entry 1), .drop,
          .run .tick, .run (.entry 1), .run (.watch 1), .next, .cancel, .run (.entry 0), .drain,
          .run .tick, .run (.entry 0), .run (.watch 0), .resume, .next] = some c ∧
      c.answers = [.next (some ⟨1, "server", .failed { root := "boom" }, 3⟩),
        .drained [⟨0, "store", .finished, 4⟩], .next none] ∧
      ExitAccount .storeAndServer c :=
  ⟨_, rfl, rfl, exits_handed_once .storeAndServer .fresh (fun _ => 0) false
    [.next, .run (.watch 0), .run (.watch 1), .run (.entry 0), .run (.entry 1), .drop,
      .run .tick, .run (.entry 1), .run (.watch 1), .next, .cancel, .run (.entry 0), .drain,
      .run .tick, .run (.entry 0), .run (.watch 0), .resume, .next] _ rfl⟩

end Consumer

end ServiceSupervisor
