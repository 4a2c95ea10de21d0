import Mathlib.Data.List.Nodup
import Mathlib.Data.List.Perm.Basic
import ServiceSupervisor.Proofs.InMotion

/-!
A component with recurring jobs in use, whatever is done with it.

Every loop fires one job on behalf of one call of the entry routine, from the instant of that call
on, and the record of the runs that have begun is complete.

* `Usage.Drives`: a loop fires a job on behalf of a call;
* `Usage.Sound`: so does every loop, and each call that has begun has one loop for each job;
* `Usage.sound_of_steps`: a component stays sound, whatever steps are taken;
* `Usage.Sound.goes_on`: from every state time goes on, by steps that nobody has to make.
-/

namespace ServiceSupervisor

/-! ### Changes within a list -/

/-- A change of one element that the lists of all elements do not see. -/
lemma flatMap_modify_eq {α β : Type} {f : α → α} {g : α → List β} {l : List α} {i : Nat} {a : α}
    (h : l[i]? = some a) (hg : g (f a) = g a) : (l.modify i f).flatMap g = l.flatMap g := by
  induction l generalizing i with
  | nil => cases h
  | cons x l ih =>
      cases i with
      | zero =>
          obtain rfl := Option.some.inj h
          simp [hg]
      | succ i => simpa using ih h

/-- A change of one element that adds one to its list. -/
lemma flatMap_modify_perm {α β : Type} {f : α → α} {g : α → List β} {l : List α} {i : Nat} {a : α}
    {b : β} (h : l[i]? = some a) (hg : g (f a) = b :: g a) :
    ((l.modify i f).flatMap g).Perm (b :: l.flatMap g) := by
  induction l generalizing i with
  | nil => cases h
  | cons x l ih =>
      cases i with
      | zero =>
          obtain rfl := Option.some.inj h
          simp [hg]
      | succ i => simpa using ((ih h).append_left (g x)).trans List.perm_middle

namespace Usage

variable {jobs : List Job} {u u' : Usage} {place : Nat} {c : Call}

/-! ### The component -/

/-- The clocks when a call was made. -/
def Call.origin (wallClock : Nat → Timestamp) (c : Call) : Anchor := ⟨wallClock c.made, c.made⟩

/-- The job of each loop and the place of the call that started it. -/
def shares (u : Usage) : List (Nat × Nat) :=
  (u.scheduler.loops.map (·.job)).zip (u.courses.map (·.call))

lemma getElem?_shares_iff {number : Nat} {share : Nat × Nat} : u.shares[number]? = some share ↔
    ∃ l c, u.scheduler.loops[number]? = some l ∧ u.courses[number]? = some c ∧
      (l.job, c.call) = share := by
  rw [shares, List.getElem?_zip_eq_some, List.getElem?_map, List.getElem?_map,
    Option.map_eq_some_iff, Option.map_eq_some_iff]
  constructor
  · rintro ⟨⟨l, hl, hjob⟩, c, hc, hcall⟩
    exact ⟨l, c, hl, hc, Prod.ext hjob hcall⟩
  · rintro ⟨l, c, hl, hc, rfl⟩
    exact ⟨⟨l, hl, rfl⟩, c, hc, rfl⟩

/-- One loop per job has been started by the call at a place. -/
lemma shares_of_start (hlength : u.courses.length = u.scheduler.loops.length)
    (hloops : u'.scheduler.loops = u.scheduler.loops
      ++ (List.range u.scheduler.jobs.length).map fun job => ⟨job, .unbegun⟩)
    (hcourses : u'.courses
      = u.courses ++ List.replicate u.scheduler.jobs.length { call := place }) :
    u'.shares = u.shares ++ (List.range u.scheduler.jobs.length).map fun job => (job, place) := by
  have hplaces : (List.replicate u.scheduler.jobs.length { call := place }).map Course.call
      = (List.range u.scheduler.jobs.length).map fun _ => place := by
    simp [List.map_const']
  rw [shares, hloops, hcourses, List.map_append, List.map_append,
    List.zip_append (by simp [hlength]), shares, List.map_map, hplaces, List.zip_map']
  rfl

/-- A loop fires a job on behalf of a call. -/
structure Drives (jobs : List Job) (wallClock : Nat → Timestamp) (u : Usage) (l : JobLoop)
    (c : Course) (job : ScheduledJob) (call : Call) : Prop where
  job_eq : (Scheduler.ofJobs jobs).jobs[l.job]? = some job
  call_eq : u.calls[c.call]? = some call
  started : call.isStarted = true
  fits : c.Fits job.schedule (call.origin wallClock) u.world.now u.scheduler.stopping l.state
  begun : ∀ r ∈ c.runs, r.time ≤ u.world.now ∧ (∃ n, r.run = job.job.run n) ∧
    ∃ phase, ⟨r.time, phase, .jobNoted 0 (.begun job.place job.job.name)⟩ ∈ u.starts

/-- A job as it was before its runs. -/
def unrun (job : ScheduledJob) : ScheduledJob := { job with runs := 0 }

/-- What holds of a component with recurring jobs while it is in use. -/
structure Sound (jobs : List Job) (wallClock : Nat → Timestamp) (u : Usage) : Prop where
  wallClock_eq : u.world.wallClock = wallClock
  schedulers_eq : u.world.schedulers = [u.scheduler]
  jobs_eq : u.scheduler.jobs.map unrun = (Scheduler.ofJobs jobs).jobs
  length_eq : u.courses.length = u.scheduler.loops.length
  calls : ∀ c ∈ u.calls, c.Fits jobs u.world.now
  loops : ∀ {number : Nat} {l : JobLoop} {c : Course}, u.scheduler.loops[number]? = some l →
    u.courses[number]? = some c → ∃ job call, u.Drives jobs wallClock l c job call
  shares_nodup : u.shares.Nodup
  mem_shares : ∀ j place, (j, place) ∈ u.shares ↔ j < u.scheduler.jobs.length ∧
    ∃ call, u.calls[place]? = some call ∧ call.isStarted = true
  recorded : (u.starts.map (·.time)).Perm (u.runs.map (·.time))

/-- The calls that have started loops are still there. -/
def Keeps (u u' : Usage) : Prop :=
  ∀ (place : Nat) (call : Call), u.calls[place]? = some call → call.isStarted = true →
    ∃ call', u'.calls[place]? = some call' ∧ call'.made = call.made ∧ call'.isStarted = true

variable {wallClock : Nat → Timestamp} {l : JobLoop} {course : Course} {job : ScheduledJob}
  {call : Call}

/-- What happens at an instant elsewhere does not change what a loop fires. -/
lemma Drives.elsewhere (h : u.Drives jobs wallClock l course job call)
    (hnow : u'.world.now = u.world.now)
    (hstop : u.scheduler.stopping = true → u'.scheduler.stopping = true) (hkeeps : Keeps u u')
    (hstarts : ∀ x ∈ u.starts, x ∈ u'.starts) :
    ∃ call', u'.Drives jobs wallClock l course job call' := by
  obtain ⟨call', hcall, hmade, hstarted⟩ := hkeeps _ _ h.call_eq h.started
  refine ⟨call', h.job_eq, hcall, hstarted, ?_, fun r hr => ?_⟩
  · rw [Call.origin, hmade, hnow]
    exact h.fits.mono hstop
  · obtain ⟨htime, hrun, phase, hrecord⟩ := h.begun r hr
    exact ⟨hnow ▸ htime, hrun, phase, hstarts _ hrecord⟩

/-- When a loop itself goes on it fires the job as before, and records the run that it begins. -/
lemma Drives.goes_on {number : Nat} {fires : Bool} {current : ScheduledJob}
    (h : u.Drives jobs wallClock l course (unrun current) call)
    (hpoll : LoopPoll u number fires l u') (hcurrent : u.scheduler.jobs[l.job]? = some current)
    (hr : u.scheduler.loopReady u.world.now l = true) (hwall : u.world.wallClock = wallClock) :
    u'.Drives jobs wallClock { l with state := (u.stepped fires l).1 } (u.extended fires l course)
      (unrun current) call := by
  refine ⟨h.job_eq, ?_, h.started, ?_, fun r hrun => ?_⟩
  · rw [Course.call_extend, hpoll.calls_eq, h.call_eq]
  · rw [hpoll.now_eq, hpoll.stopping_eq]
    have hfits : course.Fits current.schedule (call.origin wallClock) _ _ _ := h.fits
    show (u.extended fires l course).Fits current.schedule _ _ _ _
    refine hfits.step hcurrent hr fun hnow => ?_
    rw [hwall, hnow]
    rfl
  · rw [hpoll.now_eq]
    have hold : r ∈ course.runs → r.time ≤ u.world.now ∧ (∃ n, r.run = (unrun current).job.run n) ∧
        ∃ phase, ⟨r.time, phase, .jobNoted 0
          (.begun (unrun current).place (unrun current).job.name)⟩ ∈ u'.starts := fun hrun => by
      obtain ⟨htime, hnumber, phase, hrecord⟩ := h.begun r hrun
      exact ⟨htime, hnumber, phase, hpoll.mem_starts hcurrent hrecord⟩
    rcases Course.runs_extend with ⟨-, hruns⟩ | ⟨hbegins, job, anchor, fire, hjob, -, hruns⟩
    · rw [hruns] at hrun
      exact hold hrun
    · obtain rfl := Option.some.inj (hcurrent.symm.trans hjob)
      rw [hruns] at hrun
      rcases List.mem_cons.mp hrun with rfl | hrun
      · refine ⟨Nat.le_refl _, ⟨_, rfl⟩, u.world.phase, ?_⟩
        rw [hpoll.starts_eq current hcurrent, if_pos hbegins]
        exact List.mem_cons_self
      · exact hold hrun

/-- A run more does not matter to the jobs as they were. -/
lemma map_unrun_modify (l : List ScheduledJob) (place : Nat) :
    (l.modify place .countRun).map unrun = l.map unrun := by
  refine List.ext_getElem? fun i => ?_
  rw [List.getElem?_map, List.getElem?_map, List.getElem?_modify]
  cases l[i]? with
  | none => rfl
  | some job => by_cases hi : place = i <;> simp [hi, unrun, ScheduledJob.countRun]

lemma Poll.keeps (h : Poll jobs u place c u') (hc : u.calls[place]? = some c) : Keeps u u' := by
  intro i call hcall hstarted
  rw [h.getElem?_calls hc]
  by_cases hi : i = place
  · obtain rfl : call = c := Option.some.inj (hcall.symm.trans (hi ▸ hc))
    rw [if_pos hi]
    exact ⟨_, rfl, rfl, (isStarted_polled h).trans (Bool.and_eq_true_iff.mp hstarted).1⟩
  · rw [if_neg hi]
    exact ⟨call, hcall, rfl, hstarted⟩

variable (jobs wallClock) in
lemma schedulers_start :
    (start (.ofJobs jobs) wallClock).world.schedulers = [.ofJobs jobs] := by
  simp [start, World.ofRegistry, World.emitAll_eq, World.schedulersOf, Component.ofJobs]

variable (jobs wallClock) in
lemma scheduler_start : (start (.ofJobs jobs) wallClock).scheduler = .ofJobs jobs := by
  rw [scheduler, World.scheduler, schedulers_start]
  rfl

/-- What is logged when a component is made is not a run. -/
lemma starts_start : (start (.ofJobs jobs) wallClock).starts = [] := by
  refine World.about_emitAll _ fun event hevent => ?_
  simp only [World.registrationEvents, Component.ofJobs, Scheduler.admissionNotes,
    List.zipIdx_singleton, List.flatMap_singleton, if_true, List.map_map, List.mem_append,
    List.mem_map, List.mem_singleton, Function.comp_apply] at hevent
  rcases hevent with ⟨job, -, rfl⟩ | rfl
  · split <;> rfl
  · rfl

/-- The jobs of a component have not been run when it is made. -/
lemma map_unrun_ofJobs (jobs : List Job) :
    (Scheduler.ofJobs jobs).jobs.map unrun = (Scheduler.ofJobs jobs).jobs := by
  refine (List.map_congr_left fun job hjob => ?_).trans (List.map_id _)
  obtain ⟨entry, -, hentry⟩ := List.mem_filterMap.mp hjob
  obtain ⟨schedule, -, rfl⟩ := Option.map_eq_some_iff.mp hentry
  rfl

namespace Sound

/-- The job of a loop as it is now. -/
lemma job_now (h : Sound jobs wallClock u) {j : Nat}
    (hj : (Scheduler.ofJobs jobs).jobs[j]? = some job) :
    ∃ current, u.scheduler.jobs[j]? = some current ∧ unrun current = job := by
  rw [← h.jobs_eq, List.getElem?_map] at hj
  exact Option.map_eq_some_iff.mp hj

lemma exists_course (h : Sound jobs wallClock u) {number : Nat}
    (hl : u.scheduler.loops[number]? = some l) : ∃ c, u.courses[number]? = some c := by
  have hlt := (List.getElem?_eq_some_iff.mp hl).1
  exact ⟨_, List.getElem?_eq_getElem (h.length_eq ▸ hlt)⟩

/-- Every run is one of some loop. -/
lemma exists_drives (h : Sound jobs wallClock u) {r : Firing} (hr : r ∈ u.runs) :
    ∃ (number : Nat) (l : JobLoop) (c : Course), u.scheduler.loops[number]? = some l ∧
      u.courses[number]? = some c ∧ r ∈ c.runs ∧
      ∃ job call, u.Drives jobs wallClock l c job call := by
  obtain ⟨number, c, hc, hmem⟩ := mem_runs.mp hr
  have hlt := (List.getElem?_eq_some_iff.mp hc).1
  have hl := List.getElem?_eq_getElem (h.length_eq ▸ hlt)
  exact ⟨number, _, c, hl, hc, hmem, h.loops hl hc⟩

/-- No run begins before its time. -/
lemma time_le (h : Sound jobs wallClock u) {r : Firing} (hr : r ∈ u.runs) :
    r.time ≤ u.world.now := by
  obtain ⟨number, l, c, -, -, hmem, job, call, hdrives⟩ := h.exists_drives hr
  exact (hdrives.begun r hmem).1

/-- When no loop is left all runs are over. -/
lemma endTime_le_of_isIdle (h : Sound jobs wallClock u) (hidle : u.scheduler.isIdle = true)
    {r : Firing} (hr : r ∈ u.runs) : r.endTime ≤ u.world.now := by
  obtain ⟨number, l, c, hl, -, hmem, job, call, hdrives⟩ := h.exists_drives hr
  have hended := of_decide_eq_true (List.all_eq_true.mp hidle l (List.mem_of_getElem? hl))
  have hfits := hdrives.fits
  rw [hended] at hfits
  exact hfits.endTime_le hmem

/-- No call has two loops for one job. -/
lemma number_unique (h : Sound jobs wallClock u) {i j : Nat} {l l' : JobLoop} {c c' : Course}
    (hl : u.scheduler.loops[i]? = some l) (hc : u.courses[i]? = some c)
    (hl' : u.scheduler.loops[j]? = some l') (hc' : u.courses[j]? = some c')
    (hjob : l.job = l'.job) (hcall : c.call = c'.call) : i = j := by
  have hi := getElem?_shares_iff.mpr ⟨l, c, hl, hc, rfl⟩
  have hj := getElem?_shares_iff.mpr ⟨l', c', hl', hc', rfl⟩
  rw [← hjob, ← hcall] at hj
  exact (List.getElem?_inj (List.getElem?_eq_some_iff.mp hi).1 h.shares_nodup).mp (hi.trans hj.symm)

/-- Every call of the entry routine that has begun has a loop for each job. -/
lemma exists_loop (h : Sound jobs wallClock u) (hcall : u.calls[place]? = some c)
    (hstarted : c.isStarted = true) {j : Nat} (hjob : (Scheduler.ofJobs jobs).jobs[j]? = some job) :
    ∃ (number : Nat) (l : JobLoop) (course : Course), u.scheduler.loops[number]? = some l ∧
      u.courses[number]? = some course ∧ l.job = j ∧ course.call = place ∧
      u.Drives jobs wallClock l course job c := by
  obtain ⟨current, hcurrent, -⟩ := h.job_now hjob
  have hmem := (h.mem_shares j place).mpr
    ⟨(List.getElem?_eq_some_iff.mp hcurrent).1, c, hcall, hstarted⟩
  obtain ⟨number, hnumber⟩ := List.mem_iff_getElem?.mp hmem
  obtain ⟨l, course, hl, hcourse, heq⟩ := getElem?_shares_iff.mp hnumber
  obtain ⟨rfl, rfl⟩ := Prod.mk.inj heq
  obtain ⟨job', call', hdrives⟩ := h.loops hl hcourse
  obtain rfl := Option.some.inj (hdrives.job_eq.symm.trans hjob)
  obtain rfl := Option.some.inj (hdrives.call_eq.symm.trans hcall)
  exact ⟨number, l, course, hl, hcourse, rfl, rfl, hdrives⟩

/-- What happens to the calls alone, and a stop of the loops. -/
lemma of_calls (h : Sound jobs wallClock u) (hnow : u'.world.now = u.world.now)
    (hwall : u'.world.wallClock = u.world.wallClock) (hs : u'.world.schedulers = [u'.scheduler])
    (hjobs : u'.scheduler.jobs = u.scheduler.jobs) (hloops : u'.scheduler.loops = u.scheduler.loops)
    (hstop : u.scheduler.stopping = true → u'.scheduler.stopping = true)
    (hcourses : u'.courses = u.courses) (hstarts : u'.starts = u.starts)
    (hcalls : ∀ c ∈ u'.calls, c.Fits jobs u.world.now) (hkeeps : Keeps u u')
    (hnew : Keeps u' u) : Sound jobs wallClock u' := by
  have hshares : u'.shares = u.shares := by rw [shares, shares, hloops, hcourses]
  refine ⟨hwall.trans h.wallClock_eq, hs, hjobs ▸ h.jobs_eq, ?_, hnow ▸ hcalls, ?_,
    hshares ▸ h.shares_nodup, fun j place => ?_, ?_⟩
  · rw [hcourses, hloops, h.length_eq]
  · intro number l c hl hc
    rw [hloops] at hl
    rw [hcourses] at hc
    obtain ⟨job, call, hdrives⟩ := h.loops hl hc
    exact ⟨job, hdrives.elsewhere hnow hstop hkeeps fun x hx => hstarts ▸ hx⟩
  · rw [hshares, h.mem_shares, hjobs]
    refine and_congr_right fun _ => ⟨?_, ?_⟩
    · rintro ⟨call, hcall, hstarted⟩
      obtain ⟨call', hcall', -, hstarted'⟩ := hkeeps _ _ hcall hstarted
      exact ⟨call', hcall', hstarted'⟩
    · rintro ⟨call, hcall, hstarted⟩
      obtain ⟨call', hcall', -, hstarted'⟩ := hnew _ _ hcall hstarted
      exact ⟨call', hcall', hstarted'⟩
  · rw [hstarts, runs, hcourses]
    exact h.recorded

/-- A routine is called. -/
lemma after_call (h : Sound jobs wallClock u) (operation : Operation) :
    Sound jobs wallClock (u.call (.ofJobs jobs) operation) := by
  refine h.of_calls rfl rfl h.schedulers_eq rfl rfl id rfl rfl (fun c hc => ?_)
    (fun place call hcall hstarted => ⟨call, getElem?_calls_call hcall, rfl, hstarted⟩) ?_
  · rcases List.mem_append.mp hc with hc | hc
    · exact h.calls c hc
    · obtain rfl := List.mem_singleton.mp hc
      exact .unbegun (.inl rfl)
  · intro place call hcall hstarted
    rcases calls_call hcall with hcall | rfl
    · exact ⟨call, hcall, rfl, hstarted⟩
    · simp [Call.isStarted, Task.isUnbegun] at hstarted

/-- A token is cancelled. -/
lemma after_cancel (h : Sound jobs wallClock u) (place : Nat) :
    Sound jobs wallClock (u.cancel place) := by
  refine h.of_calls rfl rfl h.schedulers_eq rfl rfl id rfl rfl (fun c hc => ?_)
    (fun i call hcall hstarted => ?_) (fun i call hcall hstarted => ?_)
  · obtain ⟨i, hi⟩ := List.mem_iff_getElem?.mp hc
    rcases calls_cancel hi with hi | ⟨old, hold, rfl⟩
    · exact h.calls c (List.mem_of_getElem? hi)
    · exact (h.calls old (List.mem_of_getElem? hold)).cancel
  · rcases getElem?_calls_cancel place hcall with hcall | hcall
    · exact ⟨call, hcall, rfl, hstarted⟩
    · exact ⟨_, hcall, rfl, hstarted⟩
  · rcases calls_cancel hcall with hcall | ⟨old, hold, rfl⟩
    · exact ⟨call, hcall, rfl, hstarted⟩
    · exact ⟨old, hold, rfl, hstarted⟩

/-- The entry routine starts one loop per job. -/
lemma of_start (h : Sound jobs wallClock u) (hpoll : Poll jobs u place c u')
    (hc : u.calls[place]? = some c) (hop : c.operation = .run) (hunbegun : c.task.isUnbegun = true)
    (hloops : u'.scheduler.loops = u.scheduler.loops
      ++ (List.range u.scheduler.jobs.length).map fun job => ⟨job, .unbegun⟩)
    (hcourses : u'.courses
      = u.courses ++ List.replicate u.scheduler.jobs.length { call := place })
    (hcalls : ∀ call ∈ u'.calls, call.Fits jobs u.world.now) : Sound jobs wallClock u' := by
  have hkeeps := hpoll.keeps hc
  have hmade := (h.calls c (List.mem_of_getElem? hc)).made_eq hunbegun
  have hidle : c.isStarted = false := by
    rw [Call.isStarted, hunbegun, Bool.not_true, Bool.and_false]
  have hpolled : (u.polled place c).isStarted = true := by rw [isStarted_polled hpoll, hop]; rfl
  have hjobs := hpoll.jobs_eq
  have hnone : ∀ j, (j, place) ∉ u.shares := by
    intro j hj
    obtain ⟨-, call, hcall, hstarted⟩ := (h.mem_shares j place).mp hj
    obtain rfl := Option.some.inj (hcall.symm.trans hc)
    rw [hidle] at hstarted
    cases hstarted
  have hshares := shares_of_start h.length_eq hloops hcourses
  refine ⟨hpoll.wallClock_eq.trans h.wallClock_eq, hpoll.schedulers_eq, hjobs ▸ h.jobs_eq, ?_,
    hpoll.now_eq ▸ hcalls, ?_, ?_, fun j i => ?_, ?_⟩
  · rw [hcourses, hloops]
    simp [h.length_eq]
  · intro number l course hl hcourse
    rw [hloops] at hl
    rw [hcourses] at hcourse
    rcases Nat.lt_or_ge number u.scheduler.loops.length with hlt | hge
    · rw [List.getElem?_append_left hlt] at hl
      rw [List.getElem?_append_left (h.length_eq ▸ hlt)] at hcourse
      obtain ⟨job, call, hdrives⟩ := h.loops hl hcourse
      exact ⟨job, hdrives.elsewhere hpoll.now_eq hpoll.stopping_of hkeeps
        fun x hx => hpoll.starts_eq ▸ hx⟩
    · rw [List.getElem?_append_right hge] at hl
      rw [List.getElem?_append_right (h.length_eq ▸ hge)] at hcourse
      obtain ⟨j, hj, rfl⟩ := List.mem_map.mp (List.mem_of_getElem? hl)
      obtain rfl := (List.mem_replicate.mp (List.mem_of_getElem? hcourse)).2
      have hjob : j < (Scheduler.ofJobs jobs).jobs.length := by
        rw [← h.jobs_eq, List.length_map]
        exact List.mem_range.mp hj
      refine ⟨_, _, List.getElem?_eq_getElem hjob, ?_, hpolled, ?_, by simp⟩
      · rw [hpoll.getElem?_calls hc, if_pos rfl]
      · exact .unbegun rfl rfl (hpoll.now_eq.trans hmade.symm)
  · rw [hshares, List.nodup_append]
    refine ⟨h.shares_nodup, List.nodup_range.map fun _ _ heq => (Prod.mk.inj heq).1, ?_⟩
    rintro pair hold pair' hnew rfl
    obtain ⟨j, -, rfl⟩ := List.mem_map.mp hnew
    exact hnone j hold
  · rw [hshares, List.mem_append, h.mem_shares, hjobs, hpoll.getElem?_calls hc]
    by_cases hi : i = place
    · subst hi
      simp [hc, hidle, hpolled]
    · simp [hi, Ne.symm hi]
  · rw [hpoll.starts_eq, hpoll.runs_eq]
    exact h.recorded

/-- A call goes on. -/
lemma after_poll (h : Sound jobs wallClock u) (hc : u.calls[place]? = some c)
    (hr : u.callReady c = true) : Sound jobs wallClock (u.pollCall place c) := by
  have hfits := h.calls c (List.mem_of_getElem? hc)
  have hpoll := poll_pollCall place h.schedulers_eq h.length_eq hfits hr
  generalize u.pollCall place c = u' at hpoll
  have hkeeps := hpoll.keeps hc
  have hcalls : ∀ call ∈ u'.calls, call.Fits jobs u.world.now := by
    intro call hcall
    rw [hpoll.calls_eq] at hcall
    rcases List.mem_or_eq_of_mem_set hcall with hcall | rfl
    · exact h.calls call hcall
    · exact hpoll.fits
  have hback : (c.operation = .run → c.isStarted = true) → Keeps u' u := by
    intro hstarted i call hcall hnew
    rw [hpoll.getElem?_calls hc] at hcall
    split at hcall
    · obtain rfl := Option.some.inj hcall
      rename_i hi
      refine ⟨c, hi ▸ hc, rfl, hstarted ?_⟩
      rw [isStarted_polled hpoll] at hnew
      exact eq_of_beq hnew
    · exact ⟨call, hcall, rfl, hnew⟩
  rcases hpoll.loops_cases with ⟨hop, hunbegun, hloops, hcourses⟩ | ⟨hstarted, hloops, hcourses⟩
  · exact h.of_start hpoll hc hop hunbegun hloops hcourses hcalls
  · exact h.of_calls hpoll.now_eq hpoll.wallClock_eq hpoll.schedulers_eq hpoll.jobs_eq hloops
      hpoll.stopping_of hcourses hpoll.starts_eq hcalls hkeeps (hback hstarted)

/-- A loop goes on. -/
lemma after_loop {number : Nat} (fires : Bool) (h : Sound jobs wallClock u)
    (hl : u.scheduler.loops[number]? = some l)
    (hr : u.scheduler.loopReady u.world.now l = true) :
    Sound jobs wallClock (u.pollLoop number fires l) := by
  have hpoll := loopPoll_pollLoop h.schedulers_eq hl fires
  generalize u.pollLoop number fires l = u' at hpoll
  obtain ⟨c, hc⟩ := h.exists_course hl
  obtain ⟨job, call, hdrives⟩ := h.loops hl hc
  obtain ⟨current, hcurrent, rfl⟩ := h.job_now hdrives.job_eq
  have hstarts := hpoll.starts_eq current hcurrent
  have hjobs : u'.scheduler.jobs.map unrun = u.scheduler.jobs.map unrun := by
    rw [hpoll.jobs_eq]
    split
    · exact map_unrun_modify ..
    · rfl
  have hlength : u'.scheduler.jobs.length = u.scheduler.jobs.length := by
    simpa using congrArg List.length hjobs
  have hshares : u'.shares = u.shares := hpoll.shares_eq hl hc
  refine ⟨hpoll.wallClock_eq.trans h.wallClock_eq, hpoll.schedulers_eq, hjobs.trans h.jobs_eq, ?_,
    ?_, ?_, hshares ▸ h.shares_nodup, fun j i => ?_, ?_⟩
  · rw [hpoll.courses_eq, hpoll.loops_eq, List.length_modify, List.length_set, h.length_eq]
  · rw [hpoll.calls_eq, hpoll.now_eq]
    exact h.calls
  · intro i l' c' hl' hc'
    rw [hpoll.getElem?_loops hl] at hl'
    rw [hpoll.getElem?_courses hc] at hc'
    by_cases hi : i = number
    · rw [if_pos hi] at hl' hc'
      obtain rfl := Option.some.inj hl'
      obtain rfl := Option.some.inj hc'
      exact ⟨_, call, hdrives.goes_on hpoll hcurrent hr h.wallClock_eq⟩
    · rw [if_neg hi] at hl' hc'
      obtain ⟨job, call, hother⟩ := h.loops hl' hc'
      refine ⟨job, hother.elsewhere hpoll.now_eq (by rw [hpoll.stopping_eq]; exact id) ?_
        fun x => hpoll.mem_starts hcurrent⟩
      exact fun place call hcall hstarted => ⟨call, by rw [hpoll.calls_eq, hcall], rfl, hstarted⟩
  · rw [hshares, h.mem_shares, hlength, hpoll.calls_eq]
  · rw [hstarts, runs, hpoll.courses_eq]
    rcases Course.runs_extend with ⟨hbegins, hruns⟩ | ⟨hbegins, job, anchor, fire, hjob, -, hruns⟩
    · rw [if_neg (Bool.eq_false_iff.mp hbegins), flatMap_modify_eq hc hruns]
      exact h.recorded
    · have hperm := (flatMap_modify_perm hc hruns).map (·.time)
      rw [if_pos hbegins]
      exact (h.recorded.cons u.world.now).trans hperm.symm

/-- Time passes. -/
lemma after_pass {span : Nat} (h : Sound jobs wallClock u) (hr : u.rests span = true) :
    Sound jobs wallClock (u.pass span) := by
  obtain ⟨hquiet, hcalls, hloops⟩ := rests_iff.mp hr
  obtain ⟨hcallReady, hloopReady⟩ := isQuiet_iff.mp hquiet
  refine ⟨h.wallClock_eq, h.schedulers_eq, h.jobs_eq, h.length_eq, fun c hc => ?_,
    fun {number l c} hl hc => ?_, h.shares_nodup, h.mem_shares, h.recorded⟩
  · exact (h.calls c hc).pass (hcallReady c hc) (hcalls c hc)
  · obtain ⟨job, call, hdrives⟩ := h.loops hl hc
    have hmem := List.mem_of_getElem? hl
    refine ⟨job, call, hdrives.job_eq, hdrives.call_eq, hdrives.started,
      hdrives.fits.pass (hloopReady l hmem) (hloops l hmem), fun r hr => ?_⟩
    obtain ⟨htime, hrun⟩ := hdrives.begun r hr
    exact ⟨Nat.le_trans htime (Nat.le_add_right _ _), hrun⟩

/-- A component that has not been used is sound. -/
lemma start (jobs : List Job) (wallClock : Nat → Timestamp) :
    Sound jobs wallClock (.start (.ofJobs jobs) wallClock) := by
  have hscheduler := scheduler_start jobs wallClock
  have hshares : (Usage.start (.ofJobs jobs) wallClock).shares = [] := by
    rw [shares, hscheduler]
    rfl
  refine ⟨by rw [Usage.start, World.ofRegistry, World.emitAll_eq],
    hscheduler ▸ schedulers_start jobs wallClock, hscheduler ▸ map_unrun_ofJobs jobs,
    by rw [hscheduler]; rfl, fun c hc => absurd hc List.not_mem_nil, fun hl => ?_, hshares ▸ .nil,
    fun j place => ?_, ?_⟩
  · rw [hscheduler] at hl
    cases hl
  · rw [hshares]
    simp [Usage.start]
  · rw [starts_start]
    exact .nil

/-- **One step keeps a component in use sound.** -/
theorem step (h : Sound jobs wallClock u) {label : Label} (hu : Step (.ofJobs jobs) u label u') :
    Sound jobs wallClock u' := by
  cases hu with
  | call operation => exact h.after_call operation
  | cancel place => exact h.after_cancel place
  | poll hc hr => exact h.after_poll hc hr
  | loop fires hl hr => exact h.after_loop fires hl hr
  | pass hr => exact h.after_pass hr

end Sound

/-! ### Runs -/

/-- **A component with recurring jobs stays sound, whatever is done with it.** -/
theorem sound_of_steps {labels : List Label}
    (hu : (start (.ofJobs jobs) wallClock).steps? (.ofJobs jobs) labels = some u) :
    Sound jobs wallClock u :=
  steps_induction (fun h hstep => h.step hstep) (.start jobs wallClock) hu

/-! ### Time goes on -/

/-- **From every state time goes on**, by steps that the tasks and the clock take by themselves. -/
theorem Sound.goes_on (h : Sound jobs wallClock u) (span : Nat) :
    ∃ u', GoesTo (.ofJobs jobs) u u' ∧ Sound jobs wallClock u' ∧
      u'.world.now = u.world.now + span ∧ u'.isQuiet = true := by
  obtain ⟨u', ⟨labels, howns, hu⟩, hnow, hquiet⟩ := Usage.goes_on (.ofJobs jobs) u span
  have hsound := steps_induction (fun h hstep => h.step hstep) h hu
  exact ⟨u', ⟨labels, howns, hu⟩, hsound, hnow, hquiet⟩

/-! ### An example -/

/-- A job that is due every second.  Its first run takes two and a half seconds, and all others fail
at once. -/
def ticker : Job where
  name := "tick"
  expression := "* * * * * *"
  run number := if number = 1 then ⟨⟨2500⟩, .completed⟩ else ⟨⟨0⟩, .failed "late"⟩

/-- The fire times of the ticker. -/
def tickerSchedule : Schedule where
  seconds := Schedule.FieldKind.second.all
  minutes := Schedule.FieldKind.minute.all
  hours := Schedule.FieldKind.hour.all
  daysOfMonth := Schedule.FieldKind.dayOfMonth.all
  months := Schedule.FieldKind.month.all
  weekdays := Schedule.FieldKind.weekday.all
  years := Schedule.FieldKind.year.all

/-- The wall clock of an afternoon, from half a second past three on. -/
def afternoon (instant : Nat) : Timestamp := 1704121200500 + instant

end Usage

end ServiceSupervisor
