import Mathlib.Data.List.Forall2
import ServiceSupervisor.Proofs.InUse

/-!
A recurring job does not see the others.

When a loop begins its runs depends on its schedule, its anchor and how long its own runs take, and
on the first of them that panics.  Two loops that agree in all this begin their runs at the same
instants, whatever else is done with their components.

* `Schedule.Follows.agree`: runs that take as long begin at the same times;
* `Course.Fits.now_le_time`: a loop that has begun fewer runs has not reached the time of the next;
* `Usage.Observed`: a loop of a component in use, before any teardown;
* `Usage.Numbered`: where a job has only one loop that loop has its runs, in the order of their
  numbers;
* `Usage.jobs_independent`: two loops that are alike begin their runs at the same instants, only a
  panic of its own ends a loop early, and the entry routine returns exactly when it is cancelled.
-/

namespace ServiceSupervisor

/-! ### Runs that take as long -/

namespace Schedule.Follows

variable {s : Schedule} {a : Anchor} {rs es : List Firing}

/-- What a loop has done before follows its schedule too. -/
lemma of_append {later : List Firing} (h : s.Follows a (later ++ rs)) : s.Follows a rs := by
  induction later with
  | nil => exact h
  | cons r later ih =>
      cases h with
      | cons h hcalm hnext htime => exact ih h

/-- **Runs that take as long begin at the same times.** -/
lemma agree (h : s.Follows a rs) (h' : s.Follows a es)
    (hsame : List.Forall₂ (fun r e : Firing => r.run.work = e.run.work) rs es) :
    rs.map (·.time) = es.map (·.time) ∧ a.cursor rs = a.cursor es := by
  induction hsame with
  | nil => exact ⟨rfl, rfl⟩
  | @cons r e rs es hwork hsame ih =>
      cases h with
      | cons h hcalm hnext htime =>
          cases h' with
          | cons h' hcalm' hnext' htime' =>
              obtain ⟨htimes, hcursor⟩ := ih h h'
              have hfire : r.fire = e.fire := by
                rw [hcursor, hnext'] at hnext
                exact (Option.some.inj hnext).symm
              refine ⟨?_, ?_⟩
              · rw [List.map_cons, List.map_cons, htimes, htime, htime', hfire]
              · rw [Anchor.cursor, Anchor.cursor, Firing.wallEnd, Firing.wallEnd, hfire, hwork]

/-- Only the latest run may have panicked. -/
lemma not_panics (h : s.Follows a rs) {i k : Nat} {e : Firing} (hi : i < rs.length) (hk : k < i)
    (he : rs.reverse[k]? = some e) : ¬e.panics := by
  cases h with
  | nil => cases hi
  | cons h hcalm hnext htime =>
      rw [List.length_cons] at hi
      rw [List.reverse_cons, List.getElem?_append_left (by rw [List.length_reverse]; omega)] at he
      exact hcalm e (List.mem_reverse.mp (List.mem_of_getElem? he))

end Schedule.Follows

/-- The runs of one job take as long as those of another one, number by number, up to the first that
panics, which is the same. -/
def Job.RunsLike (a b : Job) : Prop :=
  ∀ number, (∀ k, 0 < k → k < number → (a.run k).outcome ≠ .panicked) →
    (a.run number).work = (b.run number).work ∧
      ((a.run number).outcome = .panicked ↔ (b.run number).outcome = .panicked)

namespace Course

/-- The instants before a given one at which a loop has begun its runs, in order. -/
def begunBefore (bound : Nat) (c : Course) : List Nat :=
  ((c.runs.map (·.time)).filter (· < bound)).reverse

namespace Fits

variable {s : Schedule} {origin : Anchor} {now : Nat} {c : Course} {state : LoopState}

/-- A loop that has no panic behind it and has not begun the next run has not reached its time. -/
lemma now_le_time (h : c.Fits s origin now false state) (hcalm : ∀ e ∈ c.runs, ¬e.panics)
    {r : Firing} (hnext : s.next (origin.cursor c.runs) = some r.fire)
    (htime : r.time = origin.instantOf r.fire) : now ≤ r.time := by
  cases h with
  | unbegun hanchor hruns hnow =>
      rw [htime, hnow]
      exact Nat.le_add_right _ _
  | waiting hanchor hfollows hcalm' hover hnext' hnow =>
      rw [hnext'] at hnext
      rw [htime, ← Option.some.inj hnext]
      exact hnow
  | @working e es hanchor hruns hfollows htime' hnow =>
      have hlt : origin.wallAt e.endTime < r.fire := by
        rw [hfollows.wallAt_endTime List.mem_cons_self]
        rw [hruns] at hnext
        exact s.lt_next hnext
      calc now ≤ e.endTime := hnow
        _ ≤ origin.instantOf r.fire := Nat.le_of_lt (origin.lt_instantOf e.endTime hlt)
        _ = r.time := htime.symm
  | ended hanchor hfollows hover hend =>
      rcases hend with hstop | hnone | ⟨e, he, hpanics⟩
      · cases hstop
      · rw [hnone] at hnext
        cases hnext
      · exact absurd hpanics (hcalm e he)

end Fits

/-- The runs of two loops, in their order, take as long, and the same of them panic. -/
def Alike (c₁ c₂ : Course) : Prop :=
  ∀ (i : Nat) (r₁ r₂ : Firing), c₁.runs.reverse[i]? = some r₁ → c₂.runs.reverse[i]? = some r₂ →
    r₁.run.work = r₂.run.work ∧ (r₁.panics ↔ r₂.panics)

variable {c₁ c₂ : Course} {s : Schedule} {origin : Anchor} {now₁ now₂ bound : Nat}
  {state₁ state₂ : LoopState}

lemma Alike.symm (h : c₁.Alike c₂) : c₂.Alike c₁ := fun i r₁ r₂ h₁ h₂ =>
  ⟨(h i r₂ r₁ h₂ h₁).1.symm, (h i r₂ r₁ h₂ h₁).2.symm⟩

/-- The runs that both have begun, one by one. -/
lemma Alike.forall₂ {later rs : List Firing} (h : c₁.Alike c₂) (hruns : c₁.runs = later ++ rs)
    (hlength : rs.length = c₂.runs.length) :
    List.Forall₂ (fun r e : Firing => r.run.work = e.run.work ∧ (r.panics ↔ e.panics)) rs
      c₂.runs := by
  rw [← List.forall₂_reverse_iff, List.forall₂_iff_get]
  refine ⟨by rw [List.length_reverse, List.length_reverse, hlength], fun i h₁ h₂ => ?_⟩
  refine h i _ _ ?_ (List.getElem?_eq_getElem h₂)
  rw [hruns, List.reverse_append, List.getElem?_append_left h₁]
  exact List.getElem?_eq_getElem h₁

/-- Two loops that are alike begin their runs at the same instants, where the first one has begun
more of them. -/
lemma begunBefore_eq_of_le (h₁ : c₁.Fits s origin now₁ false state₁)
    (h₂ : c₂.Fits s origin now₂ false state₂) (halike : c₁.Alike c₂) (hbound : bound ≤ now₂)
    (hle : c₂.runs.length ≤ c₁.runs.length) : c₁.begunBefore bound = c₂.begunBefore bound := by
  obtain ⟨later, rs, hruns, hlength⟩ :
      ∃ later rs, c₁.runs = later ++ rs ∧ rs.length = c₂.runs.length :=
    ⟨_, _, (List.take_append_drop (c₁.runs.length - c₂.runs.length) c₁.runs).symm, by
      rw [List.length_drop]
      omega⟩
  have hsame := halike.forall₂ hruns hlength
  have hfollows := hruns ▸ h₁.follows
  obtain ⟨htimes, hcursor⟩ :=
    hfollows.of_append.agree h₂.follows (hsame.imp fun _ _ h => h.1)
  -- What the first loop has begun besides, it has begun after the present of the second one.
  have hlater : ∀ e ∈ later, now₂ ≤ e.time := by
    rcases List.eq_nil_or_concat later with rfl | ⟨latest, r, rfl⟩
    · simp
    · rw [List.concat_append] at hfollows
      rw [List.concat_eq_append]
      have hnext : now₂ ≤ r.time := by
        cases hfollows.of_append with
        | cons h hcalm hnext htime =>
            rw [hcursor] at hnext
            refine h₂.now_le_time (fun e he hpanics => ?_) hnext htime
            obtain ⟨i, hi, rfl⟩ := List.mem_iff_getElem.mp he
            have hi' : i < rs.length := hlength ▸ hi
            have hboth := ((List.forall₂_iff_get.mp hsame).2 i hi' hi).2
            exact hcalm _ (List.getElem_mem hi') (hboth.mpr hpanics)
      intro e he
      rcases List.mem_append.mp he with he | he
      · have hlt := (List.pairwise_append.mp hfollows.pairwise_time).2.2 e he r List.mem_cons_self
        calc now₂ ≤ r.time := hnext
          _ ≤ r.endTime := Nat.le_add_right _ _
          _ ≤ e.time := Nat.le_of_lt hlt
      · exact List.mem_singleton.mp he ▸ hnext
  have hnone : (later.map (·.time)).filter (· < bound) = [] := by
    refine List.filter_eq_nil_iff.mpr fun t ht => ?_
    obtain ⟨e, he, rfl⟩ := List.mem_map.mp ht
    have hge := hlater e he
    simpa using Nat.le_trans hbound hge
  rw [begunBefore, begunBefore, hruns, List.map_append, List.filter_append, hnone, List.nil_append,
    htimes]

/-- **Two loops that are alike begin their runs at the same instants.** -/
lemma begunBefore_eq (h₁ : c₁.Fits s origin now₁ false state₁)
    (h₂ : c₂.Fits s origin now₂ false state₂) (halike : c₁.Alike c₂) (hbound₁ : bound ≤ now₁)
    (hbound₂ : bound ≤ now₂) : c₁.begunBefore bound = c₂.begunBefore bound := by
  rcases Nat.le_total c₂.runs.length c₁.runs.length with hle | hle
  · exact begunBefore_eq_of_le h₁ h₂ halike hbound₂ hle
  · exact (begunBefore_eq_of_le h₂ h₁ halike.symm hbound₁ hle).symm

end Course

/-! ### What ends a loop, and what ends the entry routine -/

/-- A run that panics is the last one of its loop, which has ended when the run is over. -/
lemma Course.Fits.head_of_panics {s : Schedule} {origin : Anchor} {now : Nat} {stopping : Bool}
    {c : Course} {l : JobLoop} (sched : Scheduler) (h : c.Fits s origin now stopping l.state)
    {r : Firing} (hr : r ∈ c.runs) (hpanics : r.panics) :
    c.runs.head? = some r ∧
      (r.endTime < now ∨ r.endTime = now ∧ sched.loopReady now l = false → l.state = .ended) := by
  have hfollows := h.follows
  have hhead : c.runs.head? = some r := by
    generalize c.runs = runs at hfollows hr
    cases hfollows with
    | nil => cases hr
    | cons hbefore hcalm hnext htime =>
        rcases List.mem_cons.mp hr with rfl | hr
        · rfl
        · exact absurd hpanics (hcalm r hr)
  refine ⟨hhead, fun hover => ?_⟩
  rw [Scheduler.loopReady] at hover
  generalize l.state = state at h hover
  cases h with
  | unbegun hanchor hruns hnow =>
      rw [hruns] at hr
      cases hr
  | waiting hanchor hfollows hcalm hover hnext hnow => exact absurd hpanics (hcalm r hr)
  | @working e es hanchor hruns hfollows htime hnow =>
      obtain rfl : e = r := by
        rw [hruns] at hhead
        exact Option.some.inj hhead
      rcases hover with hlt | ⟨heq, hready⟩
      · exact absurd hnow (Nat.not_le_of_lt hlt)
      · exact absurd (Nat.le_of_eq heq) (of_decide_eq_false hready)
  | ended hanchor hfollows hover hend => rfl

namespace Usage

variable {jobs jobs₁ jobs₂ : List Job} {wallClock wallClock₁ wallClock₂ : Nat → Timestamp}
  {u u₁ u₂ : Usage}

/-- A call of the entry routine returns exactly when its token is cancelled, and never fails. -/
def ReturnsWhenCancelled (u : Usage) : Prop :=
  ∀ call ∈ u.calls, call.operation = .run →
    (∀ ret, call.returned = some ret → ret.ending = .finished ∧ call.cancelled = some ret.time) ∧
    ∀ instant, call.cancelled = some instant →
      (instant < u.world.now ∨ instant = u.world.now ∧ u.isQuiet = true) →
      call.returned = some ⟨instant, .finished⟩

lemma Sound.returnsWhenCancelled (h : Sound jobs wallClock u) : u.ReturnsWhenCancelled := by
  intro call hcall hop
  have hfits := h.calls call hcall
  -- While it has not returned its token can only have been cancelled just now.
  have hwaiting : (call.cancelled = none ∨ call.cancelled = some u.world.now) →
      (call.cancelled = some u.world.now → u.callReady call = true) → ∀ instant,
      call.cancelled = some instant →
      (instant < u.world.now ∨ instant = u.world.now ∧ u.isQuiet = true) → False := by
    intro hcancelled hready instant hinstant hpast
    rw [hinstant] at hcancelled
    obtain rfl := Option.some.inj (hcancelled.resolve_left nofun)
    obtain ⟨-, hquiet⟩ := hpast.resolve_left (Nat.lt_irrefl _)
    have hnot := (isQuiet_iff.mp hquiet).1 call hcall
    rw [hready hinstant] at hnot
    cases hnot
  cases hfits with
  | unbegun hcancelled =>
      exact ⟨nofun, fun instant h h' => (hwaiting hcancelled (fun _ => rfl) instant h h').elim⟩
  | awaiting hmade hcancelled =>
      refine ⟨nofun, fun instant h h' => (hwaiting hcancelled (fun hc => ?_) instant h h').elim⟩
      obtain rfl : _ = some u.world.now := hc
      rfl
  | finished hmade htime =>
      refine ⟨fun ret hret => ?_, fun instant hinstant _ => ?_⟩
      · obtain rfl := Option.some.inj hret
        exact ⟨rfl, rfl⟩
      · obtain rfl := Option.some.inj hinstant
        rfl
  | joining hmade hnow => cases hop
  | stopped hmade htime => cases hop

/-- A loop that fires a job since its origin, in a component that has not been torn down. -/
structure Observed (jobs : List Job) (wallClock : Nat → Timestamp) (u : Usage)
    (job : ScheduledJob) (origin : Anchor) (l : JobLoop) (c : Course) : Prop where
  used : ∃ labels, (start (.ofJobs jobs) wallClock).steps? (.ofJobs jobs) labels = some u
  untorn : u.scheduler.stopping = false
  loop : ∃ number : Nat, u.scheduler.loops[number]? = some l ∧ u.courses[number]? = some c
  job_eq : (Scheduler.ofJobs jobs).jobs[l.job]? = some job
  origin_eq : ∃ call, u.calls[c.call]? = some call ∧ call.origin wallClock = origin

lemma Observed.fits {job : ScheduledJob} {origin : Anchor} {l : JobLoop} {c : Course}
    (h : u.Observed jobs wallClock job origin l c) :
    Sound jobs wallClock u ∧ c.Fits job.schedule origin u.world.now false l.state := by
  obtain ⟨labels, hu⟩ := h.used
  have hsound := sound_of_steps hu
  obtain ⟨number, hl, hc⟩ := h.loop
  obtain ⟨job', call, hdrives⟩ := hsound.loops hl hc
  obtain ⟨call', hcall, rfl⟩ := h.origin_eq
  obtain rfl := Option.some.inj (hdrives.job_eq.symm.trans h.job_eq)
  obtain rfl := Option.some.inj (hdrives.call_eq.symm.trans hcall)
  have hfits := hdrives.fits
  rw [h.untorn] at hfits
  exact ⟨hsound, hfits⟩

/-! ### The runs of a single loop -/

/-- No other loop fires the job. -/
def Sole (u : Usage) (number : Nat) (l : JobLoop) : Prop :=
  ∀ (i : Nat) (l' : JobLoop), u.scheduler.loops[i]? = some l' → l'.job = l.job → i = number

/-- The only loop of a job has all its runs, in the order of their numbers. -/
structure Numbered (u : Usage) : Prop where
  fresh : ∀ {j : Nat} {job : ScheduledJob}, u.scheduler.jobs[j]? = some job →
    (∀ l ∈ u.scheduler.loops, l.job ≠ j) → job.runs = 0
  counted : ∀ {number : Nat} {l : JobLoop} {c : Course} {job : ScheduledJob},
    u.scheduler.loops[number]? = some l → u.courses[number]? = some c →
    u.scheduler.jobs[l.job]? = some job → u.Sole number l →
    job.runs = c.runs.length ∧
      ∀ (i : Nat) (r : Firing), c.runs.reverse[i]? = some r → r.run = job.job.run (i + 1)

namespace Numbered

variable {u' : Usage} {place : Nat}

lemma of_same (h : Numbered u) (hjobs : u'.scheduler.jobs = u.scheduler.jobs)
    (hloops : u'.scheduler.loops = u.scheduler.loops) (hcourses : u'.courses = u.courses) :
    Numbered u' := by
  refine ⟨fun hjob hnone => ?_, fun hl hc hjob hsole => ?_⟩
  · rw [hjobs] at hjob
    rw [hloops] at hnone
    exact h.fresh hjob hnone
  · rw [Sole, hloops] at hsole
    rw [hloops] at hl
    rw [hcourses] at hc
    rw [hjobs] at hjob
    exact h.counted hl hc hjob hsole

/-- Loops that have just been started have not begun a run. -/
lemma of_start (h : Numbered u) (hsound : Sound jobs wallClock u)
    (hjobs : u'.scheduler.jobs = u.scheduler.jobs)
    (hloops : u'.scheduler.loops = u.scheduler.loops
      ++ (List.range u.scheduler.jobs.length).map fun job => ⟨job, .unbegun⟩)
    (hcourses : u'.courses
      = u.courses ++ List.replicate u.scheduler.jobs.length { call := place }) : Numbered u' := by
  have hold : ∀ {i l}, u.scheduler.loops[i]? = some l → u'.scheduler.loops[i]? = some l :=
    fun hl => by rw [hloops, List.getElem?_append_left (List.getElem?_eq_some_iff.mp hl).1, hl]
  refine ⟨fun hjob hnone => ?_, fun {number l c job} hl hc hjob hsole => ?_⟩
  · rw [hjobs] at hjob
    exact h.fresh hjob fun l hl => hnone l (hloops ▸ List.mem_append_left _ hl)
  · rw [hjobs] at hjob
    rw [hcourses] at hc
    rcases Nat.lt_or_ge number u.scheduler.loops.length with hlt | hge
    · rw [hloops, List.getElem?_append_left hlt] at hl
      rw [List.getElem?_append_left (hsound.length_eq ▸ hlt)] at hc
      exact h.counted hl hc hjob fun i l' hl' => hsole i l' (hold hl')
    · rw [List.getElem?_append_right (hsound.length_eq ▸ hge)] at hc
      obtain rfl := (List.mem_replicate.mp (List.mem_of_getElem? hc)).2
      refine ⟨h.fresh hjob fun l' hl' heq => ?_, by simp⟩
      obtain ⟨i, hi⟩ := List.mem_iff_getElem?.mp hl'
      have hsame := hsole i l' (hold hi) heq
      have hlt := (List.getElem?_eq_some_iff.mp hi).1
      omega

/-- A loop goes on. -/
lemma of_loopPoll (h : Numbered u) {number : Nat} {fires : Bool} {l : JobLoop}
    {c : Course} (hpoll : LoopPoll u number fires l u')
    (hl : u.scheduler.loops[number]? = some l) (hc : u.courses[number]? = some c) :
    Numbered u' := by
  have hloops := hpoll.getElem?_loops hl
  have hforth : ∀ {i : Nat} {old : JobLoop}, u.scheduler.loops[i]? = some old →
      ∃ l', u'.scheduler.loops[i]? = some l' ∧ l'.job = old.job := by
    intro i old hold
    by_cases hi : i = number
    · subst hi
      obtain rfl := Option.some.inj (hold.symm.trans hl)
      exact ⟨{ old with state := (u.stepped fires old).1 }, by rw [hloops, if_pos rfl], rfl⟩
    · exact ⟨old, by rw [hloops, if_neg hi, hold], rfl⟩
  have hother : ∀ j, j ≠ l.job → u'.scheduler.jobs[j]? = u.scheduler.jobs[j]? := by
    intro j hj
    rw [hpoll.jobs_eq]
    split
    · rw [List.getElem?_modify]
      simp [Ne.symm hj]
    · rfl
  have hsole : ∀ {i : Nat} {l' old : JobLoop}, l'.job = old.job → u'.Sole i l' → u.Sole i old := by
    intro i l' old hjob hsole k other hother hsame
    obtain ⟨other', hother', hjob'⟩ := hforth hother
    exact hsole k other' hother' (hjob'.trans (hsame.trans hjob.symm))
  refine ⟨fun {j job} hjob hnone => ?_, fun {i l' c' job} hl' hc' hjob hsole' => ?_⟩
  · have hne : ∀ old ∈ u.scheduler.loops, old.job ≠ j := by
      intro old hold
      obtain ⟨i, hi⟩ := List.mem_iff_getElem?.mp hold
      obtain ⟨l', hl', heq⟩ := hforth hi
      exact heq ▸ hnone l' (List.mem_of_getElem? hl')
    rw [hother j (hne l (List.mem_of_getElem? hl)).symm] at hjob
    exact h.fresh hjob hne
  · rw [hloops] at hl'
    rw [hpoll.getElem?_courses hc] at hc'
    by_cases hi : i = number
    · subst hi
      rw [if_pos rfl] at hl' hc'
      obtain rfl := Option.some.inj hl'
      obtain rfl := Option.some.inj hc'
      have hsole : u.Sole i l := hsole rfl hsole'
      rcases Course.runs_extend with ⟨hbegins, hruns⟩ | ⟨hbegins, old, anchor, fire, hold, -, hruns⟩
      · rw [hpoll.jobs_eq, if_neg (Bool.eq_false_iff.mp hbegins)] at hjob
        rw [hruns]
        exact h.counted hl hc hjob hsole
      · obtain ⟨hcount, hnumbers⟩ := h.counted hl hc hold hsole
        rw [hpoll.jobs_eq, if_pos hbegins, List.getElem?_modify, hold, Option.map_eq_map,
          Option.map_some, if_pos rfl] at hjob
        obtain rfl := Option.some.inj hjob
        rw [hruns, List.length_cons]
        refine ⟨congrArg (· + 1) hcount, fun k r hr => ?_⟩
        rw [List.reverse_cons, List.getElem?_append] at hr
        split at hr
        · exact hnumbers k r hr
        · rename_i hge
          rw [List.getElem?_singleton, Option.ite_none_right_eq_some, List.length_reverse] at hr
          rw [List.length_reverse] at hge
          have hk : k = old.runs := by omega
          obtain rfl := Option.some.inj hr.2
          rw [hk]
          rfl
    · rw [if_neg hi] at hl' hc'
      have hne : l'.job ≠ l.job := by
        intro heq
        obtain ⟨l'', hl'', heq'⟩ := hforth hl
        exact hi (hsole' number l'' hl'' (heq'.trans heq.symm)).symm
      rw [hother l'.job hne] at hjob
      exact h.counted hl' hc' hjob (hsole rfl hsole')

lemma step {label : Label} (h : Numbered u) (hsound : Sound jobs wallClock u)
    (hu : Step (.ofJobs jobs) u label u') : Numbered u' := by
  cases hu with
  | call operation => exact h.of_same rfl rfl rfl
  | cancel place => exact h.of_same rfl rfl rfl
  | @poll place c hc hr =>
      have hfits := hsound.calls c (List.mem_of_getElem? hc)
      have hpoll := poll_pollCall place hsound.schedulers_eq hsound.length_eq hfits hr
      rcases hpoll.loops_cases with ⟨-, -, hloops, hcourses⟩ | ⟨-, hloops, hcourses⟩
      · exact h.of_start hsound hpoll.jobs_eq hloops hcourses
      · exact h.of_same hpoll.jobs_eq hloops hcourses
  | loop fires hl hr =>
      obtain ⟨course, hcourse⟩ := hsound.exists_course hl
      exact h.of_loopPoll (loopPoll_pollLoop hsound.schedulers_eq hl fires) hl hcourse
  | pass hr => exact h.of_same rfl rfl rfl

lemma start : Numbered (start (.ofJobs jobs) wallClock) := by
  refine ⟨fun {j job} hjob _ => ?_, fun hl => ?_⟩
  · rw [scheduler_start] at hjob
    obtain ⟨⟨job', place⟩, -, hmem⟩ := List.mem_filterMap.mp (List.mem_of_getElem? hjob)
    obtain ⟨schedule, -, rfl⟩ := Option.map_eq_some_iff.mp hmem
    rfl
  · rw [scheduler_start] at hl
    cases hl

end Numbered

/-- All loops have been started by one call of the entry routine. -/
def CalledOnce (u : Usage) : Prop := ∀ c ∈ u.courses, ∀ c' ∈ u.courses, c.call = c'.call

instance (u : Usage) : Decidable u.CalledOnce :=
  inferInstanceAs (Decidable (∀ c ∈ u.courses, ∀ c' ∈ u.courses, c.call = c'.call))

/-- Where the entry routine has been called only once the runs of a loop are those of its job, in
the order of their numbers. -/
lemma Observed.run_eq {job : ScheduledJob} {origin : Anchor} {l : JobLoop} {c : Course}
    (h : u.Observed jobs wallClock job origin l c) (honce : u.CalledOnce)
    {i : Nat} {r : Firing} (hr : c.runs.reverse[i]? = some r) : r.run = job.job.run (i + 1) := by
  obtain ⟨labels, hu⟩ := h.used
  obtain ⟨hsound, hnumbered⟩ : Sound jobs wallClock u ∧ Numbered u :=
    steps_induction (P := fun u => Sound jobs wallClock u ∧ Numbered u)
      (fun h hstep => ⟨h.1.step hstep, h.2.step h.1 hstep⟩) ⟨.start jobs wallClock, .start⟩ hu
  obtain ⟨number, hl, hc⟩ := h.loop
  obtain ⟨current, hcurrent, rfl⟩ := hsound.job_now h.job_eq
  have hsole : u.Sole number l := fun k l' hl' hjob => by
    obtain ⟨c', hc'⟩ := hsound.exists_course hl'
    have hcall := honce c' (List.mem_of_getElem? hc') c (List.mem_of_getElem? hc)
    exact hsound.number_unique hl' hc' hl hc hjob hcall
  exact (hnumbered.counted hl hc hcurrent hsole).2 i r hr

/-- Where the entry routine has been called only once loops of jobs that take as long, and of which
the same run is the first to panic, are alike. -/
lemma Observed.alike {job₁ job₂ : ScheduledJob} {origin : Anchor} {l₁ l₂ : JobLoop}
    {c₁ c₂ : Course} (h₁ : u₁.Observed jobs₁ wallClock₁ job₁ origin l₁ c₁)
    (h₂ : u₂.Observed jobs₂ wallClock₂ job₂ origin l₂ c₂) (honce₁ : u₁.CalledOnce)
    (honce₂ : u₂.CalledOnce) (hruns : job₁.job.RunsLike job₂.job) : c₁.Alike c₂ := by
  intro i r₁ r₂ hr₁ hr₂
  rw [Firing.panics, Firing.panics, h₁.run_eq honce₁ hr₁, h₂.run_eq honce₂ hr₂]
  refine hruns (i + 1) fun k hk hlt hpanics => ?_
  -- An earlier run has been followed by this one, so it has not panicked.
  have hi : i < c₁.runs.length := List.length_reverse ▸ (List.getElem?_eq_some_iff.mp hr₁).1
  obtain ⟨n, rfl⟩ := Nat.exists_eq_add_one_of_ne_zero (Nat.ne_of_gt hk)
  have hn : n < c₁.runs.reverse.length := by
    rw [List.length_reverse]
    omega
  have hr := List.getElem?_eq_getElem hn
  refine h₁.fits.2.follows.not_panics hi (Nat.lt_of_succ_lt_succ hlt) hr ?_
  rw [Firing.panics, h₁.run_eq honce₁ hr]
  exact hpanics

/-- **A job begins its runs independently of cancellations, of all other jobs and of which of its
runs fail.**  Only a panic of its own ends its loop early, and the entry routine returns exactly
when it is cancelled. -/
theorem jobs_independent (jobs₁ jobs₂ : List Job) (wallClock₁ wallClock₂ : Nat → Timestamp)
    (job₁ job₂ : ScheduledJob) (origin : Anchor) {l₁ l₂ : JobLoop} {c₁ c₂ : Course}
    (h₁ : u₁.Observed jobs₁ wallClock₁ job₁ origin l₁ c₁)
    (h₂ : u₂.Observed jobs₂ wallClock₂ job₂ origin l₂ c₂)
    (hschedule : job₁.schedule = job₂.schedule)
    (halike : c₁.Alike c₂ ∨
      u₁.CalledOnce ∧ u₂.CalledOnce ∧ job₁.job.RunsLike job₂.job) :
    (∀ bound, bound ≤ u₁.world.now → bound ≤ u₂.world.now →
      c₁.begunBefore bound = c₂.begunBefore bound) ∧
    (∀ r ∈ c₁.runs, r.panics → c₁.runs.head? = some r ∧
      (r.endTime < u₁.world.now ∨
        r.endTime = u₁.world.now ∧ u₁.scheduler.loopReady u₁.world.now l₁ = false →
        l₁.state = .ended)) ∧
    (l₁.state = .ended →
      job₁.schedule.next (origin.cursor c₁.runs) = none ∨ ∃ r ∈ c₁.runs, r.panics) ∧
    u₁.ReturnsWhenCancelled ∧
    ∀ span, ∃ u', GoesTo (.ofJobs jobs₁) u₁ u' ∧ u'.world.now = u₁.world.now + span ∧
      u'.isQuiet = true := by
  obtain ⟨hsound₁, hfits₁⟩ := h₁.fits
  obtain ⟨-, hfits₂⟩ := h₂.fits
  refine ⟨fun bound hbound₁ hbound₂ => ?_, fun r hr hpanics => ?_, fun hended => ?_,
    hsound₁.returnsWhenCancelled, fun span => ?_⟩
  · have halike : c₁.Alike c₂ :=
      halike.elim id fun ⟨honce₁, honce₂, hruns⟩ => h₁.alike h₂ honce₁ honce₂ hruns
    exact Course.begunBefore_eq hfits₁ (hschedule ▸ hfits₂) halike hbound₁ hbound₂
  · exact hfits₁.head_of_panics u₁.scheduler hr hpanics
  · rw [hended] at hfits₁
    cases hfits₁ with
    | ended hanchor hfollows hover hend => exact hend.resolve_left Bool.false_ne_true
  · obtain ⟨u', hgoes, -, hnow, hquiet⟩ := hsound₁.goes_on span
    exact ⟨u', hgoes, hnow, hquiet⟩

/-- The ticker among others: a job whose expression denotes no schedule, and one that panics.  None
of its own runs fails here. -/
def crowd : List Job :=
  [{ name := "never", expression := "at noon", run := fun _ => ⟨⟨0⟩, .completed⟩ },
    { name := "crash", expression := "* * * * * *", run := fun _ => ⟨⟨0⟩, .panicked⟩ },
    { ticker with run := fun number => ⟨(ticker.run number).work, .completed⟩ }]

/-- The ticker by itself. -/
def aloneSteps : List Label :=
  [.call .run, .poll 0, .loop 0 true, .pass 500, .loop 0 true, .pass 2500, .loop 0 true, .pass 500,
    .loop 0 true, .pass 100]

/-- The ticker among the others, with a cancellation of the entry routine. -/
def crowdSteps : List Label :=
  [.call .run, .poll 0, .loop 1 true, .loop 0 true, .cancel 0, .poll 0, .pass 500, .loop 0 true,
    .loop 1 true, .pass 2500, .loop 1 true, .pass 500, .loop 1 true, .pass 300]

/-- By itself and among the others the ticker begins its runs at the same instants. -/
theorem begunBefore_of_crowd : ∃ u₁ u₂ l₁ c₁ c₂,
    (start (.ofJobs [ticker]) afternoon).steps? (.ofJobs [ticker]) aloneSteps = some u₁ ∧
    (start (.ofJobs crowd) afternoon).steps? (.ofJobs crowd) crowdSteps = some u₂ ∧
    u₁.scheduler.loops[0]? = some l₁ ∧ u₁.courses[0]? = some c₁ ∧ u₂.courses[1]? = some c₂ ∧
    c₁.begunBefore 3300 = [500] ∧
    (∀ bound, bound ≤ u₁.world.now → bound ≤ u₂.world.now →
      c₁.begunBefore bound = c₂.begunBefore bound) ∧
    (∀ r ∈ c₁.runs, r.panics → c₁.runs.head? = some r ∧
      (r.endTime < u₁.world.now ∨
        r.endTime = u₁.world.now ∧ u₁.scheduler.loopReady u₁.world.now l₁ = false →
        l₁.state = .ended)) ∧
    (l₁.state = .ended → tickerSchedule.next (Anchor.cursor ⟨afternoon 0, 0⟩ c₁.runs) = none ∨
      ∃ r ∈ c₁.runs, r.panics) ∧
    u₁.ReturnsWhenCancelled ∧
    ∀ span, ∃ u', GoesTo (.ofJobs [ticker]) u₁ u' ∧ u'.world.now = u₁.world.now + span ∧
      u'.isQuiet = true := by
  refine ⟨_, _, _, _, _, rfl, rfl, rfl, rfl, rfl, rfl, ?_⟩
  refine jobs_independent [ticker] crowd afternoon afternoon ⟨ticker, tickerSchedule, 0, 0⟩
    ⟨_, tickerSchedule, 2, 0⟩ ⟨afternoon 0, 0⟩
    ⟨⟨aloneSteps, rfl⟩, rfl, ⟨0, rfl, rfl⟩, rfl, ⟨_, rfl, rfl⟩⟩
    ⟨⟨crowdSteps, rfl⟩, rfl, ⟨1, rfl, rfl⟩, rfl, ⟨_, rfl, rfl⟩⟩ rfl
    (.inr ⟨by decide, by decide, fun number _ => ⟨rfl, ?_⟩⟩)
  · by_cases hn : number = 1 <;> simp [ticker, hn]

end Usage

end ServiceSupervisor
