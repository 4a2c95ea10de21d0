import ServiceSupervisor.Proofs.InUse

/-!
When two runs of one job are in progress at once.

A loop does not begin a run before the last one is over, and a call of the entry routine has one
loop for each job.  So the runs of a job that one call has started do not overlap.  But every call
starts loops of its own, which know nothing of those of another call: when the entry routine is
called twice each job is run twice.

* `Firing.Collides`: two runs are in progress at once, or begin for one fire time;
* `Usage.collides_across_calls`: runs of one job collide only if two calls have started them, and
  those of two calls made before one fire time do.
-/

namespace ServiceSupervisor

/-- Two runs are in progress at one instant, or they have begun for one fire time. -/
def Firing.Collides (r r' : Firing) : Prop :=
  (∃ instant, r.InProgress instant ∧ r'.InProgress instant) ∨ r.fire = r'.fire

lemma Firing.Collides.symm {r r' : Firing} (h : r.Collides r') : r'.Collides r := by
  rcases h with ⟨instant, hr, hr'⟩ | heq
  · exact .inl ⟨instant, hr', hr⟩
  · exact .inr heq.symm

namespace Schedule.Follows

variable {s : Schedule} {a : Anchor} {rs : List Firing}

/-- Two runs of one loop do not collide. -/
lemma not_collides (h : s.Follows a rs) {k k' : Nat} {r r' : Firing} (hr : rs[k]? = some r)
    (hr' : rs[k']? = some r') (hlt : k < k') : ¬r.Collides r' := by
  obtain ⟨hk, rfl⟩ := List.getElem?_eq_some_iff.mp hr
  obtain ⟨hk', rfl⟩ := List.getElem?_eq_some_iff.mp hr'
  rintro (⟨instant, ⟨hbegun, -⟩, -, hover⟩ | heq)
  · have hbefore := List.pairwise_iff_getElem.mp h.pairwise_time k k' hk hk' hlt
    exact absurd (Nat.lt_of_le_of_lt hbegun hover) (Nat.lt_asymm hbefore)
  · have hbefore := List.pairwise_iff_getElem.mp h.pairwise k k' hk hk' hlt
    rw [heq] at hbefore
    exact absurd (Firing.fire_le_wallEnd _) (Int.not_le.mpr hbefore)

/-- The first run of a loop begins for the first fire time after its anchor. -/
lemma exists_first (h : s.Follows a rs) (hne : rs ≠ []) {fire : Timestamp}
    (hnext : s.next a.wall = some fire) : ∃ r ∈ rs, r.fire = fire ∧ r.time = a.instantOf fire := by
  induction h with
  | nil => exact absurd rfl hne
  | @cons r rs h hcalm hnext' htime ih =>
      cases rs with
      | nil =>
          obtain rfl := Option.some.inj (hnext'.symm.trans hnext)
          exact ⟨r, List.mem_cons_self, rfl, htime⟩
      | cons e es =>
          obtain ⟨first, hmem, hfirst⟩ := ih (by simp)
          exact ⟨first, List.mem_cons_of_mem r hmem, hfirst⟩

end Schedule.Follows

/-- A loop has begun a run once its first fire time is past. -/
lemma Course.Fits.runs_ne_nil {s : Schedule} {origin : Anchor} {now : Nat} {c : Course}
    {state : LoopState} (h : c.Fits s origin now false state) {fire : Timestamp}
    (hnext : s.next origin.wall = some fire) (hpast : origin.instantOf fire < now) :
    c.runs ≠ [] := by
  intro hnone
  cases h with
  | unbegun hanchor hruns hnow =>
      have hle : origin.instant ≤ origin.instantOf fire := Nat.le_add_right _ _
      omega
  | waiting hanchor hfollows hcalm hover hnext' hnow =>
      rw [hnone] at hnext'
      obtain rfl := Option.some.inj (hnext'.symm.trans hnext)
      exact absurd hnow (Nat.not_le_of_lt hpast)
  | working hanchor hruns hfollows htime hnow =>
      rw [hruns] at hnone
      cases hnone
  | ended hanchor hfollows hover hend =>
      rw [hnone] at hend
      rcases hend with hstop | hnever | ⟨r, hr, -⟩
      · cases hstop
      · have hsome : s.next origin.wall = none := hnever
        rw [hnext] at hsome
        cases hsome
      · cases hr

namespace Usage

/-- A loop has begun a run, so many runs before its latest. -/
structure HasRun (u : Usage) (number back : Nat) (l : JobLoop) (c : Course) (r : Firing) :
    Prop where
  loop : u.scheduler.loops[number]? = some l
  course : u.courses[number]? = some c
  run : c.runs[back]? = some r

/-- Past its first fire time every call has begun a run of a job for it. -/
lemma Sound.exists_first {jobs : List Job} {wallClock : Nat → Timestamp} {u : Usage} {place j : Nat}
    {call : Call} {job : ScheduledJob} {fire : Timestamp} (h : Sound jobs wallClock u)
    (hstop : u.scheduler.stopping = false) (hcall : u.calls[place]? = some call)
    (hstarted : call.isStarted = true) (hjob : (Scheduler.ofJobs jobs).jobs[j]? = some job)
    (hnext : job.schedule.next (wallClock call.made) = some fire)
    (hpast : (call.origin wallClock).instantOf fire < u.world.now) :
    ∃ number back l c r, u.HasRun number back l c r ∧ l.job = j ∧ c.call = place ∧
      r.fire = fire ∧ r.time = (call.origin wallClock).instantOf fire := by
  obtain ⟨number, l, c, hl, hc, hlj, hplace, hdrives⟩ := h.exists_loop hcall hstarted hjob
  have hfits := hdrives.fits
  rw [hstop] at hfits
  obtain ⟨r, hr, hfire, htime⟩ :=
    hfits.follows.exists_first (hfits.runs_ne_nil hnext hpast) hnext
  obtain ⟨back, hback⟩ := List.mem_iff_getElem?.mp hr
  exact ⟨number, back, l, c, r, ⟨hl, hc, hback⟩, hlj, hplace, hfire, htime⟩

/-- **Two runs of one job collide only if two calls of the entry routine have started them**, and
two calls that are made with the same first fire time of a job ahead both begin a run for it. -/
theorem collides_across_calls (jobs : List Job) (wallClock : Nat → Timestamp) (labels : List Label)
    {u : Usage} (hu : (start (.ofJobs jobs) wallClock).steps? (.ofJobs jobs) labels = some u) :
    (∀ number back l c r number' back' l' c' r', u.HasRun number back l c r →
      u.HasRun number' back' l' c' r' → l.job = l'.job → (number, back) ≠ (number', back') →
      r.Collides r' → c.call ≠ c'.call) ∧
    (u.scheduler.stopping = false → ∀ (place place' : Nat) call call', u.calls[place]? = some call →
      u.calls[place']? = some call' → place ≠ place' → call.isStarted = true →
      call'.isStarted = true → ∀ (j : Nat) job fire, (Scheduler.ofJobs jobs).jobs[j]? = some job →
      job.schedule.next (wallClock call.made) = some fire →
      job.schedule.next (wallClock call'.made) = some fire →
      (call.origin wallClock).instantOf fire < u.world.now →
      (call'.origin wallClock).instantOf fire < u.world.now →
      ∃ number back l c r number' back' l' c' r', u.HasRun number back l c r ∧
        u.HasRun number' back' l' c' r' ∧ number ≠ number' ∧ l.job = j ∧ l'.job = j ∧
        r.fire = fire ∧ r'.fire = fire ∧ r.time = (call.origin wallClock).instantOf fire ∧
        r'.time = (call'.origin wallClock).instantOf fire) := by
  have hsound := sound_of_steps hu
  refine ⟨fun number back l c r number' back' l' c' r' h h' hjob hne hcollides hcall => ?_,
    fun hstop place place' call call' hcall hcall' hplaces hstarted hstarted' j job fire hjob
      hnext hnext' hpast hpast' => ?_⟩
  · obtain rfl := hsound.number_unique h.loop h.course h'.loop h'.course hjob hcall
    obtain rfl := Option.some.inj (h.loop.symm.trans h'.loop)
    obtain rfl := Option.some.inj (h.course.symm.trans h'.course)
    obtain ⟨job, call, hdrives⟩ := hsound.loops h.loop h.course
    have hfollows := hdrives.fits.follows
    rcases Nat.lt_or_gt_of_ne fun heq => hne (congrArg (number, ·) heq) with hlt | hlt
    · exact hfollows.not_collides h.run h'.run hlt hcollides
    · exact hfollows.not_collides h'.run h.run hlt hcollides.symm
  · obtain ⟨number, back, l, c, r, h, hl, hc, hfire, htime⟩ :=
      hsound.exists_first hstop hcall hstarted hjob hnext hpast
    obtain ⟨number', back', l', c', r', h', hl', hc', hfire', htime'⟩ :=
      hsound.exists_first hstop hcall' hstarted' hjob hnext' hpast'
    refine ⟨number, back, l, c, r, number', back', l', c', r', h, h', fun heq => ?_, hl, hl', hfire,
      hfire', htime, htime'⟩
    obtain rfl := Option.some.inj ((heq ▸ h.course).symm.trans h'.course)
    exact hplaces (hc.symm.trans hc')

/-- The ticker, called twice within a second. -/
def calledTwice : List Label :=
  [.call .run, .poll 0, .loop 0 true, .pass 200, .call .run, .poll 1, .loop 1 true, .pass 300,
    .loop 0 true, .loop 1 true, .pass 1]

/-- Called twice within a second, the ticker is run twice for its first fire time. -/
theorem collision_of_ticker : ∃ u,
    (start (.ofJobs [ticker]) afternoon).steps? (.ofJobs [ticker]) calledTwice = some u ∧
    u.runs.map (·.time) = [500, 500] ∧
    ∃ number back l c r number' back' l' c' r', u.HasRun number back l c r ∧
      u.HasRun number' back' l' c' r' ∧ number ≠ number' ∧ l.job = 0 ∧ l'.job = 0 ∧
      r.fire = 1704121201000 ∧ r'.fire = 1704121201000 ∧ r.time = 500 ∧ r'.time = 500 :=
  ⟨_, rfl, rfl, (collides_across_calls [ticker] afternoon calledTwice rfl).2 rfl 0 1 _ _ rfl rfl
    (by decide) rfl rfl 0 ⟨ticker, tickerSchedule, 0, 0⟩ 1704121201000 rfl rfl rfl (by decide)
    (by decide)⟩

end Usage

end ServiceSupervisor
