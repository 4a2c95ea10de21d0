import ServiceSupervisor.Proofs.Calm
import ServiceSupervisor.Proofs.Listening
import ServiceSupervisor.Proofs.Quiet

/-!
What calls for a shutdown once more, after it has begun.

Two runs are compared from a moment on at which their shutdown has begun.  The second one is given
alarms (`Run.Act.alarm`): between any two steps some component cancels the shared token or raises a
signal, also at instants at which nothing else goes on (`Run.Act.pass`), and besides its routines
may raise alarms of their own that those of the first run do not.

* `Run.act?`, `Run.acts?`: a schedule with alarms, and `Run.Matches`: apart from them and from the
  delivery of signals it is a given one;
* `Run.Ahead`: one run has waited longer than another.  Both take the same steps
  (`Run.Ahead.step?_eq`);
* `Run.Late.steps_calm`, `Run.Late.acts_calm`: a schedule of a late run, with alarms or without, is
  one of the calm run, and what the calm run can do next the late one can do (`Run.Late.follow`),
  so that of two late runs each can do what the other one does (`Run.Late.forth`,
  `Run.Late.back`);
* `Run.SameCourse`: what two runs have in common of which one has been given alarms;
* `Run.repeated_triggers_harmless`: the theorem on repeated triggers.
-/

namespace ServiceSupervisor

/-- What calls for a shutdown, done by a component. -/
inductive Alarm
  /-- The shared token is cancelled. -/
  | cancel
  /-- A signal is raised. -/
  | raise (signal : Signal)
deriving DecidableEq, Repr, Inhabited

/-- The routine that raises an alarm and ends. -/
def Alarm.routine : Alarm → Routine
  | .cancel => .cancel .done
  | .raise signal => .raise signal .done

/-- Whether an alarm can be raised in a run with this trigger: one that does not listen for signals
would be ended by them. -/
def Alarm.suits (trigger : Trigger) : Alarm → Bool
  | .cancel => true
  | .raise _ => decide (trigger = .signals)

namespace Run

/-- Whether the shutdown has begun and the supervisor has not returned. -/
def isClosing (r : Run) : Bool :=
  match r.control with
  | .draining _ _ | .stopping _ => true
  | _ => false

lemma control_of_isClosing {r : Run} (h : r.isClosing = true) :
    ∃ first, (∃ drained, r.control = .draining first drained) ∨ r.control = .stopping first := by
  rw [isClosing] at h
  split at h
  · exact ⟨_, .inl ⟨_, ‹_›⟩⟩
  · exact ⟨_, .inr ‹_›⟩
  · cases h

/-! ### Schedules with alarms -/

/-- One step of a schedule with alarms. -/
inductive Act
  /-- A step of the schedule. -/
  | step (label : Label)
  /-- A component raises an alarm. -/
  | alarm (actor : Actor) (owner : Nat) (what : Alarm)
  /-- The clock moves to an instant at which nothing else goes on. -/
  | pass (instant : Nat)
deriving DecidableEq, Repr, Inhabited

/-- The state after one step of a schedule with alarms; `none` if that step is not possible. -/
def act? (app : Application) (r : Run) : Act → Option Run
  | .step label => r.step? app label
  | .alarm actor owner what =>
    if r.isClosing && what.suits app.trigger then
      some { r with world := (what.routine.exec actor owner r.world).2 }
    else none
  | .pass instant =>
    if r.isClosing && r.isQuiet app && (r.wakes app).all (instant < ·) then
      some (r.atInstant instant)
    else none

/-- The state after a schedule with alarms; `none` if some step of it is not possible. -/
def acts? (app : Application) : Run → List Act → Option Run
  | r, [] => some r
  | r, act :: acts => do (← r.act? app act).acts? app acts

/-- The step that a schedule without alarms takes as well. -/
def Act.own : Act → List Label
  | .step .deliver => []
  | .step label => [label]
  | .alarm _ _ _ | .pass _ => []

/-- A schedule with alarms takes the steps of a schedule, apart from the delivery of signals. -/
def Matches (acts : List Act) (labels : List Label) : Prop :=
  acts.flatMap Act.own = labels.filter (· ≠ .deliver)

variable {app app' : Application} {r r' s s' t : Run}

lemma steps?_append (labels more : List Label) :
    r.steps? app (labels ++ more) = (r.steps? app labels).bind fun r => r.steps? app more := by
  induction labels generalizing r with
  | nil => rfl
  | cons label labels ih =>
      rw [List.cons_append, steps?, steps?]
      cases r.step? app label with
      | none => rfl
      | some next => exact ih

/-- A schedule without alarms is one with alarms. -/
lemma acts?_map_step (labels : List Label) :
    r.acts? app (labels.map .step) = r.steps? app labels := by
  induction labels generalizing r with
  | nil => rfl
  | cons label labels ih =>
      rw [List.map_cons, acts?, steps?, act?]
      cases r.step? app label with
      | none => rfl
      | some next => exact ih

lemma own_step {label : Label} (hne : label ≠ .deliver) : Act.own (.step label) = [label] := by
  cases label <;> first | rfl | exact absurd rfl hne

lemma own_cases (act : Act) : act.own = [] ∨ ∃ label, label ≠ .deliver ∧ act.own = [label] := by
  cases act with
  | step label =>
      by_cases hne : label = .deliver
      · exact .inl (by rw [hne]; rfl)
      · exact .inr ⟨label, hne, own_step hne⟩
  | alarm actor owner what => exact .inl rfl
  | pass instant => exact .inl rfl

lemma flatMap_own_map_step (labels : List Label) :
    (labels.map Act.step).flatMap Act.own = labels.filter (· ≠ .deliver) := by
  induction labels with
  | nil => rfl
  | cons label labels ih =>
      rw [List.map_cons, List.flatMap_cons, ih]
      by_cases hne : label = .deliver
      · subst hne
        rfl
      · rw [own_step hne, List.filter_cons_of_pos (by simpa using hne)]
        rfl

/-! ### Two clocks -/

/-- The second run is the first one at an instant up to which that has nothing to do. -/
inductive Ahead (app : Application) (r : Run) : Run → Prop
  | same : Ahead app r r
  | later (instant : Nat) (hq : r.isQuiet app = true)
      (hlt : ∀ wake ∈ r.wakes app, instant < wake) : Ahead app r (r.atInstant instant)

namespace Ahead

/-- The two runs differ by their clocks alone. -/
lemma eq (h : Ahead app r s) :
    ∃ instant, s = { r with world := { r.world with now := instant } } := by
  cases h with
  | same => exact ⟨r.world.now, rfl⟩
  | later instant hq hlt => exact ⟨_, rfl⟩

/-- The clock moves to the next wake from any instant before it. -/
lemma tick_later {instant : Nat} (hq : r.isQuiet app = true)
    (hlt : ∀ wake ∈ r.wakes app, instant < wake) :
    (r.atInstant instant).step? app .tick = r.step? app .tick := by
  have hnext : (r.atInstant instant).nextWake app = r.nextWake app := rfl
  rw [step?, step?, if_pos (isQuiet_atInstant hq hlt), if_pos hq, hnext]
  cases hn : r.nextWake app with
  | none => rfl
  | some wake =>
      have hwake := hlt wake (List.min?_eq_some_iff.mp hn).1
      have hnow : max (max r.world.now instant) wake = max r.world.now wake := by omega
      show some (atInstant (atInstant r instant) wake) = some (r.atInstant wake)
      simp only [atInstant, hnow]

/-- **Both take the same steps**, after which their clocks agree. -/
theorem step?_eq (h : Ahead app r s) (label : Label) : s.step? app label = r.step? app label := by
  cases h with
  | same => rfl
  | later instant hq hlt =>
      by_cases htick : label = .tick
      · subst htick
        exact tick_later hq hlt
      · have hnone : ∀ t : Run, t.isQuiet app = true → t.step? app label = none := by
          intro t ht
          cases hs : t.step? app label with
          | none => rfl
          | some next => exact absurd (eq_tick_of_isQuiet ht hs) htick
        rw [hnone r hq, hnone _ (isQuiet_atInstant hq hlt)]

/-- The second run waits still longer. -/
lemma pass (h : Ahead app r s) {instant : Nat} (hq : s.isQuiet app = true)
    (hlt : ∀ wake ∈ s.wakes app, instant < wake) : Ahead app r (s.atInstant instant) := by
  cases h with
  | same => exact .later instant hq hlt
  | later before hq' hlt' =>
      have hboth : (r.atInstant before).atInstant instant = r.atInstant (max before instant) := by
        simp only [atInstant, max_assoc]
      rw [hboth]
      exact .later _ hq' fun wake hwake => max_lt (hlt' wake hwake) (hlt wake hwake)

end Ahead

/-! ### Schedules of calm runs -/

namespace Late

/-- A run that differs from a late one by alarms is late. -/
lemma congr (hl : r.Late) (h : r'.calm = r.calm) : r'.Late := by
  have hcontrol : r'.control = r.control := (congrArg control h :)
  have hawaited : r'.teardown.awaited.isSome = r.teardown.awaited.isSome := by
    have hcalm := congrArg (fun r => r.teardown.awaited.isSome) h
    simpa [calm] using hcalm
  refine ⟨?_, ?_, hl.parked.of_teardown hcontrol hawaited (congrArg (·.teardown.remaining) h :)⟩
  · rw [chosen?, hcontrol]
    exact hl.chosen
  · exact (congrArg (·.world.cancelled) h :).trans hl.cancelled

/-- A step is one of the calm run, or a delivery of signals, which is none. -/
lemma step_calm (hl : r.Late) {label : Label} (h : r.step? app label = some r') :
    (label = .deliver ∧ r'.calm = r.calm) ∨
      (label ≠ .deliver ∧ r.calm.step? app.calm label = some r'.calm) := by
  by_cases hd : label = .deliver
  · subst hd
    obtain ⟨-, h⟩ := Option.ite_none_left_eq_some.mp h
    refine .inl ⟨rfl, ?_⟩
    rw [← Option.some.inj h]
    simp only [calm, World.calm_deliver]
  · refine .inr ⟨hd, ?_⟩
    rw [step?_calm app r hl hd, h, Option.map_some]
    rintro rfl
    obtain ⟨hq, -⟩ := Option.ite_none_right_eq_some.mp h
    exact (isQuiet_iff.mp hq).2.2.2.2.2

/-- **A schedule of a late run** without its deliveries is one of the calm run. -/
theorem steps_calm (hl : r.Late) {labels : List Label} (h : r.steps? app labels = some r') :
    r'.Late ∧ r.calm.steps? app.calm (labels.filter (· ≠ .deliver)) = some r'.calm := by
  induction labels generalizing r with
  | nil =>
      obtain rfl := Option.some.inj h
      exact ⟨hl, rfl⟩
  | cons label labels ih =>
      obtain ⟨next, hnext, hrest⟩ := Option.bind_eq_some_iff.mp h
      obtain ⟨hlate, hsteps⟩ := ih (hl.step hnext) hrest
      refine ⟨hlate, ?_⟩
      rcases hl.step_calm hnext with ⟨rfl, heq⟩ | ⟨hne, hstep⟩
      · rw [← heq]
        exact hsteps
      · rw [List.filter_cons_of_pos (by simpa using hne), steps?, hstep]
        exact hsteps

/-- The calm run does not hear an alarm. -/
lemma alarm_calm (hl : r.Late) (actor : Actor) (owner : Nat) (what : Alarm) :
    Late { r with world := (what.routine.exec actor owner r.world).2 } ∧
      calm { r with world := (what.routine.exec actor owner r.world).2 } = r.calm := by
  obtain ⟨-, hripples⟩ := what.routine.exec_spec actor owner r.world
  refine ⟨⟨hl.chosen, hripples.cancelled_of hl.cancelled, hl.parked⟩, ?_⟩
  have hexec := congrArg Prod.snd (what.routine.exec_calm actor owner r.world hl.cancelled)
  have hworld : (what.routine.exec actor owner r.world).2.calm = r.world.calm := by
    cases what <;> exact hexec.symm
  simp only [calm, hworld]

/-- A step of a schedule with alarms is a step of any calm run that this one is ahead of, or
none. -/
lemma act_calm (hl : r.Late) (ha : Ahead app.calm s r.calm) {act : Act}
    (h : r.act? app act = some r') :
    r'.Late ∧ ∃ s', s.steps? app.calm act.own = some s' ∧ Ahead app.calm s' r'.calm := by
  cases act with
  | step label =>
      refine ⟨hl.step h, ?_⟩
      rcases hl.step_calm h with ⟨rfl, heq⟩ | ⟨hne, hstep⟩
      · exact ⟨s, rfl, heq ▸ ha⟩
      · rw [ha.step?_eq] at hstep
        refine ⟨r'.calm, ?_, .same⟩
        rw [own_step hne, steps?, hstep]
        rfl
  | alarm actor owner what =>
      obtain ⟨-, h⟩ := Option.ite_none_right_eq_some.mp h
      obtain ⟨hlate, heq⟩ := hl.alarm_calm actor owner what
      obtain rfl := Option.some.inj h
      exact ⟨hlate, s, rfl, heq ▸ ha⟩
  | pass instant =>
      obtain ⟨hc, h⟩ := Option.ite_none_right_eq_some.mp h
      obtain rfl := Option.some.inj h
      simp only [Bool.and_eq_true, List.all_eq_true, decide_eq_true_eq] at hc
      obtain ⟨⟨-, hq⟩, hlt⟩ := hc
      rw [isQuiet_eq app r hl.chosen, Bool.and_eq_true] at hq
      refine ⟨⟨hl.chosen, hl.cancelled, hl.parked⟩, s, rfl, ha.pass hq.1 ?_⟩
      rwa [wakes_calm]

/-- **A schedule with alarms** of a late run is, without them and without its deliveries, one of any
calm run that this one is ahead of. -/
theorem acts_calm (hl : r.Late) (ha : Ahead app.calm s r.calm) {acts : List Act}
    (h : r.acts? app acts = some r') :
    r'.Late ∧ ∃ s', s.steps? app.calm (acts.flatMap Act.own) = some s' ∧
      Ahead app.calm s' r'.calm := by
  induction acts generalizing r s with
  | nil =>
      obtain rfl := Option.some.inj h
      exact ⟨hl, s, rfl, ha⟩
  | cons act acts ih =>
      obtain ⟨next, hnext, hrest⟩ := Option.bind_eq_some_iff.mp h
      obtain ⟨hlate, s', hs, ha'⟩ := hl.act_calm ha hnext
      obtain ⟨hlate', s'', hs', ha''⟩ := ih hlate ha' hrest
      refine ⟨hlate', s'', ?_, ha''⟩
      rw [List.flatMap_cons, steps?_append, hs]
      exact hs'

/-- What the calm run can do next the run can do as well, after a delivery of signals if it has to
wait for the clock. -/
lemma follow (hl : r.Late) {label : Label} (hne : label ≠ .deliver)
    (h : r.calm.step? app.calm label = some t) :
    ∃ more r', r.steps? app more = some r' ∧ r'.calm = t ∧
      more.filter (· ≠ .deliver) = [label] := by
  have hown : [label].filter (· ≠ .deliver) = [label] :=
    List.filter_cons_of_pos (by simpa using hne)
  by_cases hw : label = .tick → r.world.signals.waiting.isEmpty = true
  · rw [step?_calm app r hl hne hw] at h
    obtain ⟨r', hr', rfl⟩ := Option.map_eq_some_iff.mp h
    refine ⟨[label], r', ?_, rfl, hown⟩
    rw [steps?, hr']
    rfl
  · -- Here the clock has to wait for a delivery, of which the calm run knows nothing.
    obtain ⟨rfl, hwaiting⟩ := Classical.not_imp.mp hw
    have hdeliver : r.step? app .deliver
        = some { r with world := { r.world with signals := r.world.signals.deliver } } := by
      rw [step?, if_neg hwaiting]
    have hlate := hl.step hdeliver
    have hcalm := (hl.step_calm hdeliver).resolve_right fun hd => hd.1 rfl
    rw [← hcalm.2, step?_calm app _ hlate hne fun _ => rfl] at h
    obtain ⟨r', hr', rfl⟩ := Option.map_eq_some_iff.mp h
    refine ⟨[.deliver, .tick], r', ?_, rfl, rfl⟩
    rw [steps?, hdeliver]
    show (do (← step? app _ .tick).steps? app []) = some r'
    rw [hr']
    rfl

/-- What a late run can do next another one can do as well whose calm run is ahead of the first
one's. -/
lemma forth (hl : r.Late) (hl' : s.Late) (happ : app'.calm = app.calm)
    (ha : Ahead app.calm r.calm s.calm) {label : Label} (h : r.step? app label = some r') :
    ∃ more s', s.acts? app' more = some s' ∧ Matches more [label] := by
  rcases hl.step_calm h with ⟨rfl, -⟩ | ⟨hne, hcalm⟩
  · exact ⟨[], s, rfl, rfl⟩
  · rw [← ha.step?_eq, ← happ] at hcalm
    obtain ⟨more, s', hmore, -, hown⟩ := hl'.follow hne hcalm
    refine ⟨more.map .step, s', by rw [acts?_map_step, hmore], ?_⟩
    rw [Matches, flatMap_own_map_step, hown, List.filter_cons_of_pos (by simpa using hne)]
    rfl

/-- What that other one can do next, alarms apart, the first one can do as well. -/
lemma back (hl : r.Late) (hl' : s.Late) (happ : app'.calm = app.calm)
    (ha : Ahead app.calm r.calm s.calm) {act : Act} (h : s.act? app' act = some s') :
    ∃ more r', r.steps? app more = some r' ∧ Matches [act] more := by
  obtain ⟨-, t, ht, -⟩ := hl'.act_calm (happ ▸ ha) h
  rcases own_cases act with hnone | ⟨label, hne, hown⟩
  · exact ⟨[], r, rfl, by rw [Matches, List.flatMap_cons, hnone]; rfl⟩
  · rw [hown, happ, steps?] at ht
    obtain ⟨next, hnext, -⟩ := Option.bind_eq_some_iff.mp ht
    obtain ⟨more, r', hmore, -, hmatch⟩ := hl.follow hne hnext
    exact ⟨more, r', hmore, by rw [Matches, List.flatMap_cons, hown, hmatch]; rfl⟩

end Late

/-- A run whose shutdown has begun is late. -/
lemma Reached.late (h : Reached app r) (hp : r.Parked) (hc : r.isClosing = true) : r.Late := by
  have hchosen : r.chosen?.isSome = true := by
    obtain ⟨first, ⟨drained, hdraining⟩ | hstopping⟩ := control_of_isClosing hc
    · rw [chosen?, hdraining]
      rfl
    · rw [chosen?, hstopping]
      rfl
  exact ⟨hchosen, h.cancelled_of_chosen hchosen, hp⟩

end Run

/-! ### The theorem on repeated triggers -/

/-- Whether an event is the beginning of the teardown routine at a place. -/
def Event.beginsTeardown (index : Nat) : Event → Bool
  | .teardownBegun i _ => i == index
  | _ => false

lemma Event.eq_teardownBegun {e : Event} {index : Nat} (h : e.beginsTeardown index = true) :
    ∃ deadline, e = .teardownBegun index deadline := by
  cases e with
  | teardownBegun i deadline =>
      obtain rfl : i = index := by simpa [beginsTeardown] using h
      exact ⟨deadline, rfl⟩
  | _ => cases h

/-- The beginnings of teardown routines are no alarms. -/
lemma Event.not_isAlarm_of_beginsTeardown {index : Nat} (e : Event)
    (h : e.beginsTeardown index = true) : (!e.isAlarm) = true := by
  obtain ⟨deadline, rfl⟩ := eq_teardownBegun h
  rfl

/-- A teardown routine that has not begun before begins once. -/
lemma Trace.length_begun_le {app : Application} {tr : Trace}
    (h : tr.Always (Run.BeginsInTurn app)) (index : Nat) :
    (tr.about (Event.beginsTeardown index)).length ≤ 1 := by
  induction tr with
  | nil => exact Nat.zero_le 1
  | cons x tr ih =>
      obtain ⟨hx, htr⟩ := h
      rw [about_cons]
      by_cases hb : x.event.beginsTeardown index = true
      · obtain ⟨deadline, hevent⟩ := Event.eq_teardownBegun hb
        have hnone : about (Event.beginsTeardown index) tr = [] := by
          refine List.filter_eq_nil_iff.mpr fun y hy hyb => (hx index deadline hevent).1 ?_
          obtain ⟨deadline', hevent'⟩ := Event.eq_teardownBegun hyb
          exact ⟨y.time, y.phase, deadline', hevent' ▸ hy⟩
        rw [if_pos hb, hnone]
        exact Nat.le_refl 1
      · rw [if_neg hb]
        exact ih htr

namespace Run

/-- While a run that signals end shuts down neither signal ends the process. -/
lemma Listening.raised_of_isClosing {inherited : PerSignal Disposition} {app : Application}
    {r : Run} (h : Listening inherited app r) (ht : app.trigger = .signals)
    (hc : r.isClosing = true) (signal : Signal) : r.world.signals.effect signal = .raised := by
  refine h.raised ht ?_ signal
  obtain ⟨first, ⟨drained, hdraining⟩ | hstopping⟩ := control_of_isClosing hc
  · rw [hdraining]
    rfl
  · rw [hstopping]
    rfl

/-- What two runs have in common of which the second has been given alarms. -/
structure SameCourse (app app' : Application) (first second : Run) : Prop where
  /-- They have the same result, if any. -/
  result : second.result? = first.result?
  /-- They have made the same reports, in the same order. -/
  reports : second.teardown.reports = first.teardown.reports
  /-- The same has happened at the same instants, the alarms apart. -/
  trace : (second.world.trace.about fun e => !e.isAlarm)
    = first.world.trace.about fun e => !e.isAlarm
  /-- No teardown routine of the second has begun twice. -/
  once : ∀ index, (second.world.trace.about (Event.beginsTeardown index)).length ≤ 1
  /-- No signal ends the process as long as the second has not returned. -/
  spared : app'.trigger = .signals → second.isClosing = true →
    ∀ signal, second.world.signals.effect signal = .raised
  /-- Whatever the first one can do next, the second one can do as well. -/
  forth : ∀ label first', first.step? app label = some first' →
    ∃ more second', second.acts? app' more = some second' ∧ Matches more [label]
  /-- Whatever the second one can do next, the first one can do as well. -/
  back : ∀ act second', second.act? app' act = some second' →
    ∃ more first', first.steps? app more = some first' ∧ Matches [act] more

/-- **Repeated triggers are harmless.**  Take a run whose shutdown has begun and that has not
returned, whatever began it, and any state that differs from it at most by alarms: those on record,
those that its routines will raise, and the signals on their way.  The run goes on by some schedule;
the other one goes on by the same schedule while components cancel the token and raise signals, any
number of times, at any moment before it returns.  Then they have the same course. -/
theorem repeated_triggers_harmless (app app' : Application)
    (inherited : PerSignal Disposition) (operations : List Signals.Operation)
    (wallClock : Nat → Timestamp) (before labels : List Label) (acts : List Act)
    (r r' first second : Run)
    (h : (Run.initial app ((Signals.ofDispositions inherited).after operations) wallClock).steps?
      app before = some r)
    (hclosing : r.isClosing = true) (happ : app'.calm = app.calm) (hstart : r'.calm = r.calm)
    (hfirst : r.steps? app labels = some first) (hsecond : r'.acts? app' acts = some second)
    (hmatch : Matches acts labels) : SameCourse app app' first second := by
  have hbegin : (Run.initial app ((Signals.ofDispositions inherited).after operations)
      wallClock).Parked := trivial
  obtain ⟨hmoves, hparked⟩ := steps?_moves app hbegin h
  have hreached : Reached app r := (Reached.initial _ _).moves hmoves
  have hlate : r.Late := hreached.late hparked hclosing
  obtain ⟨hmoves', hparked'⟩ := steps?_moves app hparked hfirst
  have hreached' : Reached app first := hreached.moves hmoves'
  obtain ⟨hlate₁, hcalm₁⟩ := hlate.steps_calm hfirst
  -- The calm run follows both schedules, and so their common part.
  have hahead : Ahead app'.calm r.calm r'.calm := hstart ▸ .same
  obtain ⟨hlate₂, s, hcalm₂, hahead₂⟩ := (hlate.congr hstart).acts_calm hahead hsecond
  rw [hmatch, happ, hcalm₁] at hcalm₂
  obtain rfl := Option.some.inj hcalm₂
  rw [happ] at hahead₂
  obtain ⟨instant, heq⟩ := hahead₂.eq
  have hcontrol : second.control = first.control := (congrArg control heq :)
  have htrace : (second.world.trace.about fun e => !e.isAlarm)
      = first.world.trace.about fun e => !e.isAlarm := (congrArg (·.world.trace) heq :)
  have hsignals : second.world.signals.silenced = first.world.signals.silenced :=
    (congrArg (·.world.signals) heq :)
  refine ⟨?_, (congrArg (·.teardown.reports) heq :), htrace, ?_, ?_, ?_, ?_⟩
  · rw [result?, hcontrol, result?]
  · intro index
    have hwider := @Event.not_isAlarm_of_beginsTeardown index
    rw [← Trace.about_about hwider, htrace, Trace.about_about hwider]
    exact Trace.length_begun_le hreached'.begins_in_turn index
  · intro htrigger hc signal
    have hlistening := listening_of_moves operations wallClock (hmoves.trans hmoves')
    have htrigger' : app.trigger = .signals :=
      (congrArg Application.trigger happ :).symm.trans htrigger
    have hc' : first.isClosing = true := by
      rw [isClosing, ← hcontrol]
      exact hc
    rw [Signals.effect_of_silenced hsignals]
    exact hlistening.raised_of_isClosing htrigger' hc' signal
  · exact fun _ _ hstep => hlate₁.forth hlate₂ happ hahead₂ hstep
  · exact fun _ _ hact => hlate₁.back hlate₂ happ hahead₂ hact

end Run

/-- A component that ends its run by a signal and takes its time to stop. -/
def Application.patient : Application where
  registry := ⟨[
    { component :=
        { name := "worker"
          entry := .raise .terminate (.awaitCancel (.sleep ⟨2⟩ .done))
          teardown := fun _ => .sleep ⟨3⟩ .done }
      instanceId := 0
      explicit := some ⟨9⟩ }]⟩
  trigger := .signals

/-- The same component, which calls for the shutdown again and again while it stops. -/
def Application.nervous : Application where
  registry := ⟨[
    { component :=
        { name := "worker"
          entry := .raise .terminate
            (.awaitCancel (.cancel (.sleep ⟨2⟩ (.raise .interrupt .done))))
          teardown := fun _ => .cancel (.sleep ⟨3⟩ (.raise .terminate .done)) }
      instanceId := 0
      explicit := some ⟨9⟩ }]⟩
  trigger := .signals

namespace Run

/-- A schedule on which a run of either is called to its end. -/
def callSchedule : List Label :=
  [.supervisor 0 .interrupt, .watch 0, .entry 0, .deliver, .supervisor 0 .interrupt]

/-- A schedule on which the patient one ends. -/
def patientSchedule : List Label :=
  [.entry 0, .tick, .entry 0, .watch 0, .supervisor 0 .interrupt, .teardown 0, .tick, .teardown 0,
    .supervisor 0 .interrupt]

/-- The same schedule with alarms. -/
def nervousSchedule : List Act :=
  [.alarm (.entry 0) 0 .cancel, .step (.entry 0), .alarm (.entry 0) 0 (.raise .terminate),
    .step .deliver, .pass 1, .alarm (.entry 0) 0 .cancel, .step .tick, .step (.entry 0),
    .step (.watch 0), .step (.supervisor 0 .interrupt), .step (.teardown 0),
    .alarm (.teardown 0) 0 (.raise .interrupt), .step .deliver, .step .tick, .step (.teardown 0),
    .alarm (.teardown 0) 0 .cancel, .step (.supervisor 0 .interrupt)]

/-- The nervous one ends as the patient one does. -/
theorem course_of_nervous : ∃ r r' first second,
    (Run.initial .patient .fresh fun _ => 0).steps? .patient callSchedule = some r ∧
      (Run.initial .nervous .fresh fun _ => 0).steps? .nervous callSchedule = some r' ∧
      r.steps? .patient patientSchedule = some first ∧
      r'.acts? .nervous nervousSchedule = some second ∧
      second.result? = some none ∧ SameCourse .patient .nervous first second := by
  obtain ⟨r, hr⟩ : ∃ r,
      (Run.initial .patient .fresh fun _ => 0).steps? .patient callSchedule = some r := ⟨_, rfl⟩
  obtain ⟨r', hr'⟩ : ∃ r',
      (Run.initial .nervous .fresh fun _ => 0).steps? .nervous callSchedule = some r' := ⟨_, rfl⟩
  have hstart : r'.calm = r.calm := by
    obtain rfl := Option.some.inj hr
    obtain rfl := Option.some.inj hr'
    rfl
  obtain ⟨hclosing, first, hfirst, hresult⟩ : r.isClosing = true ∧
      ∃ first, r.steps? .patient patientSchedule = some first ∧ first.result? = some none := by
    obtain rfl := Option.some.inj hr
    exact ⟨rfl, _, rfl, rfl⟩
  obtain ⟨second, hsecond⟩ : ∃ second, r'.acts? .nervous nervousSchedule = some second := by
    obtain rfl := Option.some.inj hr'
    exact ⟨_, rfl⟩
  have hcourse : SameCourse .patient .nervous first second :=
    repeated_triggers_harmless .patient .nervous (.both .default) [] (fun _ => 0) callSchedule
      patientSchedule nervousSchedule r r' first second hr hclosing rfl hstart hfirst hsecond rfl
  exact ⟨r, r', first, second, hr, hr', hfirst, hsecond, hcourse.result.trans hresult, hcourse⟩

end Run

end ServiceSupervisor
