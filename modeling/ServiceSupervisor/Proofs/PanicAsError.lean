import ServiceSupervisor.Proofs.ExchangedStages

/-!
A panic is an error at the same point.

Take two applications that differ in nothing but this: where some routines of the first one panic,
those of the second one return errors.  As long as nothing comes of the disposal of what the panics
carry, they run in lockstep on every schedule, and nothing is different but what is said about these
failures.

* `Run.Alike`: the same state of a run, but for errors in the places of panics;
* `Run.Alike.supervise`, `Run.Alike.step?`, `Run.alike_steps?`: a poll of the supervisor, a step and
  a schedule lead from states that are alike to such states;
* `Run.Agrees`: what can be seen of a run is the same, but for these failures
  (`Run.Alike.agrees`);
* `Exchange.withoutPanics`: every application has a twin that returns errors where it panics.
-/

namespace ServiceSupervisor

/-- What the supervisor is doing is the same, but for errors in the places of panics. -/
inductive Control.Alike (x : Exchange) : Control → Control → Prop
  | idle : Alike x .idle .idle
  | waiting : Alike x .waiting .waiting
  | draining {first first' : Option Culprit} {drained drained' : List Exit}
      (hf : Option.Rel (Culprit.Alike x) first first')
      (hd : List.Forall₂ (Exit.Alike x) drained drained') :
      Alike x (.draining first drained) (.draining first' drained')
  | stopping {first first' : Option Culprit} (hf : Option.Rel (Culprit.Alike x) first first') :
      Alike x (.stopping first) (.stopping first')
  | returned {first first' : Option Culprit} (hf : Option.Rel (Culprit.Alike x) first first') :
      Alike x (.returned first) (.returned first')
  | abandoned : Alike x .abandoned .abandoned
  | byHand : Alike x .byHand .byHand

namespace Run

/-- The same state of a run, but for errors in the places of panics. -/
structure Alike (x : Exchange) (r r' : Run) : Prop where
  world : r.world.Alike x r'.world
  startup : r.startup.Alike x r'.startup
  teardown : r.teardown.Alike x r'.teardown
  control : r.control.Alike x r'.control
  listener : r'.listener = r.listener

/-- What the supervisor sees is the same, but for errors in the places of panics. -/
inductive Sight.Alike (x : Exchange) : Sight → Sight → Prop
  | triggered : Alike x .triggered .triggered
  | failed {culprit culprit' : Culprit} (h : culprit.Alike x culprit') :
      Alike x (.failed culprit) (.failed culprit')
  | nothing : Alike x .nothing .nothing

variable {x : Exchange} {r r' : Run}

/-! ### The exits -/

/-- The first failure among exits that are alike is alike, and so are the reports on all. -/
lemma alike_reportFailures {first first' : Option Culprit} {exits exits' : List Exit}
    (hf : Option.Rel (Culprit.Alike x) first first')
    (he : List.Forall₂ (Exit.Alike x) exits exits') :
    Option.Rel (Culprit.Alike x) (reportFailures first exits).1 (reportFailures first' exits').1 ∧
      List.Forall₂ (Event.Alike x) (reportFailures first exits).2
        (reportFailures first' exits').2 := by
  induction he generalizing first first' with
  | nil => exact ⟨hf, .nil⟩
  | @cons exit exit' _ _ hexit _ ih =>
      rw [reportFailures, reportFailures]
      rcases rel_cases hexit.culprit? with ⟨hc, hc'⟩ | ⟨culprit, culprit', hc, hc', halike⟩
      · simp only [hc, hc']
        exact ih hf
      · simp only [hc, hc']
        -- The first failure becomes the result; a later one is only reported.
        cases hf with
        | none =>
            obtain ⟨hfirst, hevents⟩ := ih (.some halike)
            exact ⟨hfirst, .cons (.failureReported .whileDraining halike) hevents⟩
        | some hf =>
            obtain ⟨hfirst, hevents⟩ := ih (.some hf)
            exact ⟨hfirst, .cons (.failureReported .afterRequest halike) hevents⟩

/-- The supervisor takes the same exits before it sees the trigger or a failure. -/
lemma alike_look (due : Bool) (patience : Nat) {exits exits' : List Exit}
    (he : List.Forall₂ (Exit.Alike x) exits exits') :
    Sight.Alike x (look due patience exits).1 (look due patience exits').1 ∧
      List.Forall₂ (Exit.Alike x) (look due patience exits).2 (look due patience exits').2 := by
  induction he generalizing patience with
  | nil =>
      cases due with
      | false => exact ⟨.nothing, .nil⟩
      | true => exact ⟨.triggered, .nil⟩
  | @cons exit exit' _ _ hexit hexits ih =>
      rw [look, look]
      split
      · exact ⟨.triggered, .cons hexit hexits⟩
      · rcases rel_cases hexit.culprit? with ⟨hc, hc'⟩ | ⟨culprit, culprit', hc, hc', halike⟩
        · simp only [hc, hc']
          exact ih (patience - 1)
        · simp only [hc, hc']
          exact ⟨.failed halike, hexits⟩

/-! ### The supervisor -/

lemma alike_launch (h : r.Alike x r') : (r.launch x.panicking).Alike x (r'.launch x.returning) := by
  have hinstalled : (r.installListener x.panicking).Alike x (r'.installListener x.returning) := by
    rw [installListener, installListener, x.trigger, h.world.signals]
    cases x.panicking.trigger with
    | signals =>
        exact ⟨(h.world.update (f := fun w => { w with signals := r.world.signals.install })
          fun _ _ => rfl).emit (.same _), h.startup, h.teardown, h.control, rfl⟩
    | _ => exact h
  rw [launch, launch, x.size_eq]
  exact ⟨((hinstalled.world.enter .starting).enter .running).emit (.same _),
    Startup.alike_launch x, hinstalled.teardown, .waiting, hinstalled.listener⟩

namespace Alike

/-- Something happens in the two worlds alone. -/
lemma withWorld (h : r.Alike x r') {w w' : World} (hw : w.Alike x w') :
    Alike x { r with world := w } { r' with world := w' } :=
  ⟨hw, h.startup, h.teardown, h.control, h.listener⟩

/-- Something else becomes of the two worlds and the two teardowns. -/
lemma withTeardown (h : r.Alike x r') {t t' : Teardown} (ht : t.Alike x t') {w w' : World}
    (hw : w.Alike x w') :
    Alike x { r with teardown := t, world := w } { r' with teardown := t', world := w' } :=
  ⟨hw, h.startup, ht, h.control, h.listener⟩

lemma dropListener (h : r.Alike x r') : r.dropListener.Alike x r'.dropListener := by
  rw [Run.dropListener, Run.dropListener, h.listener]
  cases r.listener with
  | none => exact h
  | some number =>
      exact ⟨h.world.update (f := fun w => { w with signals := w.signals.drop number })
        fun _ _ => rfl, h.startup, h.teardown, h.control, rfl⟩

lemma finish (h : r.Alike x r') {first first' : Option Culprit}
    (hf : Option.Rel (Culprit.Alike x) first first') :
    (r.finish first).Alike x (r'.finish first') := by
  rw [Run.finish, Run.finish, h.teardown.clean, ← h.teardown.reports.length_eq]
  have hworld := (h.world.enter .stopped).emit
    (.same (.finished r.teardown.clean r.teardown.reports.length))
  have hreturned : Alike x { r with world := _, control := _ }
      { r' with world := _, control := _ } :=
    ⟨hworld, h.startup, h.teardown, .returned hf, h.listener⟩
  exact hreturned.dropListener

lemma tearDown (h : r.Alike x r') {first first' : Option Culprit}
    (hf : Option.Rel (Culprit.Alike x) first first') :
    (r.tearDown x.panicking first).Alike x (r'.tearDown x.returning first') := by
  obtain ⟨hteardown, hworld⟩ := h.teardown.proceed h.world
  have hafter : Alike x { r with teardown := _, world := _, control := _ }
      { r' with teardown := _, world := _, control := _ } :=
    ⟨hworld, h.startup, hteardown, .stopping hf, h.listener⟩
  rw [Run.tearDown, Run.tearDown]
  dsimp only
  rw [hteardown.isOver]
  split
  · exact hafter.finish hf
  · exact hafter

lemma drain (h : r.Alike x r') {first first' : Option Culprit} {drained drained' : List Exit}
    (hf : Option.Rel (Culprit.Alike x) first first')
    (hd : List.Forall₂ (Exit.Alike x) drained drained') :
    (r.drain x.panicking first drained).Alike x (r'.drain x.returning first' drained') := by
  have hstartup : Startup.Alike x { r.startup with exits := [] } { r'.startup with exits := [] } :=
    ⟨h.startup.entries, .nil⟩
  have hdrained := List.rel_append hd h.startup.exits
  rw [Run.drain, Run.drain]
  dsimp only
  rw [hstartup.hasPending]
  split
  · exact ⟨h.world, hstartup, h.teardown, .draining hf hdrained, h.listener⟩
  · obtain ⟨hfirst, hevents⟩ := alike_reportFailures hf hdrained
    have hbegun : Alike x { r with startup := _, world := _, teardown := _ }
        { r' with startup := _, world := _, teardown := _ } :=
      ⟨World.Alike.emitAll hevents h.world, hstartup, h.teardown.begin_, h.control, h.listener⟩
    exact hbegun.tearDown hfirst

lemma shutDown (h : r.Alike x r') {first first' : Option Culprit}
    (hf : Option.Rel (Culprit.Alike x) first first') :
    (r.shutDown x.panicking first).Alike x (r'.shutDown x.returning first') :=
  (h.withWorld ((h.world.enter .shuttingDown).cancel none)).drain hf .nil

lemma observeSignal (h : r.Alike x r') (prefers : Signal) :
    (r.observeSignal prefers).Alike x (r'.observeSignal prefers) := by
  rw [Run.observeSignal, Run.observeSignal, h.listener, h.world.signals]
  cases r.listener.bind fun number => r.world.signals.receive number prefers with
  | none => exact h
  | some received =>
      obtain ⟨signal, signals⟩ := received
      exact ⟨(h.world.update (f := fun w => { w with signals }) fun _ _ => rfl).emit (.same _),
        h.startup, h.teardown, h.control, rfl⟩

lemma react (h : r.Alike x r') (prefers : Signal) {sight sight' : Sight}
    (hs : sight.Alike x sight') :
    (r.react x.panicking prefers sight).Alike x (r'.react x.returning prefers sight') := by
  cases hs with
  | nothing => exact ⟨h.world, h.startup, h.teardown, .waiting, h.listener⟩
  | failed hc =>
      exact (h.withWorld (h.world.emit (.failureReported .beforeShutdown hc))).shutDown (.some hc)
  | triggered =>
      have hobserved := h.observeSignal prefers
      exact (hobserved.withWorld (hobserved.world.emit (.same _))).shutDown .none

lemma triggerDue (h : r.Alike x r') : r'.triggerDue x.returning = r.triggerDue x.panicking := by
  rw [Run.triggerDue, Run.triggerDue, x.trigger, h.world.now, h.listener, h.world.signals]

lemma awaitTrigger (h : r.Alike x r') (patience : Nat) (prefers : Signal) :
    (r.awaitTrigger x.panicking patience prefers).Alike x
      (r'.awaitTrigger x.returning patience prefers) := by
  rw [Run.awaitTrigger, Run.awaitTrigger, h.triggerDue]
  obtain ⟨hsight, hexits⟩ := alike_look (r.triggerDue x.panicking) patience h.startup.exits
  generalize look (r.triggerDue x.panicking) patience r.startup.exits = seen at hsight hexits ⊢
  generalize look (r.triggerDue x.panicking) patience r'.startup.exits = seen' at hsight hexits ⊢
  have hlooked : Alike x { r with startup := { r.startup with exits := seen.2 } }
      { r' with startup := { r'.startup with exits := seen'.2 } } :=
    ⟨h.world, ⟨h.startup.entries, hexits⟩, h.teardown, h.control, h.listener⟩
  exact hlooked.react prefers hsight

/-- **One poll of the supervisor**: it sees the same, cancels, drains and tears down at the same
instants and in the same order, and comes to a result that is alike. -/
theorem supervise (h : r.Alike x r') (patience : Nat) (prefers : Signal) :
    (r.supervise x.panicking patience prefers).Alike x
      (r'.supervise x.returning patience prefers) := by
  have hcontrol := h.control
  rw [Run.supervise, Run.supervise]
  generalize r.control = control at hcontrol ⊢
  generalize r'.control = control' at hcontrol ⊢
  cases hcontrol with
  | idle => exact (alike_launch h).awaitTrigger patience prefers
  | waiting => exact h.awaitTrigger patience prefers
  | draining hf hd => exact h.drain hf hd
  | stopping hf => exact h.tearDown hf
  | returned hf => exact h
  | abandoned => exact h
  | byHand =>
      obtain ⟨hteardown, hworld⟩ := h.teardown.proceed h.world
      exact ⟨hworld, h.startup, hteardown, .byHand, h.listener⟩

/-! ### What can go on -/

lemma supervisorReady (h : r.Alike x r') :
    r'.supervisorReady x.returning = r.supervisorReady x.panicking := by
  have hcontrol := h.control
  rw [Run.supervisorReady, Run.supervisorReady, h.triggerDue, h.startup.isEmpty_exits,
    h.startup.hasPending, h.teardown.ready h.world]
  generalize r.control = control at hcontrol ⊢
  generalize r'.control = control' at hcontrol ⊢
  cases hcontrol <;> rfl

lemma readyLoops (h : r.Alike x r') : r'.readyLoops = r.readyLoops := by
  rw [Run.readyLoops, Run.readyLoops, h.world.schedulers, h.world.now]

lemma isQuiet (h : r.Alike x r') : r'.isQuiet x.returning = r.isQuiet x.panicking := by
  have hwatches : r'.readyWatches = r.readyWatches := by
    rw [readyWatches, readyWatches, h.startup.entries.length_eq]
    exact List.filter_congr fun index _ => h.startup.watchReady index
  have hentries : r'.readyEntries x.returning = r.readyEntries x.panicking := by
    rw [readyEntries, readyEntries, h.startup.entries.length_eq]
    exact List.filter_congr fun index _ => h.startup.ready index h.world
  have hteardowns : r'.readyTeardowns x.returning = r.readyTeardowns x.panicking := by
    rw [readyTeardowns, readyTeardowns, h.teardown.tasks.length_eq]
    exact List.filter_congr fun number _ => h.teardown.taskReady number h.world
  rw [Run.isQuiet, Run.isQuiet, h.supervisorReady, hwatches, hentries, hteardowns, h.readyLoops,
    h.world.signals]

lemma nextWake (h : r.Alike x r') : r'.nextWake x.returning = r.nextWake x.panicking := by
  have hsupervisor : r'.supervisorWakes x.returning = r.supervisorWakes x.panicking := by
    have hcontrol := h.control
    rw [supervisorWakes, supervisorWakes, x.trigger, h.teardown.awaitingUntil]
    generalize r.control = control at hcontrol ⊢
    generalize r'.control = control' at hcontrol ⊢
    cases hcontrol <;> rfl
  rw [Run.nextWake, Run.nextWake, wakes, wakes, hsupervisor, h.startup.wakes, h.teardown.taskWakes,
    h.world.schedulers]

/-! ### Schedules -/

/-- **A step is possible for both runs or for neither**, and leads to states that are alike. -/
theorem step? (h : r.Alike x r') (label : Label) :
    Option.Rel (Alike x) (r.step? x.panicking label) (r'.step? x.returning label) := by
  cases label with
  | supervisor patience prefers =>
      rw [Run.step?, Run.step?, h.supervisorReady]
      split
      · exact .some (h.supervise patience prefers)
      · exact .none
  | watch index =>
      rw [Run.step?, Run.step?, h.startup.watchReady]
      obtain ⟨hstartup, hworld⟩ := h.startup.watch index h.world
      split
      · exact .some ⟨hworld, hstartup, h.teardown, h.control, h.listener⟩
      · exact .none
  | entry index =>
      rw [Run.step?, Run.step?, h.startup.ready index h.world]
      obtain ⟨hstartup, hworld⟩ := h.startup.poll index h.world
      split
      · exact .some ⟨hworld, hstartup, h.teardown, h.control, h.listener⟩
      · exact .none
  | teardown number =>
      rw [Run.step?, Run.step?, h.teardown.taskReady number h.world]
      obtain ⟨hteardown, hworld⟩ := h.teardown.pollTask number h.world
      split
      · exact .some (h.withTeardown hteardown hworld)
      · exact .none
  | job owner number fires =>
      rw [Run.step?, Run.step?, h.readyLoops]
      split
      · exact .some (h.withWorld (h.world.pollLoop owner number fires))
      · exact .none
  | deliver =>
      rw [Run.step?, Run.step?, h.world.signals]
      split
      · exact .none
      · exact .some (h.withWorld
          (h.world.update (f := fun w => { w with signals := r.world.signals.deliver })
            fun _ _ => rfl))
  | tick =>
      rw [Run.step?, Run.step?, h.isQuiet, h.nextWake]
      split
      · cases r.nextWake x.panicking with
        | none => exact .none
        | some instant =>
            exact .some (h.withWorld
              (h.world.update (f := fun w => { w with now := max w.now instant }) fun _ _ => rfl))
      · exact .none

end Alike

/-- **A schedule is possible for both runs or for neither**, and leads to states that are alike. -/
theorem alike_steps? (h : r.Alike x r') (labels : List Label) :
    Option.Rel (Alike x) (r.steps? x.panicking labels) (r'.steps? x.returning labels) := by
  induction labels generalizing r r' with
  | nil => exact .some h
  | cons label labels ih =>
      rw [steps?, steps?]
      rcases rel_cases (h.step? label) with ⟨hs, hs'⟩ | ⟨next, next', hs, hs', hnext⟩
      · rw [hs, hs']
        exact .none
      · rw [hs, hs']
        exact ih hnext

/-- Both runs begin in the same world. -/
lemma alike_initial (x : Exchange) (signals : Signals) (wallClock : Nat → Timestamp) :
    (Run.initial x.panicking signals wallClock).Alike x
      (.initial x.returning signals wallClock) := by
  have hschedulers : World.schedulersOf x.returning.registry
      = World.schedulersOf x.panicking.registry := by
    refine x.registrations.map_zipIdx_eq fun index entry entry' halike => ?_
    simp only [halike.instanceId, halike.jobs]
  have hevents : World.registrationEvents x.returning.registry
      = World.registrationEvents x.panicking.registry := by
    rw [World.registrationEvents, World.registrationEvents, List.flatMap_def, List.flatMap_def]
    refine congrArg List.flatten (x.registrations.map_zipIdx_eq fun index entry entry' halike => ?_)
    simp only [halike.instanceId, halike.jobs, halike.name, halike.explicit]
  have hworld : World.ofRegistry x.returning.registry signals wallClock
      = World.ofRegistry x.panicking.registry signals wallClock := by
    rw [World.ofRegistry, World.ofRegistry, hschedulers, hevents]
  refine ⟨?_, ⟨fun _ => .none, .nil⟩, ⟨fun _ => .none, rfl, rfl, .nil⟩, .idle, rfl⟩
  rw [initial, initial, hworld]
  exact .refl x _

/-! ### What can be seen -/

/-- What can be seen of two runs is the same, but for errors in the places of panics. -/
structure Agrees (x : Exchange) (r r' : Run) : Prop where
  now : r'.world.now = r.world.now
  phase : r'.world.phase = r.world.phase
  cancelled : r'.world.cancelled = r.world.cancelled
  /-- The same things have happened at the same instants and in the same order. -/
  records : List.Forall₂ (Record.Alike x) r.world.trace r'.world.trace
  reports : List.Forall₂ (TeardownReport.Alike x) r.teardown.reports r'.teardown.reports
  clean : r'.teardown.clean = r.teardown.clean
  /-- Both have returned or neither, with a failure of the same component or without one. -/
  result : Option.Rel (Option.Rel (Culprit.Alike x)) r.result? r'.result?

lemma Alike.agrees (h : r.Alike x r') : r.Agrees x r' := by
  refine ⟨h.world.now, h.world.phase, h.world.cancelled, h.world.trace, h.teardown.reports,
    h.teardown.clean, ?_⟩
  have hcontrol := h.control
  rw [result?, result?]
  generalize r.control = control at hcontrol ⊢
  generalize r'.control = control' at hcontrol ⊢
  cases hcontrol with
  | returned hf => exact .some hf
  | _ => exact .none

end Run

/-! ### Twins that return errors -/

/-- The routine that returns errors where this one panics. -/
def Routine.returning (error : Option String → Failure) : Routine → Routine
  | .stop (.panicked payload) => .stop (.failed (error payload))
  | .stop ending => .stop ending
  | .hang => .hang
  | .sleep span next => .sleep span (next.returning error)
  | .pause next => .pause (next.returning error)
  | .awaitCancel next => .awaitCancel (next.returning error)
  | .sleepOrCancel span late cancelled =>
    .sleepOrCancel span (late.returning error) (cancelled.returning error)
  | .cancel next => .cancel (next.returning error)
  | .ifCancelled yes no => .ifCancelled (yes.returning error) (no.returning error)
  | .note left next => .note left (next.returning error)
  | .raise signal next => .raise signal (next.returning error)
  | .startJobs next => .startJobs (next.returning error)
  | .stopJobs next => .stopJobs (next.returning error)
  | .awaitJobs span idle late =>
    .awaitJobs span (idle.returning error) (late.returning error)

lemma Routine.alike_returning (error : Option String → Failure) (routine : Routine) :
    routine.Alike (fun payload failure => failure = error payload) (routine.returning error) := by
  induction routine with
  | stop ending =>
      cases ending with
      | panicked payload => exact .stop (.swap rfl)
      | _ => exact .stop (.same _)
  | hang => exact .hang
  | sleep span next ih => exact .sleep span ih
  | pause next ih => exact .pause ih
  | awaitCancel next ih => exact .awaitCancel ih
  | sleepOrCancel span late cancelled ihl ihc => exact .sleepOrCancel span ihl ihc
  | cancel next ih => exact .cancel ih
  | ifCancelled yes no ihy ihn => exact .ifCancelled ihy ihn
  | note left next ih => exact .note left ih
  | raise signal next ih => exact .raise signal ih
  | startJobs next ih => exact .startJobs ih
  | stopJobs next ih => exact .stopJobs ih
  | awaitJobs span idle late ihi ihl => exact .awaitJobs span ihi ihl

/-- An application and its twin whose routines return errors where those of the first one panic. -/
def Exchange.withoutPanics (app : Application) (error : Actor → Option String → Failure) :
    Exchange where
  panicking := app
  returning := { app with registry := ⟨app.registry.entries.mapIdx fun index entry =>
    { entry with component := { entry.component with
        entry := entry.component.entry.returning (error (.entry index))
        teardown := fun deadline =>
          (entry.component.teardown deadline).returning (error (.teardown index)) } }⟩ }
  swaps := fun actor payload failure => failure = error actor payload
  registrations := fun index => by
    rw [List.getElem?_mapIdx]
    cases app.registry.entries[index]? with
    | none => exact .none
    | some entry =>
        exact .some ⟨rfl, rfl, rfl, rfl, rfl, Routine.alike_returning _ _,
          fun _ => Routine.alike_returning _ _⟩
  shutdownTimeout := rfl
  trigger := rfl

end ServiceSupervisor
