import ServiceSupervisor.Proofs.Entries

/-!
The result of a run is its earliest failure.

* `Trace.FailsAt`, `Trigger.FiresAt`: what can call for a shutdown, read off the trace;
* `Run.reportedExits`: the reports of the watching tasks in their order, which is the order of time
  (`Run.Reached.pairwise_reportedExits`); every end of an entry routine is among them, unless it has
  happened just now (`Run.Reached.reported_or_over`);
* `Run.foreseen`: the result, as far as the supervisor knows it.  In every state of a run it is the
  first failure that has been reported (`Run.Reached.foretold`): neither the order in which the
  supervisor takes exits, nor the branch by which it leaves the wait, nor the judgement after the
  drain changes it;
* `Run.result_earliest_failure`: the theorem on the result.
-/

namespace ServiceSupervisor

/-! ### What calls for a shutdown -/

/-- The entry routine at a place has failed at an instant, or it has panicked, which counts as a
failure that says so. -/
def Trace.FailsAt (tr : Trace) (time index : Nat) (failure : Failure) : Prop :=
  ∃ phase, ⟨time, phase, .entryEnded index (.failed failure)⟩ ∈ tr ∨
    ∃ payload, ⟨time, phase, .entryEnded index (.panicked payload)⟩ ∈ tr ∧
      failure = { root := "component task panicked: " ++ describePanic payload }

/-- It has failed if it has ended with an ending that stands for a failure. -/
lemma Trace.failsAt_iff {tr : Trace} {time index : Nat} {failure : Failure} :
    tr.FailsAt time index failure ↔ ∃ phase ending,
      ⟨time, phase, .entryEnded index ending⟩ ∈ tr ∧ ending.failure? = some failure := by
  refine exists_congr fun phase => ⟨?_, ?_⟩
  · rintro (hmem | ⟨payload, hmem, rfl⟩)
    · exact ⟨_, hmem, rfl⟩
    · exact ⟨_, hmem, rfl⟩
  · rintro ⟨ending, hmem, hfailure⟩
    cases ending with
    | finished => cases hfailure
    | failed failure' =>
        obtain rfl := Option.some.inj hfailure
        exact .inl hmem
    | panicked payload => exact .inr ⟨payload, hmem, (Option.some.inj hfailure).symm⟩

/-- The external trigger fires at an instant. -/
def Trigger.FiresAt (trigger : Trigger) (tr : Trace) (time : Nat) : Prop :=
  match trigger with
  | .never => False
  | .atInstant instant => time = instant
  | .signals => ∃ phase signal, ⟨time, phase, .signalObserved signal⟩ ∈ tr

/-- The external trigger has fired. -/
def Trigger.Fired (trigger : Trigger) (w : World) : Prop :=
  ∃ time, time ≤ w.now ∧ trigger.FiresAt w.trace time

namespace Trigger

variable {trigger : Trigger} {w w' : World}

/-- What has fired has fired. -/
lemma FiresAt.mono {time : Nat} (h : trigger.FiresAt w.trace time) (hg : w.Grows w') :
    trigger.FiresAt w'.trace time := by
  cases trigger with
  | never => exact h
  | atInstant instant => exact h
  | signals =>
      obtain ⟨phase, signal, hmem⟩ := h
      exact ⟨phase, signal, hg.mem hmem⟩

/-- What fires fired before, or fires now. -/
lemma FiresAt.of_grows {time : Nat} (h : trigger.FiresAt w'.trace time) (hg : w.Grows w') :
    trigger.FiresAt w.trace time ∨ time = w.now := by
  cases trigger with
  | never => exact h.elim
  | atInstant instant => exact .inl h
  | signals =>
      obtain ⟨phase, signal, hmem⟩ := h
      exact (hg.mem_or hmem).imp_left fun hold => ⟨phase, signal, hold⟩

/-- A trigger that has fired stays so. -/
lemma Fired.mono (h : trigger.Fired w) (hg : w.Grows w') : trigger.Fired w' := by
  obtain ⟨time, hle, hfires⟩ := h
  exact ⟨time, Nat.le_trans hle hg.now_le, hfires.mono hg⟩

end Trigger

/-! ### Exits in their order -/

/-- The exit that a record reports. -/
def Record.exit? (registry : Registry) (x : Record) : Option Exit :=
  match x.event with
  | .exitReported index ending => some ⟨index, registry.nameAt index, ending, x.time⟩
  | _ => none

lemma Record.time_of_exit? {registry : Registry} {x : Record} {exit : Exit}
    (h : x.exit? registry = some exit) : exit.time = x.time := by
  obtain ⟨time, phase, event⟩ := x
  cases event <;> cases h
  rfl

/-- In a list of exits in the order of time, the first failure is an earliest one. -/
lemma Exit.earliest_of_findSome? {exits : List Exit} {culprit : Culprit}
    (hsort : exits.Pairwise fun earlier later => earlier.time ≤ later.time)
    (h : exits.findSome? culprit? = some culprit) :
    ∃ exit ∈ exits, exit.culprit? = some culprit ∧
      ∀ other ∈ exits, other.culprit?.isSome → exit.time ≤ other.time := by
  obtain ⟨before, exit, after, rfl, hexit, hnone⟩ := List.findSome?_eq_some_iff.mp h
  refine ⟨exit, by simp, hexit, fun other hother hsome => ?_⟩
  rcases List.mem_append.mp hother with hother | hother
  · simp [hnone other hother] at hsome
  · rcases List.mem_cons.mp hother with rfl | hother
    · exact Nat.le_refl _
    · exact (List.pairwise_cons.mp (List.pairwise_append.mp hsort).2.1).1 other hother

namespace Run

variable {app : Application} {r r' : Run}

/-- The exits reported so far, in order. -/
def reportedExits (app : Application) (r : Run) : List Exit :=
  r.entryTrace.reverse.filterMap (Record.exit? app.registry)

lemma reportedExits_congr (h : r'.entryTrace = r.entryTrace) :
    r'.reportedExits app = r.reportedExits app := by
  rw [reportedExits, reportedExits, h]

lemma mem_reportedExits {exit : Exit} :
    exit ∈ r.reportedExits app ↔ ∃ phase,
      ⟨exit.time, phase, .exitReported exit.index exit.ending⟩ ∈ r.world.trace ∧
        exit.name = app.registry.nameAt exit.index := by
  rw [reportedExits, List.mem_filterMap]
  constructor
  · rintro ⟨⟨time, phase, event⟩, hmem, hx⟩
    rw [List.mem_reverse, entryTrace, Trace.mem_about] at hmem
    cases event <;> first | cases hx
    exact ⟨phase, hmem.1, rfl⟩
  · rintro ⟨phase, hmem, hname⟩
    refine ⟨_, List.mem_reverse.mpr (Trace.mem_about.mpr ⟨hmem, rfl⟩), ?_⟩
    simp [Record.exit?, ← hname]

/-- The clock of a run has not passed over its records, which stand in the order of time. -/
lemma Reached.chronological (h : Reached app r) :
    Trace.Chronological r.world.now r.world.trace := by
  induction h with
  | initial signals wallClock =>
      rw [Run.initial, World.ofRegistry, World.emitAll_eq]
      exact Trace.chronological_nil.append (by simp)
  | move _ hm ih => exact hm.grows.chronological ih

/-- The reports stand in the order of time, as all records do. -/
lemma pairwise_reportedExits_of_chronological
    (h : Trace.Chronological r.world.now r.world.trace) :
    (r.reportedExits app).Pairwise fun earlier later => earlier.time ≤ later.time := by
  have htrace : r.entryTrace.Pairwise fun later earlier => earlier.time ≤ later.time :=
    h.2.filter _
  refine List.Pairwise.filterMap _ ?_ (List.pairwise_reverse.mpr htrace)
  intro x y hxy exit hx other hy
  rw [Record.time_of_exit? hx, Record.time_of_exit? hy]
  exact hxy

lemma Reached.pairwise_reportedExits (h : Reached app r) :
    (r.reportedExits app).Pairwise fun earlier later => earlier.time ≤ later.time :=
  pairwise_reportedExits_of_chronological h.chronological

/-- An end that has been reported is an end that has happened, at the instant of the report. -/
lemma Reached.ended_of_reported (h : Reached app r) {exit : Exit}
    (hexit : exit ∈ r.reportedExits app) :
    ∃ phase, ⟨exit.time, phase, .entryEnded exit.index exit.ending⟩ ∈ r.world.trace := by
  obtain ⟨phase, hmem, -⟩ := mem_reportedExits.mp hexit
  obtain ⟨phase', hmem'⟩ := (h.course exit.index).ended_of_reported
    (Trace.mem_about.mpr ⟨hmem, by simp [Event.concernsEntry]⟩)
  exact ⟨phase', (Trace.mem_about.mp hmem').1⟩

/-- An end that has happened has been reported at its instant, or this is its instant. -/
lemma Reached.reported_or_over (h : Reached app r) {time index : Nat} {phase : Phase}
    {ending : Ending} (hx : ⟨time, phase, .entryEnded index ending⟩ ∈ r.world.trace) :
    ⟨index, app.registry.nameAt index, ending, time⟩ ∈ r.reportedExits app ∨
      (time = r.world.now ∧ r.startup.entries[index]? = some (.watched (.ended ending))) := by
  have hview := Trace.mem_about.mpr
    (⟨hx, by simp [Event.concernsEntry]⟩ : _ ∧ Event.concernsEntry index _ = true)
  rcases (h.course index).reported_or_over hview with ⟨phase', hmem⟩ | hover
  · exact Or.inl (mem_reportedExits.mpr ⟨phase', (Trace.mem_about.mp hmem).1, rfl⟩)
  · exact Or.inr hover

/-- A failure among the reports is one that has happened. -/
lemma Reached.failsAt_of_culprit (h : Reached app r) {exit : Exit} {culprit : Culprit}
    (hexit : exit ∈ r.reportedExits app) (hc : exit.culprit? = some culprit) :
    ∃ entry, app.registry.entries[exit.index]? = some entry ∧ culprit.component = entry.name ∧
      r.world.trace.FailsAt exit.time exit.index culprit.failure := by
  obtain ⟨phase, hmem⟩ := h.ended_of_reported hexit
  obtain ⟨entry, hentry⟩ := h.registered hmem
  obtain ⟨failure, hfailure, rfl⟩ := Option.map_eq_some_iff.mp hc
  obtain ⟨-, -, hname⟩ := mem_reportedExits.mp hexit
  refine ⟨entry, hentry, ?_, Trace.failsAt_iff.mpr ⟨phase, exit.ending, hmem, hfailure⟩⟩
  rw [hname, Registry.nameAt, hentry]
  rfl

/-- A failure that has happened is among the reports once all have been made. -/
lemma Reached.culprit_of_failsAt (h : Reached app r) (hall : r.startup.allReported = true)
    {time index : Nat} {failure : Failure} (hf : r.world.trace.FailsAt time index failure) :
    ∃ exit ∈ r.reportedExits app, exit.time = time ∧ exit.culprit?.isSome := by
  obtain ⟨phase, ending, hmem, hending⟩ := Trace.failsAt_iff.mp hf
  rcases h.reported_or_over hmem with hexit | ⟨-, hover⟩
  · exact ⟨_, hexit, rfl, by simp [Exit.culprit?, Exit.failure?, hending]⟩
  · cases Startup.isReported_of_allReported hall hover

/-! ### The result, as far as the supervisor knows it -/

/-- The result of the run, if no more failures are reported. -/
def foreseen (r : Run) : Option Culprit :=
  match r.control with
  | .idle | .waiting | .abandoned | .byHand => r.startup.exits.findSome? Exit.culprit?
  | .draining first drained => first.or ((drained ++ r.startup.exits).findSome? Exit.culprit?)
  | .stopping first | .returned first => first

lemma foreseen_congr (hc : r'.control = r.control) (hx : r'.startup.exits = r.startup.exits) :
    r'.foreseen = r.foreseen := by
  rw [foreseen, foreseen, hc, hx]

/-- The judgement after the drain keeps the failure that triggered the shutdown, or else finds the
first one among the drained exits. -/
lemma reportFailures_fst (first : Option Culprit) (drained : List Exit) :
    (reportFailures first drained).1 = first.or (drained.findSome? Exit.culprit?) := by
  induction drained generalizing first with
  | nil => simp [reportFailures]
  | cons exit exits ih =>
      rw [reportFailures, List.findSome?_cons]
      cases exit.culprit? with
      | none => exact ih first
      | some culprit =>
          cases first with
          | none => exact ih (some culprit)
          | some earlier => exact ih (some earlier)

/-- The result to be expected is the first failure among the exits reported so far. -/
def Foretold (app : Application) (r : Run) : Prop :=
  r.foreseen = (r.reportedExits app).findSome? Exit.culprit?

/-- Nothing is reported, and the expectation stays. -/
lemma Foretold.of_eq (h : Foretold app r) (hf : r'.foreseen = r.foreseen)
    (hx : r'.reportedExits app = r.reportedExits app) : Foretold app r' := by
  rw [Foretold, hf, hx]
  exact h

/-- One more exit is reported, to a supervisor that has not judged yet. -/
lemma Foretold.report {exit : Exit} (h : Foretold app r) (hc : r'.control = r.control)
    (hs : r'.startup.exits = r.startup.exits ++ [exit])
    (hx : r'.reportedExits app = r.reportedExits app ++ [exit])
    (hopen : ∀ first, r.control ≠ .stopping first ∧ r.control ≠ .returned first) :
    Foretold app r' := by
  rw [Foretold, hx, List.findSome?_append, ← h, foreseen, foreseen, hc, hs]
  cases hcon : r.control with
  | idle => exact List.findSome?_append
  | waiting => exact List.findSome?_append
  | draining first drained =>
      simp only [← List.append_assoc, List.findSome?_append, Option.or_assoc]
  | stopping first => exact absurd hcon (hopen first).1
  | returned first => exact absurd hcon (hopen first).2
  | abandoned => exact List.findSome?_append
  | byHand => exact List.findSome?_append

/-- The beginning and the end of an entry routine are not reports. -/
lemma reportedExits_of_advances {task polled : Task} {index : Nat}
    (hadv : task.Advances (.entryBegun index) (.entryEnded index) r.world polled r'.world) :
    r'.reportedExits app = r.reportedExits app := by
  have htr : r'.entryTrace = _ := hadv.about_eq Event.isOfEntries_of_isNote rfl fun _ => rfl
  have hbegin : (Task.beginMark (.entryBegun index) r.world task).reverse.filterMap
      (Record.exit? app.registry) = [] := by
    rw [Task.beginMark]
    split <;> rfl
  have hend : (Task.endMark (.entryEnded index) r.world polled).reverse.filterMap
      (Record.exit? app.registry) = [] := by
    rw [Task.endMark]
    split <;> rfl
  rw [reportedExits, htr, List.reverse_append, List.reverse_append, List.filterMap_append,
    List.filterMap_append, hbegin, hend, List.append_nil, List.append_nil]
  rfl

/-- **The first failure reported decides.**  In every state of a run the result to be expected is
the first failure among the exits reported so far. -/
theorem Reached.foretold (h : Reached app r) : Foretold app r := by
  have hk := Event.isOfEntries_of_isOfSupervisor
  induction h with
  | initial signals wallClock =>
      rw [Foretold, reportedExits, entryTrace,
        about_initial signals wallClock Event.isOfEntries_of_isNote fun _ _ => rfl]
      rfl
  | @move r r' h hm ih =>
      cases hm with
      | launch hc =>
          refine ih.of_eq ?_ (reportedExits_congr (about_launch app r hk))
          obtain ⟨hempty, -⟩ : r.startup = .empty ∧ r.world.now = 0 := by
            simpa only [Staffed, hc] using h.staffed
          rw [foreseen, foreseen, hc, hempty]
          rfl
      | @skim exit exits hc he hok =>
          refine ih.of_eq ?_ rfl
          simp only [foreseen, hc, he, List.findSome?_cons, hok]
      | @fail exit exits culprit hc he hf =>
          refine ih.of_eq ?_ rfl
          simp [foreseen, beginDrain, hc, he, hf]
      | trigger prefers hc hd =>
          refine ih.of_eq ?_ (reportedExits_congr (about_observeSignal prefers r hk))
          obtain ⟨signals, seen, heq, -⟩ := observeSignal_eq prefers r
          rw [heq]
          simp [foreseen, beginDrain, hc]
      | @collect first drained hc =>
          refine ih.of_eq ?_ rfl
          simp [foreseen, hc]
      | @judge first drained hc he hp =>
          refine ih.of_eq ?_ (reportedExits_congr (about_reportFailures first hk drained r.world))
          simp [foreseen, hc, he, reportFailures_fst]
      | coordinate hc hm =>
          exact ih.of_eq (foreseen_congr rfl rfl) (reportedExits_congr hm.about_isOfEntries)
      | @finish first hc ho =>
          refine ih.of_eq ?_ (reportedExits_congr (about_finish first r hk))
          obtain ⟨signals, heq⟩ := finish_eq first r
          rw [heq]
          simp [foreseen, hc]
      | spawnEntry he ht => exact ih.of_eq (foreseen_congr rfl rfl) rfl
      | @reportExit index entry ending he ht =>
          refine ih.report rfl rfl ?_ (h.staffed.open_of_unreported ht rfl)
          simp [reportedExits, entryTrace, Event.isOfEntries, Record.exit?, Registry.nameAt, he]
      | entry he ht hr hp =>
          exact ih.of_eq (foreseen_congr rfl rfl)
            (reportedExits_of_advances (EntryTask.advances_of_ready hr hp))
      | teardown ht hr hp =>
          refine ih.of_eq (foreseen_congr rfl rfl) (reportedExits_congr ?_)
          exact (Task.advances_of_ready hr hp).about_eq_of_other
            Event.isOfEntries_of_isNote rfl fun _ => rfl
      | @job owner number fires hr =>
          refine ih.of_eq (foreseen_congr rfl rfl) (reportedExits_congr ?_)
          exact (World.pollLoop_ripples r.world owner number fires).about_eq
            Event.isOfEntries_of_isNote
      | deliver hw => exact ih.of_eq (foreseen_congr rfl rfl) rfl
      | tick hq hp hn => exact ih.of_eq (foreseen_congr rfl rfl) rfl

/-! ### The trigger -/

/-- The failure that the supervisor has chosen, once it has left the wait. -/
def chosen? (r : Run) : Option (Option Culprit) :=
  match r.control with
  | .draining first _ | .stopping first | .returned first => some first
  | _ => none

/-- A supervisor that sees the trigger has seen it fire. -/
lemma fired_of_triggerDue (prefers : Signal) (hd : r.triggerDue app = true) :
    app.trigger.Fired (r.observeSignal prefers).world := by
  rw [triggerDue] at hd
  cases ht : app.trigger with
  | never => simp [ht] at hd
  | atInstant instant =>
      obtain ⟨signals, seen, heq, -⟩ := observeSignal_eq prefers r
      rw [heq]
      exact ⟨instant, by simpa [ht] using hd, rfl⟩
  | signals =>
      simp only [ht] at hd
      cases hl : r.listener with
      | none => simp [hl] at hd
      | some number =>
          rw [hl] at hd
          cases hp : r.world.signals.pending number with
          | nil => simp [hp] at hd
          | cons first rest =>
              rw [observeSignal, hl]
              simp only [Option.bind_some, Signals.receive, hp]
              exact ⟨r.world.now, Nat.le_refl _, _, _, List.mem_cons_self⟩

/-- The external trigger has fired, and the supervisor has seen it. -/
structure Resolved (app : Application) (r : Run) : Prop where
  fired : app.trigger.Fired r.world
  requested : ∃ time phase, ⟨time, phase, .shutdownRequested⟩ ∈ r.world.trace

/-- What the supervisor has seen it has seen. -/
lemma Resolved.mono (h : Resolved app r) (hg : r.world.Grows r'.world) : Resolved app r' := by
  obtain ⟨time, phase, hmem⟩ := h.requested
  exact ⟨h.fired.mono hg, time, phase, hg.mem hmem⟩

/-- A supervisor that has left the wait without a failure has seen the trigger fire. -/
lemma Reached.resolved (h : Reached app r) (hf : r.chosen? = some none) : Resolved app r := by
  induction h with
  | initial signals wallClock => cases hf
  | @move r r' h hm ih =>
      have hstay : r'.chosen? = r.chosen? → Resolved app r' := by
        intro heq
        exact (ih (heq ▸ hf)).mono hm.grows
      cases hm.supervisorSide with
      | launch hc hr =>
          subst hr
          cases hf
      | fail exit exits culprit hc he hf' hr =>
          subst hr
          cases hf
      | trigger prefers hc hd hr =>
          rw [hr]
          refine ⟨(fired_of_triggerDue prefers hd).mono ⟨Nat.le_refl _, [_, _, _], rfl, ?_⟩, ?_⟩
          · simp
          · exact ⟨_, _, List.mem_cons_of_mem _ (List.mem_cons_of_mem _ List.mem_cons_self)⟩
      | collect first drained hc hr => exact hstay (by simp [chosen?, hr, hc])
      | judge first drained hc he hp hr =>
          simp only [chosen?, hr, reportFailures_fst, Option.some.injEq,
            Option.or_eq_none_iff] at hf
          refine (ih ?_).mono hm.grows
          simp [chosen?, hc, hf.1]
      | finish first hc ho hr =>
          refine hstay ?_
          obtain ⟨signals, heq⟩ := finish_eq first r
          rw [hr, heq, chosen?, chosen?, hc]
      | stay hc hphase hv hnow => exact hstay (by rw [chosen?, chosen?, hc])
      | tick instant hq hp hn hr => exact hstay (by rw [hr]; rfl)

lemma Reached.fired (h : Reached app r) (hf : r.chosen? = some none) :
    app.trigger.Fired r.world :=
  (h.resolved hf).fired

/-! ### The theorem on the result -/

/-- A run that has a result has returned with it. -/
lemma control_of_result? {first : Option Culprit} (hr : r.result? = some first) :
    r.control = .returned first := by
  rw [result?] at hr
  split at hr
  · obtain rfl := Option.some.inj hr
    assumption
  · cases hr

/-- **The result is the earliest failure.**  A run that has returned has ended well exactly if the
external trigger has fired and no entry routine has failed or panicked; otherwise its result is the
registered name and the whole failure of an entry routine that did so at the earliest instant at
which any did. -/
theorem result_earliest_failure (app : Application) (signals : Signals)
    (wallClock : Nat → Timestamp) (labels : List Label) (r : Run) (first : Option Culprit)
    (h : (Run.initial app signals wallClock).steps? app labels = some r)
    (hr : r.result? = some first) :
    (first = none ↔ app.trigger.Fired r.world ∧
        ∀ time index failure, ¬ r.world.trace.FailsAt time index failure) ∧
      ∀ culprit, first = some culprit →
        ∃ time index entry, app.registry.entries[index]? = some entry ∧
          culprit.component = entry.name ∧ r.world.trace.FailsAt time index culprit.failure ∧
          ∀ time' index' failure', r.world.trace.FailsAt time' index' failure' → time ≤ time' := by
  obtain ⟨hreach, -⟩ := reached_of_steps? h
  have hcontrol := control_of_result? hr
  have hall : r.startup.allReported = true := by
    have hstaffed := hreach.staffed
    rw [Staffed, hcontrol] at hstaffed
    exact hstaffed.2
  have hfirst : first = (r.reportedExits app).findSome? Exit.culprit? := by
    have hforetold := hreach.foretold
    rwa [Foretold, foreseen, hcontrol] at hforetold
  refine ⟨⟨?_, ?_⟩, ?_⟩
  · rintro rfl
    refine ⟨hreach.fired (by rw [chosen?, hcontrol]), fun time index failure hfails => ?_⟩
    obtain ⟨exit, hexit, -, hsome⟩ := hreach.culprit_of_failsAt hall hfails
    have hnone := List.findSome?_eq_none_iff.mp hfirst.symm exit hexit
    rw [hnone] at hsome
    cases hsome
  · rintro ⟨-, hnone⟩
    rw [hfirst, List.findSome?_eq_none_iff]
    intro exit hexit
    cases hculprit : exit.culprit? with
    | none => rfl
    | some culprit =>
        obtain ⟨-, -, -, hfails⟩ := hreach.failsAt_of_culprit hexit hculprit
        exact absurd hfails (hnone _ _ _)
  · rintro culprit rfl
    obtain ⟨exit, hexit, hculprit, hleast⟩ :=
      Exit.earliest_of_findSome? hreach.pairwise_reportedExits hfirst.symm
    obtain ⟨entry, hentry, hname, hfails⟩ := hreach.failsAt_of_culprit hexit hculprit
    refine ⟨exit.time, exit.index, entry, hentry, hname, hfails, ?_⟩
    intro time' index' failure' hfails'
    obtain ⟨other, hother, rfl, hsome⟩ := hreach.culprit_of_failsAt hall hfails'
    exact hleast other hother hsome

/-- The failure of the server is the result of its service. -/
theorem result_of_storeAndServer : ∃ r,
    (Run.initial .storeAndServer .fresh fun _ => 0).steps? .storeAndServer storeAndServerSchedule
        = some r ∧
      r.result? = some (some ⟨"server", { root := "boom" }⟩) ∧
      ∃ time index entry, Application.storeAndServer.registry.entries[index]? = some entry ∧
        "server" = entry.name ∧ r.world.trace.FailsAt time index { root := "boom" } ∧
        ∀ time' index' failure', r.world.trace.FailsAt time' index' failure' → time ≤ time' :=
  ⟨_, rfl, rfl, (result_earliest_failure .storeAndServer .fresh (fun _ => 0)
    storeAndServerSchedule _ _ rfl rfl).2 ⟨"server", { root := "boom" }⟩ rfl⟩

end Run

end ServiceSupervisor
