import ServiceSupervisor.Proofs.Judgement
import ServiceSupervisor.Report

/-!
Every failure in the log once.

* `Run.map_filter_supervisorLog`: lines of a kind, read off the trace;
* `Run.failedEntries`: the entry routines that have failed or panicked, read off the trace; they are
  the failures reported to the supervisor (`Run.Reached.culprits_perm`);
* `Run.FailureLines`: what the log of a run says of failed entry routines;
* `Run.Ended`: the end of the run is logged last.  Every move keeps that (`Run.Reached.ended`);
* `Run.TeardownLines`: what the log says of teardowns;
* `Run.failures_logged_once`: the theorem on the log.
-/

namespace ServiceSupervisor

/-! ### Kinds of lines -/

namespace LogLine

/-- Whether the line has a message. -/
def reads (message : String) (line : LogLine) : Bool := line.message == message

/-- Whether the line is about a failed entry routine. -/
def isFailure (line : LogLine) : Bool :=
  line.reads "Component error before shutdown" || line.reads "Component failed while draining"
    || line.reads "Component failed after shutdown was requested"

/-- Whether the line is about a teardown that was not completed. -/
def isFault (line : LogLine) : Bool :=
  line.reads "Stop error" || line.reads "Stop panicked" || line.reads "Stop timed out"

end LogLine

/-- The fields of a line about a failed component. -/
def Culprit.fields (culprit : Culprit) : List (String × FieldValue) :=
  [("component", .text culprit.component), ("error", .text culprit.failure.message)]

/-- The fields of a line about the beginning of a teardown. -/
def stopFields (name : String) (deadline : Duration) : List (String × FieldValue) :=
  [("component", .text name), ("timeout_ms", .number (deadline.millis % 2 ^ 64))]

/-- A teardown has a line about a fault exactly if it was not completed. -/
lemma Outcome.isSome_fault?_iff (outcome : Outcome) (name : String) (deadline : Duration) :
    (outcome.fault? name deadline).isSome = true ↔ outcome ≠ .completed := by
  cases outcome <;> simp [fault?]

variable {app : Application} {span : Option String} {r r' : Run}

namespace Run

/-! ### Lines of a kind -/

section Lines

variable {α β : Type} {f : Record → Option α} {p : LogLine → Bool} {g : LogLine → β} {g' : α → β}
  (h : ∀ x : Record, ((x.supervisorLine? app.registry span).filter p).map g = (f x).map g')
include h

/-- Lines of a kind are what the records tell of something, in order. -/
lemma map_filter_supervisorLog : ((r.supervisorLog app span).filter p).map g
    = (r.world.trace.reverse.filterMap f).map g' := by
  rw [supervisorLog, List.filter_filterMap, List.map_filterMap, List.map_filterMap, records]
  exact List.filterMap_congr fun x _ => h x

end Lines

end Run

/-! ### Failed entry routines -/

/-- How the entry routine at a place has ended, if it has. -/
def Trace.ending? (tr : Trace) (index : Nat) : Option Ending :=
  match tr.about (Event.runsEntry index) with
  | ⟨_, _, .entryEnded _ ending⟩ :: _ => some ending
  | _ => none

/-- An entry routine that has begun once and ended once has ended as it is recorded. -/
lemma Trace.RanOnce.ending?_eq {tr : Trace} {time index : Nat} {phase : Phase} {ending : Ending}
    (h : tr.RanOnce index) (hmem : ⟨time, phase, .entryEnded index ending⟩ ∈ tr) :
    tr.ending? index = some ending := by
  obtain ⟨begun, ended, phase', phase'', ending', hview⟩ := h
  have hrecord := Trace.mem_about.mpr
    (⟨hmem, by simp [Event.runsEntry]⟩ : _ ∧ Event.runsEntry index _ = true)
  rw [hview] at hrecord
  obtain ⟨-, -, rfl⟩ : time = ended ∧ phase = phase'' ∧ ending = ending' := by
    simpa using hrecord
  rw [Trace.ending?, hview]

namespace Run

/-- The entry routine at a place as a failed component, if it has failed or panicked. -/
def failureAt? (app : Application) (r : Run) (index : Nat) : Option Culprit :=
  match r.world.trace.ending? index with
  | some (.failed failure) => some ⟨app.registry.nameAt index, failure⟩
  | some (.panicked payload) =>
    some ⟨app.registry.nameAt index,
      { root := "component task panicked: " ++ describePanic payload }⟩
  | some .finished | none => none

/-- The entry routines that have failed or panicked, in the order of registration. -/
def failedEntries (app : Application) (r : Run) : List Culprit :=
  (List.range app.registry.size).filterMap (r.failureAt? app)

/-- **Every entry routine that has failed is reported once.**  When the supervisor has returned the
failures reported to it are those of the entry routines. -/
theorem Reached.culprits_perm (h : Reached app r) {first : Option Culprit}
    (hc : r.control = .returned first) : (r.culprits app).Perm (r.failedEntries app) := by
  have hstaffed := h.staffed
  rw [Staffed, hc] at hstaffed
  have hran : ∀ index, index < app.registry.size → r.world.trace.RanOnce index :=
    fun index => h.ranOnce ⟨first, .inr hc⟩
  have hplace : ∀ exit ∈ r.reportedExits app, exit.index < app.registry.size := by
    intro exit hexit
    obtain ⟨phase, hmem⟩ := h.ended_of_reported hexit
    obtain ⟨entry, hentry⟩ := h.registered hmem
    exact (List.getElem?_eq_some_iff.mp hentry).1
  have hplaces : ((r.reportedExits app).map (·.index)).Perm (List.range app.registry.size) := by
    refine (List.perm_ext_iff_of_nodup (nodup_reportedExits h.course) List.nodup_range).mpr ?_
    intro index
    rw [List.mem_range, List.mem_map]
    constructor
    · rintro ⟨exit, hexit, rfl⟩
      exact hplace exit hexit
    · intro hindex
      refine (exists_reportedExits_iff h.course index).mpr ?_
      obtain ⟨task, htask⟩ : ∃ task, r.startup.entries[index]? = some task :=
        ⟨_, List.getElem?_eq_getElem (hstaffed.1 ▸ hindex)⟩
      have hreported := Startup.isReported_of_allReported hstaffed.2 htask
      cases task with
      | reported ending => exact ⟨ending, htask⟩
      | unspawned routine => cases hreported
      | watched task => cases hreported
      | unwatched task => cases hreported
  have hculprits : r.culprits app
      = ((r.reportedExits app).map (·.index)).filterMap (r.failureAt? app) := by
    rw [culprits, List.filterMap_map]
    refine List.filterMap_congr fun exit hexit => ?_
    obtain ⟨phase, hmem⟩ := h.ended_of_reported hexit
    obtain ⟨-, -, hname⟩ := mem_reportedExits.mp hexit
    have hending := (hran exit.index (hplace exit hexit)).ending?_eq hmem
    cases he : exit.ending <;>
      simp [failureAt?, hending, he, Exit.culprit?, Exit.failure?, Ending.failure?, hname]
  rw [hculprits]
  exact hplaces.filterMap _

/-- The result of a run is the first of the failures reported to the supervisor. -/
lemma Reached.head?_culprits (h : Reached app r) {first : Option Culprit}
    (hc : r.control = .returned first) : (r.culprits app).head? = first := by
  have hforetold := h.foretold
  rw [Foretold, foreseen, hc] at hforetold
  rw [culprits, List.head?_filterMap, ← hforetold]

end Run

/-! ### Lines about failed entry routines -/

/-- What is said of failures is said of each of them, in order. -/
lemma map_verdicts {β : Type} (lateness : Lateness) (culprits : List Culprit) (g : Culprit → β) :
    (verdicts lateness culprits).map (fun v => g v.2) = culprits.map g := by
  cases culprits with
  | nil => rfl
  | cons culprit others => simp [verdicts]

/-- Of what is said of failures only the first is not that they came late. -/
lemma filter_verdicts {lateness said : Lateness} (hsaid : said ≠ .afterRequest)
    (culprits : List Culprit) : (verdicts lateness culprits).filter (·.1 = said)
      = if lateness = said then culprits.head?.toList.map (said, ·) else [] := by
  cases culprits with
  | nil => simp [verdicts]
  | cons culprit others =>
      have hothers : (others.map (Lateness.afterRequest, ·)).filter (·.1 = said) = [] :=
        List.filter_eq_nil_iff.mpr fun v hv => by
          obtain ⟨other, -, rfl⟩ := List.mem_map.mp hv
          simp [Ne.symm hsaid]
      rw [verdicts, List.filter_cons, hothers]
      by_cases heq : lateness = said <;> simp [heq]

/-- The lines about failed entry routines are of three kinds. -/
lemma length_filter_isFailure (log : List LogLine) : (log.filter LogLine.isFailure).length
    = (log.filter (·.reads "Component error before shutdown")).length
      + (log.filter (·.reads "Component failed while draining")).length
      + (log.filter (·.reads "Component failed after shutdown was requested")).length := by
  simp only [← List.countP_eq_length_filter]
  induction log with
  | nil => rfl
  | cons line log ih =>
      simp only [List.countP_cons, ih, LogLine.isFailure, LogLine.reads]
      by_cases hbefore : line.message = "Component error before shutdown"
      · simp [hbefore]; omega
      by_cases hdraining : line.message = "Component failed while draining"
      · simp [hdraining]; omega
      by_cases hafter : line.message = "Component failed after shutdown was requested"
      · simp [hafter]; omega
      · simp [hbefore, hdraining, hafter]

namespace Run

/-- The lines about failed entry routines name the failures that the supervisor reports. -/
lemma failure_lines : ((r.supervisorLog app span).filter LogLine.isFailure).map (·.fields)
    = (r.world.trace.told Event.verdict?).map fun v => v.2.fields := by
  refine map_filter_supervisorLog (f := fun x => x.event.verdict?) ?_
  rintro ⟨time, phase, event⟩
  cases event with
  | failureReported lateness culprit => cases lateness <;> rfl
  | teardownReported index deadline outcome => cases outcome <;> rfl
  | _ => rfl

/-- Those of a kind name the failures reported so. -/
lemma lateness_lines (said : Lateness) :
    ((r.supervisorLog app span).filter (·.reads said.line.2)).map (·.fields)
      = ((r.world.trace.told Event.verdict?).filter (·.1 = said)).map fun v => v.2.fields := by
  rw [Trace.told, List.filter_filterMap]
  refine map_filter_supervisorLog ?_
  rintro ⟨time, phase, event⟩
  cases event with
  | failureReported lateness culprit => cases lateness <;> cases said <;> rfl
  | teardownReported index deadline outcome => cases outcome <;> cases said <;> rfl
  | _ => cases said <;> rfl

/-- What the log of a run says of failed entry routines, if its wait was ended by `cause` and its
result is `first`. -/
structure FailureLines (app : Application) (span : Option String) (cause : Sight)
    (first : Option Culprit) (r : Run) : Prop where
  /-- A failure has ended the wait, and is the result; or the external trigger, which has fired. -/
  caused : (∃ culprit, cause = .failed culprit ∧ first = some culprit) ∨
    cause = .triggered ∧ app.trigger.Fired r.world
  /-- There is one line for each entry routine that has failed or panicked, and no other. -/
  once : (((r.supervisorLog app span).filter LogLine.isFailure).map (·.fields)).Perm
    ((r.failedEntries app).map Culprit.fields)
  /-- One of them is of the first kind exactly if a failure has ended the wait. -/
  before : ((r.supervisorLog app span).filter (·.reads "Component error before shutdown")).length
    = match cause with
      | .failed _ => 1
      | _ => 0
  /-- One is of the second kind exactly if the trigger has, and some entry routine has failed. -/
  draining : ((r.supervisorLog app span).filter
      (·.reads "Component failed while draining")).length
    = if cause = .triggered ∧ r.failedEntries app ≠ [] then 1 else 0
  /-- All others are of the third kind. -/
  after : ((r.supervisorLog app span).filter (·.reads "Component error before shutdown")).length
      + ((r.supervisorLog app span).filter (·.reads "Component failed while draining")).length
      + ((r.supervisorLog app span).filter
          (·.reads "Component failed after shutdown was requested")).length
    = (r.failedEntries app).length
  /-- A line of one of the first two kinds names what the result names. -/
  named : ∀ line ∈ r.supervisorLog app span,
    line.reads "Component error before shutdown" ∨ line.reads "Component failed while draining" →
      ∃ culprit, first = some culprit ∧ line.fields = culprit.fields
  /-- There is none exactly if the run has ended well. -/
  silent : first = none ↔ ∀ line ∈ r.supervisorLog app span,
    line.reads "Component error before shutdown" = false ∧
      line.reads "Component failed while draining" = false

section FirstLines

variable {cause : Sight} {first : Option Culprit} {culprits : List Culprit}
  (hverdict : r.world.trace.told Event.verdict? = verdicts cause.lateness culprits)
  (hfirst : culprits.head? = first)
include hverdict hfirst

/-- What has been said of the first failure makes one line, which names the result. -/
lemma first_lines (said : Lateness) (hsaid : said ≠ .afterRequest) :
    ((r.supervisorLog app span).filter (·.reads said.line.2)).map (·.fields)
      = if cause.lateness = said then first.toList.map Culprit.fields else [] := by
  rw [lateness_lines said, hverdict, filter_verdicts hsaid, hfirst]
  split
  · rw [List.map_map]
    rfl
  · rfl

/-- There are as many lines of that kind as there are results that it can name. -/
lemma length_first_lines (said : Lateness) (hsaid : said ≠ .afterRequest) :
    ((r.supervisorLog app span).filter (·.reads said.line.2)).length
      = if cause.lateness = said then first.toList.length else 0 := by
  calc ((r.supervisorLog app span).filter (·.reads said.line.2)).length
      = (((r.supervisorLog app span).filter (·.reads said.line.2)).map (·.fields)).length :=
        (List.length_map _).symm
    _ = if cause.lateness = said then first.toList.length else 0 := by
        rw [first_lines hverdict hfirst said hsaid]
        split <;> simp

/-- A line of that kind names the result. -/
lemma first_line_names (said : Lateness) (hsaid : said ≠ .afterRequest) {line : LogLine}
    (hline : line ∈ r.supervisorLog app span) (hreads : line.reads said.line.2 = true) :
    ∃ culprit, first = some culprit ∧ line.fields = culprit.fields := by
  have hmem : line.fields ∈
      ((r.supervisorLog app span).filter (·.reads said.line.2)).map (·.fields) :=
    List.mem_map.mpr ⟨line, List.mem_filter.mpr ⟨hline, hreads⟩, rfl⟩
  rw [first_lines hverdict hfirst said hsaid] at hmem
  split at hmem
  · obtain ⟨culprit, hculprit, heq⟩ := List.mem_map.mp hmem
    exact ⟨culprit, Option.mem_toList.mp hculprit, heq.symm⟩
  · cases hmem

end FirstLines

/-- **The lines about failed entry routines.** -/
theorem failureLines_of_returned {signals : Signals} {wallClock : Nat → Timestamp}
    {labels : List Label} {first : Option Culprit}
    (h : (Run.initial app signals wallClock).steps? app labels = some r)
    (hc : r.control = .returned first) :
    FailureLines app span ((Run.initial app signals wallClock).cause app labels) first r := by
  obtain ⟨hreached, -⟩ := reached_of_steps? h
  obtain ⟨hverdict, hended⟩ := verdicts_of_returned h hc
  generalize (Run.initial app signals wallClock).cause app labels = cause at hverdict hended ⊢
  have hperm := hreached.culprits_perm hc
  have hfirst := hreached.head?_culprits hc
  have hnone : first = none ↔ r.failedEntries app = [] := by
    rw [← hfirst, List.head?_eq_none_iff, ← List.length_eq_zero_iff, hperm.length_eq,
      List.length_eq_zero_iff]
  have honce : (((r.supervisorLog app span).filter LogLine.isFailure).map (·.fields)).Perm
      ((r.failedEntries app).map Culprit.fields) := by
    rw [failure_lines, hverdict, map_verdicts]
    exact hperm.map _
  have hbefore : ((r.supervisorLog app span).filter
      (·.reads "Component error before shutdown")).length
        = if cause.lateness = .beforeShutdown then first.toList.length else 0 :=
    length_first_lines hverdict hfirst .beforeShutdown nofun
  have hdraining : ((r.supervisorLog app span).filter
      (·.reads "Component failed while draining")).length
        = if cause.lateness = .whileDraining then first.toList.length else 0 :=
    length_first_lines hverdict hfirst .whileDraining nofun
  have hnamed : ∀ line ∈ r.supervisorLog app span,
      line.reads "Component error before shutdown" ∨ line.reads "Component failed while draining" →
        ∃ culprit, first = some culprit ∧ line.fields = culprit.fields := by
    rintro line hline (hreads | hreads)
    · exact first_line_names hverdict hfirst .beforeShutdown nofun hline hreads
    · exact first_line_names hverdict hfirst .whileDraining nofun hline hreads
  refine ⟨hended, honce, ?_, ?_, ?_, hnamed, fun hnone' line hline => ?_, fun hall => ?_⟩
  · rw [hbefore]
    rcases hended with ⟨culprit, rfl, rfl⟩ | ⟨rfl, -⟩ <;> simp [Sight.lateness]
  · rw [hdraining]
    rcases hended with ⟨culprit, rfl, rfl⟩ | ⟨rfl, -⟩
    · simp [Sight.lateness]
    · cases first <;> simp [Sight.lateness, ← hnone]
  · rw [← length_filter_isFailure]
    simpa using honce.length_eq
  · have hnot : ¬ (line.reads "Component error before shutdown" = true ∨
        line.reads "Component failed while draining" = true) := fun hreads => by
      obtain ⟨culprit, hsome, -⟩ := hnamed line hline hreads
      cases hnone'.symm.trans hsome
    simpa using hnot
  · -- A line of the kind that belongs to what ended the wait would have been there.
    rw [List.filter_eq_nil_iff.mpr fun line hline => by simp [(hall line hline).1]] at hbefore
    rw [List.filter_eq_nil_iff.mpr fun line hline => by simp [(hall line hline).2]] at hdraining
    rcases hended with ⟨culprit, rfl, rfl⟩ | ⟨rfl, -⟩
    · simp [Sight.lateness] at hbefore
    · cases first with
      | none => rfl
      | some culprit => simp [Sight.lateness] at hdraining

/-! ### Lines about teardowns -/

end Run

/-- What an event says of the end of the run: the number of clean teardowns and that of all. -/
def Event.finished? : Event → Option (Nat × Nat)
  | .finished clean total => some (clean, total)
  | _ => none

/-- Whether there may be a line about an event. -/
def Event.isLogged (e : Event) : Bool := e.isOfSupervisor || e.isOfCoordinator

lemma Event.finished?_eq_none (e : Event) (h : e.isLogged = false) : e.finished? = none := by
  cases e <;> first | rfl | cases h

lemma Event.isLogged_of_isNote (e : Event) (h : e.isNote = true) : e.isLogged = false := by
  rw [isLogged, e.isOfSupervisor_of_isNote h, e.isOfCoordinator_of_isNote h]
  rfl

lemma Record.supervisorLine?_eq_none (registry : Registry) (span : Option String) (x : Record)
    (h : x.event.isLogged = false) : x.supervisorLine? registry span = none := by
  obtain ⟨time, phase, event⟩ := x
  cases event <;> first | rfl | cases h

/-- The names and deadlines of the registrations in their turn are those of the registrations, the
last one first. -/
lemma Registry.map_named_turn (registry : Registry) (fallback : Duration) :
    (List.range registry.size).map (fun k => (registry.nameAt (registry.turn k),
        registry.deadlineAt fallback (registry.turn k)))
      = (registry.entries.map fun entry => (entry.component.name,
          (entry.explicit.or entry.component.advertised).getD fallback)).reverse := by
  have hplaces : (List.range registry.size).map (fun index =>
        (registry.nameAt index, registry.deadlineAt fallback index))
      = registry.entries.map fun entry => (entry.component.name,
          (entry.explicit.or entry.component.advertised).getD fallback) := by
    refine List.ext_getElem (by simp [size]) fun index hindex hentry => ?_
    have hlt : index < registry.entries.length := by simpa using hentry
    have hsome := List.getElem?_eq_getElem hlt
    simp [nameAt, registry.deadlineAt_of_getElem? fallback hsome, hsome, Registration.name,
      Registration.effectiveDeadline_eq]
  calc (List.range registry.size).map (fun k => (registry.nameAt (registry.turn k),
        registry.deadlineAt fallback (registry.turn k)))
      = ((List.range registry.size).map registry.turn).map (fun index =>
          (registry.nameAt index, registry.deadlineAt fallback index)) := by
        rw [List.map_map]
        rfl
    _ = ((List.range registry.size).map (fun index =>
          (registry.nameAt index, registry.deadlineAt fallback index))).reverse := by
        rw [registry.map_turn, List.map_reverse]
    _ = (registry.entries.map fun entry => (entry.component.name,
          (entry.explicit.or entry.component.advertised).getD fallback)).reverse := by
        rw [hplaces]

namespace Run

/-- The end of the run is the last thing that is logged, when the supervisor has returned, and until
then it is not; it counts the teardowns as reported. -/
def Ended (r : Run) : Prop :=
  match r.control with
  | .returned _ => ∃ time phase, ∃ earlier : Trace, r.world.trace.about Event.isLogged
      = ⟨time, phase, .finished r.teardown.clean r.teardown.reports.length⟩ :: earlier ∧
        earlier.told Event.finished? = []
  | _ => r.world.trace.told Event.finished? = []

/-- **The end of the run is logged last.** -/
theorem Reached.ended (h : Reached app r) : Ended r := by
  have hnote := Event.isLogged_of_isNote
  induction h with
  | initial signals wallClock =>
      have hnone : (Run.initial app signals wallClock).world.trace.told Event.finished? = [] :=
        told_initial signals wallClock (fun e he => e.finished?_eq_none (hnote e he)) fun _ _ => rfl
      exact hnone
  | @move r r' h hm ih =>
      have hstay : r'.control = r.control → r'.teardown.reports = r.teardown.reports →
          r'.world.trace.about Event.isLogged = r.world.trace.about Event.isLogged →
            Ended r' := by
        intro hc hreports hv
        have hclean : r'.teardown.clean = r.teardown.clean := by
          rw [Teardown.clean, Teardown.clean, hreports]
        rw [Ended, hc, hclean, hreports, hv, Trace.told_congr Event.finished?_eq_none hv]
        exact ih
      cases hm with
      | launch hc =>
          obtain ⟨signals, listener, seen, heq, hseen⟩ := launch_eq app r
          rw [Ended, hc] at ih
          rw [Ended, heq]
          rcases hseen with rfl | ⟨live, rfl⟩ <;> simp [ih, Event.finished?]
      | skim hc he hok => exact hstay rfl rfl rfl
      | fail hc he hf =>
          rw [Ended, hc] at ih
          simp [Ended, beginDrain, ih, Event.finished?]
      | trigger prefers hc hd =>
          obtain ⟨signals, seen, heq, hseen⟩ := observeSignal_eq prefers r
          rw [Ended, hc] at ih
          rw [Ended, heq]
          rcases hseen with rfl | ⟨signal, rfl⟩ <;> simp [beginDrain, ih, Event.finished?]
      | collect hc =>
          rw [Ended, hc] at ih
          exact ih
      | @judge first drained hc he hp =>
          have hnone : (reportFailures first drained).2.filterMap Event.finished? = [] :=
            List.filterMap_eq_nil_iff.mpr (forall_reportFailures first drained fun _ _ => rfl)
          rw [Ended, hc] at ih
          show Trace.told _ _ = []
          rw [Trace.told_emitAll, hnone, List.append_nil, ih]
      | @coordinate t w hc hm =>
          have htold : w.trace.told Event.finished? = r.world.trace.told Event.finished? := by
            cases hm <;> simp [Event.finished?]
          rcases hc with ⟨first, hc⟩ | hc <;>
          · rw [Ended, hc] at ih
            simpa only [Ended, hc, htold] using ih
      | @finish first hc ho =>
          obtain ⟨signals, heq⟩ := finish_eq first r
          rw [Ended, hc] at ih
          rw [heq]
          refine ⟨r.world.now, .stopped,
            ⟨r.world.now, .stopped, .entered .stopped⟩ :: r.world.trace.about Event.isLogged,
            ?_, ?_⟩
          · simp [Event.isLogged, Event.isOfSupervisor]
          · rw [Trace.told_cons, Trace.told_about Event.finished?_eq_none, ih]
            rfl
      | spawnEntry he ht => exact hstay rfl rfl rfl
      | reportExit he ht => exact hstay rfl rfl rfl
      | entry he ht hr hp =>
          exact hstay rfl rfl ((EntryTask.advances_of_ready hr hp).about_eq_of_other hnote rfl
            fun _ => rfl)
      | teardown ht hr hp =>
          exact hstay rfl rfl ((Task.advances_of_ready hr hp).about_eq_of_other hnote rfl
            fun _ => rfl)
      | @job owner number fires hr =>
          exact hstay rfl rfl ((World.pollLoop_ripples r.world owner number fires).about_eq hnote)
      | deliver hw => exact hstay rfl rfl rfl
      | tick hq hp hn => exact hstay rfl rfl rfl

/-- What the log of a run says of the teardowns. -/
structure TeardownLines (app : Application) (span : Option String) (r : Run) : Prop where
  /-- Each registration has been reported once, the last one first, with its own deadline, else the
  one that its component advertises, else the default. -/
  reported : r.teardown.reports.map (fun report => (report.name, report.deadline))
    = (app.registry.entries.map fun entry => (entry.component.name,
        (entry.explicit.or entry.component.advertised).getD app.shutdownTimeout)).reverse
  /-- Each has one line about the beginning of its teardown. -/
  stopping : ((r.supervisorLog app span).filter (·.reads "Stopping component")).map (·.fields)
    = (app.registry.entries.map fun entry => stopFields entry.component.name
        ((entry.explicit.or entry.component.advertised).getD app.shutdownTimeout)).reverse
  /-- The lines about faults are those of the reports, in order. -/
  faults : ((r.supervisorLog app span).filter LogLine.isFault).map
      (fun line => (line.level, line.message, line.fields))
    = r.teardown.reports.filterMap fun report =>
        match report.outcome with
        | .completed => none
        | .failed failure => some (.error, "Stop error",
            [("component", .text report.name), ("error", .text failure.message)])
        | .panicked payload => some (.error, "Stop panicked",
            [("component", .text report.name), ("error", .text (describePanic payload))])
        | .timedOut => some (.warn, "Stop timed out",
            [("component", .text report.name),
              ("timeout_ms", .number (report.deadline.millis % 2 ^ 64))])
  /-- A report has one exactly if the teardown was not completed. -/
  faulty : ∀ report ∈ r.teardown.reports,
    (report.outcome.fault? report.name report.deadline).isSome = true ↔
      report.outcome ≠ .completed
  /-- The last line counts all registrations, and as clean those that have no line about a fault;
  there is no other of its kind. -/
  stopped : ∃ line clean, (r.supervisorLog app span).getLast? = some line ∧
    (r.supervisorLog app span).filter (·.reads "Application stopped") = [line] ∧
    line.fields = [("clean", .number clean), ("total", .number app.registry.size)] ∧
    clean + ((r.supervisorLog app span).filter LogLine.isFault).length = app.registry.size

/-- The lines about the beginnings of teardowns are those of the spawns. -/
lemma stopping_lines : ((r.supervisorLog app span).filter (·.reads "Stopping component")).map
      (·.fields)
    = r.world.trace.spawns.map fun spawn =>
        stopFields (app.registry.nameAt spawn.2.1) spawn.2.2 := by
  refine map_filter_supervisorLog ?_
  rintro ⟨time, phase, event⟩
  cases event with
  | failureReported lateness culprit => cases lateness <;> rfl
  | teardownReported index deadline outcome => cases outcome <;> rfl
  | _ => rfl

/-- The lines about faults are those of the reports. -/
lemma fault_lines : ((r.supervisorLog app span).filter LogLine.isFault).map
      (fun line => (line.level, line.message, line.fields))
    = r.world.trace.reports.filterMap fun report =>
        report.2.2.2.fault? (app.registry.nameAt report.2.1) report.2.2.1 := by
  rw [Trace.reports, List.filterMap_filterMap, ← List.map_id (List.filterMap _ _)]
  refine map_filter_supervisorLog ?_
  rintro ⟨time, phase, event⟩
  cases event with
  | failureReported lateness culprit => cases lateness <;> rfl
  | teardownReported index deadline outcome => cases outcome <;> rfl
  | _ => rfl

/-- The line about the end of the run is that of its record. -/
lemma stopped_lines : ((r.supervisorLog app span).filter (·.reads "Application stopped")).map
      (·.fields)
    = (r.world.trace.told Event.finished?).map fun counts =>
        [("clean", .number counts.1), ("total", .number counts.2)] := by
  refine map_filter_supervisorLog (f := fun x => x.event.finished?) ?_
  rintro ⟨time, phase, event⟩
  cases event with
  | failureReported lateness culprit => cases lateness <;> rfl
  | teardownReported index deadline outcome => cases outcome <;> rfl
  | _ => rfl

/-- When the end of the run is logged last its line is the last one. -/
lemma last_line {time : Nat} {phase : Phase} {clean total : Nat} {earlier : Trace}
    (hlogged : r.world.trace.about Event.isLogged
      = ⟨time, phase, .finished clean total⟩ :: earlier) :
    ∃ line, (r.supervisorLog app span).getLast? = some line ∧
      line.reads "Application stopped" = true := by
  have hlines : r.records.filterMap (Record.supervisorLine? app.registry span)
      = (earlier.filterMap (Record.supervisorLine? app.registry span)).reverse ++
        [⟨time, .info, span, "Application stopped",
          [("clean", .number clean), ("total", .number total)]⟩] := by
    rw [records, List.filterMap_reverse,
      ← Trace.filterMap_about (Record.supervisorLine?_eq_none app.registry span), hlogged]
    simp [Record.supervisorLine?]
  exact ⟨_, by rw [supervisorLog, hlines, List.getLast?_concat], by simp [LogLine.reads]⟩

/-- **The lines about teardowns.** -/
theorem Reached.teardownLines (h : Reached app r) {first : Option Culprit}
    (hc : r.control = .returned first) : TeardownLines app span r := by
  obtain ⟨_, _, -, -, htearing⟩ := h.tearing ⟨first, .inr hc⟩
  obtain ⟨p, hledger⟩ := htearing.ledger
  have hbooks := hledger.books
  have hreports := hledger.isOver_iff.mp (htearing.isOver_of_returned hc)
  have htasks : r.teardown.tasks.length = app.registry.size := by
    have hle := hbooks.reports_le
    have hlength := hbooks.length_eq
    omega
  have hended := h.ended
  rw [Ended, hc] at hended
  obtain ⟨time, phase, earlier, hlogged, hearlier⟩ := hended
  have hfaults : ((r.supervisorLog app span).filter LogLine.isFault).map
        (fun line => (line.level, line.message, line.fields))
      = r.teardown.reports.filterMap fun report =>
          report.outcome.fault? report.name report.deadline := by
    rw [fault_lines, hbooks.reports_eq, List.filterMap_map]
    conv_rhs => rw [hbooks.named, List.filterMap_map]
    rfl
  have hfinished : r.world.trace.told Event.finished?
      = [(r.teardown.clean, app.registry.size)] := by
    rw [← Trace.told_about Event.finished?_eq_none, hlogged, Trace.told_cons, hearlier, hreports]
    rfl
  obtain ⟨line, hlast, hreads⟩ : ∃ line, (r.supervisorLog app span).getLast? = some line ∧
    line.reads "Application stopped" = true := last_line hlogged
  have hstopped : ((r.supervisorLog app span).filter
      (·.reads "Application stopped")).map (·.fields)
        = [[("clean", .number r.teardown.clean), ("total", .number app.registry.size)]] := by
    rw [stopped_lines, hfinished]
    rfl
  obtain ⟨only, honly, hfields⟩ := List.map_eq_singleton_iff.mp hstopped
  have hmem : line ∈ (r.supervisorLog app span).filter (·.reads "Application stopped") :=
    List.mem_filter.mpr ⟨List.mem_of_getLast? hlast, hreads⟩
  obtain rfl : line = only := List.mem_singleton.mp (honly ▸ hmem)
  refine ⟨?_, ?_, hfaults, fun report _ => ?_, line, r.teardown.clean, hlast, honly, hfields, ?_⟩
  · rw [hbooks.named, hreports, List.map_map]
    exact app.registry.map_named_turn app.shutdownTimeout
  · rw [stopping_lines, hbooks.spawns_eq, htasks, List.map_map]
    have hnamed := congrArg (List.map fun named => stopFields named.1 named.2)
      (app.registry.map_named_turn app.shutdownTimeout)
    rw [List.map_reverse, List.map_map, List.map_map] at hnamed
    exact hnamed
  · exact report.outcome.isSome_fault?_iff report.name report.deadline
  · have hlength := congrArg List.length hfaults
    rw [List.length_map, List.length_filterMap_eq_countP] at hlength
    rw [hlength, Teardown.clean, ← List.countP_eq_length_filter, ← hreports,
      List.length_eq_countP_add_countP fun report : TeardownReport =>
        decide (report.outcome = .completed)]
    refine congrArg _ (List.countP_congr fun report _ => ?_)
    simp [Outcome.isSome_fault?_iff]

/-- **Every failure is logged once.**  In the log of a run that has returned, whatever the
components do and in whatever order the tasks go on, each entry routine that has failed or panicked
has one line, of the kind that belongs to what has ended the wait; each registration has one line
about the beginning of its teardown, and one about a fault exactly if that was not completed; and
the last line counts them. -/
theorem failures_logged_once (app : Application) (signals : Signals)
    (wallClock : Nat → Timestamp) (labels : List Label) (r : Run) (first : Option Culprit)
    (span : Option String) (h : (Run.initial app signals wallClock).steps? app labels = some r)
    (hr : r.result? = some first) :
    FailureLines app span ((Run.initial app signals wallClock).cause app labels) first r ∧
      TeardownLines app span r :=
  ⟨failureLines_of_returned h (control_of_result? hr),
    (reached_of_steps? h).1.teardownLines (control_of_result? hr)⟩

/-- The failure of the server ends the wait of its service. -/
theorem failures_of_storeAndServer : ∃ r,
    (Run.initial .storeAndServer .fresh fun _ => 0).steps? .storeAndServer storeAndServerSchedule
        = some r ∧
      r.result? = some (some ⟨"server", { root := "boom" }⟩) ∧
      FailureLines .storeAndServer none (.failed ⟨"server", { root := "boom" }⟩)
        (some ⟨"server", { root := "boom" }⟩) r ∧
      TeardownLines .storeAndServer none r :=
  ⟨_, rfl, rfl, failures_logged_once .storeAndServer .fresh (fun _ => 0) storeAndServerSchedule _ _
    none rfl rfl⟩

end Run

end ServiceSupervisor
