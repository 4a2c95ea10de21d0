import ServiceSupervisor.Disposal
import ServiceSupervisor.Proofs.Entries
import ServiceSupervisor.Proofs.PanicAsError
import ServiceSupervisor.Proofs.Quiet

/-!
Which panics a run contains.

Take two applications that differ in nothing but this: where some routines of the first one panic,
those of the second one return errors.  Whoever learns of a panic disposes of what it carries, and
the two go on in lockstep as long as the disposal goes quietly.  One that panics in turn either
takes a watching task with it, and the supervisor never learns of the exit, or it comes out of the
run.

* `Run.Disposes`: a step disposes of a volatile payload; the run of the twin does so at no other
  step (`Run.Alike.disposes`);
* `Exposed.contains_iff`: a schedule leaves a run intact exactly if no step of it disposes of one;
* `Exposed.alike_steps?`: and then the two runs go in lockstep;
* `Run.Lost`, `Run.Forsaken`: a routine whose exit is lost, and a run from which a panic has come;
* `Exposed.Step`, `Exposed.Sound`: all that a step can do, and what it keeps;
* `Exposed.Sound.scarred`: what the disposals have done to a run is not undone;
* `Exposed.panic_as_error`: the theorem on two applications.
-/

namespace ServiceSupervisor

variable {app : Application} {payloads : Actor → Payload} {r r' : Run}

/-! ### What is volatile -/

lemma Ending.residue?_eq_some_iff {ending : Ending} {payload residue : Payload} :
    ending.residue? payload = some residue ↔
      ending = .panicked none ∧ payload.residue? = some residue := by
  cases ending with
  | panicked text => cases text <;> simp [Ending.residue?]
  | _ => simp [Ending.residue?]

namespace Run

/-- A watching task panics where it would report a panic with a volatile payload. -/
lemma watchResidue?_eq_some_iff {index : Nat} {residue : Payload} :
    r.watchResidue? payloads index = some residue ↔
      r.startup.entries[index]? = some (.watched (.ended (.panicked none))) ∧
        (payloads (.entry index)).residue? = some residue := by
  rw [watchResidue?]
  split
  · rename_i ending hentry
    rw [Ending.residue?_eq_some_iff, hentry]
    simp
  · rename_i hnot
    refine iff_of_false nofun fun h => hnot _ h.1

/-- The coordinator panics where it would report a panic with a volatile payload. -/
lemma teardownResidue?_eq_some_iff {task : TeardownTask} {residue : Payload} :
    r.teardownResidue? payloads = some (task, residue) ↔
      ((∃ first, r.control = .stopping first) ∨ r.control = .byHand) ∧
        (∃ until_, r.teardown.awaited = some (task, until_)) ∧
        task.task.ending? = some (.panicked none) ∧
        (payloads (.teardown task.index)).residue? = some residue := by
  have hmatch : r.teardownResidue? payloads = some (task, residue) ↔
      ((∃ first, r.control = .stopping first) ∨ r.control = .byHand) ∧
        (do
          let awaited ← r.teardown.awaited
          let ending ← awaited.1.task.ending?
          let residue ← ending.residue? (payloads (.teardown awaited.1.index))
          return (awaited.1, residue)) = some (task, residue) := by
    rw [teardownResidue?]
    cases r.control <;> simp
  rw [hmatch]
  refine and_congr_right fun _ => ?_
  constructor
  · intro h
    obtain ⟨⟨waited, until_⟩, hawaited, h⟩ := Option.bind_eq_some_iff.mp h
    obtain ⟨ending, hending, h⟩ := Option.bind_eq_some_iff.mp h
    obtain ⟨left, hleft, h⟩ := Option.bind_eq_some_iff.mp h
    cases h
    obtain ⟨rfl, hvolatile⟩ := Ending.residue?_eq_some_iff.mp hleft
    exact ⟨⟨until_, hawaited⟩, hending, hvolatile⟩
  · rintro ⟨⟨until_, hawaited⟩, hending, hvolatile⟩
    simp [hawaited, hending, Ending.residue?, hvolatile]

/-- A step disposes of a volatile payload: a watching task does that is about to report a panic with
such a payload, or the supervisor that waits for a teardown which has panicked with one. -/
def Disposes (payloads : Actor → Payload) (r : Run) : Label → Prop
  | .watch index =>
    r.startup.entries[index]? = some (.watched (.ended (.panicked none))) ∧
      (payloads (.entry index)).residue? ≠ none
  | .supervisor _ _ =>
    ((∃ first, r.control = .stopping first) ∨ r.control = .byHand) ∧
      ∃ task until_, r.teardown.awaited = some (task, until_) ∧
        task.task.ending? = some (.panicked none) ∧
        (payloads (.teardown task.index)).residue? ≠ none
  | _ => False

lemma disposes_watch_iff {index : Nat} :
    r.Disposes payloads (.watch index) ↔ r.watchResidue? payloads index ≠ none := by
  simp only [Disposes, Option.ne_none_iff_exists', watchResidue?_eq_some_iff,
    exists_and_left]

lemma disposes_supervisor_iff {patience : Nat} {prefers : Signal} :
    r.Disposes payloads (.supervisor patience prefers) ↔ r.teardownResidue? payloads ≠ none := by
  simp only [Disposes, Option.ne_none_iff_exists', Prod.exists, teardownResidue?_eq_some_iff]
  constructor
  · rintro ⟨hcontrol, task, until_, hawaited, hending, residue, hvolatile⟩
    exact ⟨task, residue, hcontrol, ⟨until_, hawaited⟩, hending, hvolatile⟩
  · rintro ⟨task, residue, hcontrol, ⟨until_, hawaited⟩, hending, hvolatile⟩
    exact ⟨hcontrol, task, until_, hawaited, hending, residue, hvolatile⟩

/-- A supervisor that disposes of something can go on. -/
lemma supervisorReady_of_disposes {patience : Nat} {prefers : Signal}
    (h : r.Disposes payloads (.supervisor patience prefers)) : r.supervisorReady app = true := by
  obtain ⟨hcontrol, task, until_, hawaited, hending, -⟩ := h
  have hready : r.teardown.ready r.world = true := by
    simp [Teardown.ready, hawaited, Teardown.outcome?, hending]
  rcases hcontrol with ⟨first, hc⟩ | hc <;> simp only [supervisorReady, hc, hready]

end Run

/-! ### Steps that dispose of nothing volatile -/

namespace Exposed

variable {label : Run.Label}

@[simp] lemma run_ofRun (r : Run) : (ofRun r).run = r := rfl

lemma intact_ofRun (r : Run) : (ofRun r).Intact := ⟨rfl, rfl⟩

lemma supervisorReady_ofRun : (ofRun r).supervisorReady app = r.supervisorReady app := by
  simp [supervisorReady, ofRun]

/-- A step that disposes of nothing volatile is a step of the run. -/
lemma step?_of_not_disposes (h : ¬ r.Disposes payloads label) :
    (ofRun r).step? app payloads label = (r.step? app label).map ofRun := by
  cases label with
  | supervisor patience prefers =>
      have hnone := not_not.mp (mt Run.disposes_supervisor_iff.mpr h)
      rw [step?, Run.step?, supervisorReady_ofRun]
      split
      · simp only [supervise, run_ofRun, hnone]
        rfl
      · rfl
  | watch index =>
      rw [step?, run_ofRun, not_not.mp (mt Run.disposes_watch_iff.mpr h)]
      rfl
  | tick =>
      rw [step?, supervisorReady_ofRun]
      cases hready : r.supervisorReady app with
      | false => rfl
      | true => simp [Run.step?, Run.isQuiet, hready]
  | _ => rfl

/-- A step that disposes of a volatile payload does harm. -/
lemma exists_of_disposes (h : r.Disposes payloads label) :
    ∃ e, (ofRun r).step? app payloads label = some e ∧ ¬ e.Intact := by
  cases label with
  | supervisor patience prefers =>
      obtain ⟨⟨task, residue⟩, hresidue⟩ :=
        Option.ne_none_iff_exists'.mp (Run.disposes_supervisor_iff.mp h)
      refine ⟨_, if_pos (supervisorReady_ofRun.trans (Run.supervisorReady_of_disposes h)),
        fun hintact => ?_⟩
      simp only [supervise, run_ofRun, hresidue] at hintact
      cases hintact.2
  | watch index =>
      obtain ⟨residue, hresidue⟩ := Option.ne_none_iff_exists'.mp (Run.disposes_watch_iff.mp h)
      refine ⟨(ofRun r).fall index residue, by rw [step?, run_ofRun, hresidue],
        fun hintact => ?_⟩
      cases hintact.1
  | _ => exact h.elim

end Exposed

/-! ### Twins -/

section Twins

variable {x : Exchange}

/-- An error that has come in the place of a panic is nothing to dispose of. -/
lemma Ending.Alike.eq_of_panicked {swaps : Option String → Failure → Prop} {ending : Ending}
    {payload : Option String} (h : ending.Alike swaps (.panicked payload)) :
    ending = .panicked payload := by
  cases h
  rfl

/-- **A run has all the disposals of its twin.** -/
theorem Run.Alike.disposes (h : r.Alike x r') {label : Run.Label}
    (hd : r'.Disposes payloads label) : r.Disposes payloads label := by
  cases label with
  | supervisor patience prefers =>
      obtain ⟨hcontrol, task', until_, hawaited, hending, hvolatile⟩ := hd
      refine ⟨?_, ?_⟩
      · have halike := h.control
        rcases hcontrol with ⟨first', hc'⟩ | hc'
        · rw [hc'] at halike
          generalize r.control = control at halike ⊢
          cases halike
          exact .inl ⟨_, rfl⟩
        · rw [hc'] at halike
          generalize r.control = control at halike ⊢
          cases halike
          exact .inr rfl
      · rcases rel_cases h.teardown.awaited with ⟨-, ha'⟩ | ⟨⟨task, time⟩, p', ha, ha', hp, -⟩
        · rw [hawaited] at ha'
          cases ha'
        · obtain rfl := Option.some.inj (hawaited.symm.trans ha')
          refine ⟨task, time, ha, ?_, hp.index ▸ hvolatile⟩
          have htask := hp.task
          rw [Task.eq_ended hending] at htask
          generalize task.task = routine at htask ⊢
          cases htask with
          | ended hpanic => rw [hpanic.eq_of_panicked, Task.ending?]
  | watch index =>
      obtain ⟨hentry, hvolatile⟩ := hd
      refine ⟨?_, hvolatile⟩
      rcases h.startup.entries.cases index with ⟨-, ht'⟩ | ⟨task, task', ht, ht', halike⟩
      · rw [hentry] at ht'
        cases ht'
      · obtain rfl := Option.some.inj (hentry.symm.trans ht')
        cases halike with
        | watched htask =>
            cases htask with
            | ended hending => rw [ht, hending.eq_of_panicked]
  | _ => exact hd

/-! ### Schedules on which no disposal panics -/

namespace Exposed

/-- No disposal panics on a schedule. -/
def Contains (app : Application) (payloads : Actor → Payload) (e : Exposed)
    (labels : List Run.Label) : Prop :=
  ∀ before e', before <+: labels → e.steps? app payloads before = some e' → e'.Intact

variable {label : Run.Label} {labels : List Run.Label}

/-- The first step is then a step of the run. -/
lemma Contains.not_disposes (h : (ofRun r).Contains app payloads (label :: labels)) :
    ¬ r.Disposes payloads label := by
  intro hd
  obtain ⟨e, hstep, hharm⟩ := exists_of_disposes hd
  refine hharm (h [label] e (by simp) ?_)
  rw [steps?, hstep]
  rfl

/-- The others are then steps of the run, too. -/
lemma Contains.tail (h : (ofRun r).Contains app payloads (label :: labels)) {next : Run}
    (hnext : r.step? app label = some next) : (ofRun next).Contains app payloads labels := by
  intro before e hbefore hsteps
  refine h (label :: before) e ((List.cons_prefix_cons).mpr ⟨rfl, hbefore⟩) ?_
  rw [steps?, step?_of_not_disposes h.not_disposes, hnext]
  exact hsteps

/-- **A disposal panics exactly if a step of the run disposes of a volatile payload.** -/
theorem contains_iff : (ofRun r).Contains app payloads labels ↔ ∀ before label next,
    before ++ [label] <+: labels → r.steps? app before = some next →
      ¬ next.Disposes payloads label := by
  induction labels generalizing r with
  | nil =>
      refine ⟨fun _ before label next hbefore => ?_, fun _ before e hbefore hsteps => ?_⟩
      · simp at hbefore
      · obtain rfl := List.prefix_nil.mp hbefore
        obtain rfl := Option.some.inj hsteps
        exact intact_ofRun r
  | cons label labels ih =>
      constructor
      · intro hc before other next hbefore hsteps
        cases before with
        | nil =>
            obtain ⟨rfl, -⟩ := List.cons_prefix_cons.mp hbefore
            obtain rfl := Option.some.inj hsteps
            exact hc.not_disposes
        | cons first before =>
            obtain ⟨rfl, hrest⟩ := List.cons_prefix_cons.mp hbefore
            obtain ⟨second, hsecond, hsteps⟩ := Option.bind_eq_some_iff.mp hsteps
            exact ih.mp (hc.tail hsecond) before other next hrest hsteps
      · intro hquiet before e hbefore hsteps
        cases before with
        | nil =>
            obtain rfl := Option.some.inj hsteps
            exact intact_ofRun r
        | cons first before =>
            obtain ⟨rfl, hrest⟩ := List.cons_prefix_cons.mp hbefore
            have hfirst := hquiet [] first r (by simp) rfl
            rw [steps?, step?_of_not_disposes hfirst] at hsteps
            obtain ⟨e', hnext, hsteps⟩ := Option.bind_eq_some_iff.mp hsteps
            obtain ⟨next, hstep, rfl⟩ := Option.map_eq_some_iff.mp hnext
            refine ih.mpr (fun middle other last hmiddle hlast => ?_) before e hrest hsteps
            refine hquiet (first :: middle) other last
              (List.cons_prefix_cons.mpr ⟨rfl, hmiddle⟩) ?_
            rw [Run.steps?, hstep]
            exact hlast

/-- **Where no disposal panics a run and its twin go in lockstep**, and no disposal panics in the
twin. -/
theorem alike_steps? (h : r.Alike x r') (hc : (ofRun r).Contains x.panicking payloads labels) :
    Option.Rel (fun e e' => ∃ s s', e = ofRun s ∧ e' = ofRun s' ∧ s.Alike x s')
      ((ofRun r).steps? x.panicking payloads labels)
      ((ofRun r').steps? x.returning payloads labels) := by
  induction labels generalizing r r' with
  | nil => exact .some ⟨r, r', rfl, rfl, h⟩
  | cons label labels ih =>
      have hquiet := hc.not_disposes
      rw [steps?, steps?, step?_of_not_disposes hquiet,
        step?_of_not_disposes fun hd => hquiet (h.disposes hd)]
      rcases rel_cases (h.step? label) with ⟨hs, hs'⟩ | ⟨next, next', hs, hs', hnext⟩
      · rw [hs, hs']
        exact .none
      · rw [hs, hs']
        exact ih hnext (hc.tail hs)

end Exposed

end Twins

/-! ### What a panic does that is not contained -/

namespace Run

/-- A routine has panicked, and its watching task has panicked in turn: there is nothing to be
reported of it any more. -/
structure Lost (index : Nat) (r : Run) : Prop where
  entry : r.startup.entries[index]? = some (.reported (.panicked none))
  records : ∃ start time phase phase', r.world.trace.about (Event.concernsEntry index)
    = [⟨time, phase', .entryEnded index (.panicked none)⟩, ⟨start, phase, .entryBegun index⟩]

/-- What is recorded of a routine whose exit is lost. -/
lemma Lost.hushed {index : Nat} (h : r.Lost index) :
    (∃ time phase, ⟨time, phase, .entryEnded index (.panicked none)⟩ ∈ r.world.trace) ∧
      ∀ time phase ending, ⟨time, phase, .exitReported index ending⟩ ∉ r.world.trace := by
  obtain ⟨start, time, phase, phase', hrecords⟩ := h.records
  have hmem : ∀ record : Record, record.event.concernsEntry index = true →
      (record ∈ r.world.trace ↔ record = ⟨time, phase', .entryEnded index (.panicked none)⟩ ∨
        record = ⟨start, phase, .entryBegun index⟩) := by
    intro record hconcerns
    have hiff : record ∈ r.world.trace.about (Event.concernsEntry index) ↔ _ :=
      Trace.mem_about.trans (and_iff_left hconcerns)
    rw [← hiff, hrecords]
    simp
  refine ⟨⟨time, phase', (hmem _ (by simp [Event.concernsEntry])).mpr (.inl rfl)⟩, ?_⟩
  intro time phase ending hreported
  simpa using (hmem _ (by simp [Event.concernsEntry])).mp hreported

/-- Nothing happens any more to a routine whose exit is lost. -/
lemma Lost.move {index : Nat} (h : r.Lost index) (hm : Move app r r')
    (hlaunch : r.control = .idle → r.startup = .empty) : r'.Lost index := by
  have hwider : ∀ e, Event.concernsEntry index e = true → e.isOfEntries = true :=
    fun _ => Event.isOfEntries_of_concernsEntry
  have hnote : ∀ e : Event, e.isNote = true → e.concernsEntry index = false :=
    fun e => Event.concernsEntry_of_isNote e
  have hentry := h.entry
  suffices hsame : r'.startup.entries[index]? = r.startup.entries[index]? ∧
      r'.world.trace.about (Event.concernsEntry index)
        = r.world.trace.about (Event.concernsEntry index) by
    exact ⟨hsame.1.trans hentry, hsame.2 ▸ h.records⟩
  have hother : ∀ {i : Nat} {task : EntryTask}, r.startup.entries[i]? = some task →
      task ≠ .reported (.panicked none) → i ≠ index := by
    rintro i task ht hne rfl
    exact hne (Option.some.inj (ht.symm.trans hentry))
  rw [← about_entryTrace hwider, ← about_entryTrace hwider]
  cases hm.entrySide with
  | launch hc hs hnow hv =>
      rw [hlaunch hc] at hentry
      cases hentry
  | spawn i routine ht hs hnow hv =>
      have hne := hother ht nofun
      exact ⟨by rw [hs, getElem?_set_cases ht, if_neg hne], by rw [hv]⟩
  | report i entry ending he ht hs hx hnow hv =>
      have hne := hother ht nofun
      refine ⟨by rw [hs, getElem?_set_cases ht, if_neg hne], ?_⟩
      rw [hv, Trace.about_cons, if_neg (by simpa [Event.concernsEntry])]
  | poll i owner task polled ht hr hs hadv =>
      have hne := hother ht (by rintro rfl; cases hr)
      have hfalse : (i == index) = false := beq_false_of_ne hne
      refine ⟨by rw [hs, getElem?_set_cases ht, if_neg hne], ?_⟩
      rw [about_entryTrace hwider, about_entryTrace hwider]
      exact hadv.about_eq_of_other hnote hfalse fun _ => hfalse
  | rest hs hv hnow => exact ⟨by rw [hs], by rw [hv]⟩

/-- The supervisor has been dropped, and all watching tasks with it. -/
structure Forsaken (r : Run) : Prop where
  control : r.control = .abandoned
  entries : ∀ task ∈ r.startup.entries,
    (∃ ending, task = .reported ending) ∨ ∃ routine, task = .unwatched routine

/-- A run that has been dropped stays so. -/
lemma Forsaken.move (h : r.Forsaken) (hm : Move app r r') : r'.Forsaken := by
  have hcontrol := h.control
  constructor
  · cases hm.supervisorSide with
    | stay hc hphase hv hnow => exact hc.trans hcontrol
    | tick instant hq hp hn hr => exact hr ▸ hcontrol
    | launch hc => rw [hcontrol] at hc; cases hc
    | fail _ _ _ hc => rw [hcontrol] at hc; cases hc
    | trigger _ hc => rw [hcontrol] at hc; cases hc
    | collect _ _ hc => rw [hcontrol] at hc; cases hc
    | judge _ _ hc => rw [hcontrol] at hc; cases hc
    | finish _ hc => rw [hcontrol] at hc; cases hc
  · intro task htask
    cases hm.entrySide with
    | launch hc hs hnow hv => rw [hcontrol] at hc; cases hc
    | spawn i routine ht hs hnow hv => simpa using h.entries _ (List.mem_of_getElem? ht)
    | report i entry ending he ht hs hx hnow hv =>
        simpa using h.entries _ (List.mem_of_getElem? ht)
    | poll i owner old polled ht hr hs hadv =>
        rw [hs] at htask
        rcases List.mem_or_eq_of_mem_set htask with hmem | rfl
        · exact h.entries task hmem
        · rcases h.entries old (List.mem_of_getElem? ht) with ⟨ending, rfl⟩ | ⟨routine, rfl⟩
          · cases hr
          · exact .inr ⟨polled, rfl⟩
    | rest hs hv hnow => exact h.entries task (hs ▸ htask)

/-- No teardown is spawned once the run has been dropped. -/
lemma Forsaken.spawns_eq (h : r.Forsaken) (hm : Move app r r') :
    r'.world.trace.spawns = r.world.trace.spawns := by
  cases hm.teardownSide with
  | coordinate hc hmove hw => simp [h.control] at hc
  | poll number owner task polled ht hr hadv =>
      exact (Trace.spawns_reports_congr
        (hadv.about_eq_of_other Event.isOfCoordinator_of_isNote rfl fun _ => rfl)).1
  | rest hv => exact (Trace.views_congr hv).1.1

/-- A run that has not returned is dropped. -/
lemma abandon_eq (h : r.result? = none) : ∃ signals, r.abandon = { r with
    world := { r.world with signals }
    startup := r.startup.abandon
    control := .abandoned
    listener := none } := by
  rw [abandon, h]
  cases hlistener : r.listener with
  | none => exact ⟨r.world.signals, by simp [dropListener, hlistener]⟩
  | some number => exact ⟨r.world.signals.drop number, by simp [dropListener, hlistener]⟩

lemma forsaken_abandon (h : r.result? = none) : r.abandon.Forsaken := by
  obtain ⟨signals, heq⟩ := abandon_eq h
  rw [heq]
  refine ⟨rfl, fun task htask => ?_⟩
  obtain ⟨old, -, rfl⟩ := List.mem_map.mp htask
  cases old with
  | reported ending => exact .inl ⟨ending, rfl⟩
  | _ => exact .inr ⟨_, rfl⟩

/-- An exit that is lost stays lost when the run is dropped. -/
lemma Lost.abandon {index : Nat} (h : r.Lost index) (hresult : r.result? = none) :
    r.abandon.Lost index := by
  obtain ⟨signals, heq⟩ := abandon_eq hresult
  rw [heq]
  refine ⟨?_, h.records⟩
  simp only [Startup.abandon, List.getElem?_map, h.entry]
  rfl

end Run

namespace Exposed

variable {e e' : Exposed} {label : Run.Label}

/-- All that a step can do. -/
inductive Step (payloads : Actor → Payload) (app : Application) (e : Exposed) : Exposed → Prop
  /-- The run goes on. -/
  | moves {r : Run} {fallen : List Fallen} (hm : Run.Moves app e.run r) (hp : r.Parked) :
      Step payloads app e { e with run := r, fallen }
  /-- A watching task panics. -/
  | fall {index : Nat} {residue : Payload}
      (ht : e.run.startup.entries[index]? = some (.watched (.ended (.panicked none))))
      (hv : (payloads (.entry index)).residue? = some residue) :
      Step payloads app e (e.fall index residue)
  /-- The supervisor panics, after it has recorded something of its own. -/
  | escape {w : World} {residue : Payload} (hcontrol : e.run.control ≠ .abandoned)
      (hresult : e.run.result? = none)
      (hw : ∀ index, w.trace.about (Event.concernsEntry index)
        = e.run.world.trace.about (Event.concernsEntry index)) :
      Step payloads app e ({ e with run := { e.run with world := w } }.escape residue)

/-- A supervisor that can go on has not returned. -/
lemma open_of_supervisorReady (h : e.supervisorReady app = true) :
    e.run.control ≠ .abandoned ∧ e.run.result? = none := by
  cases hc : e.run.control <;>
    simp_all [supervisorReady, Run.supervisorReady, Run.awaitsExits, Run.result?]

/-- What the supervisor records before it panics is not about entry routines. -/
lemma about_meetFallen (patience : Nat) (prefers : Signal) (behind : Nat) (r : Run) :
    ∃ w, meetFallen app patience prefers behind r = { r with world := w } ∧
      ∀ index, w.trace.about (Event.concernsEntry index)
        = r.world.trace.about (Event.concernsEntry index) := by
  have hsupervisor : ∀ index (event : Event), event.isOfSupervisor = true →
      event.concernsEntry index = false := by
    intro index event he
    cases event <;> first | rfl | cases he
  rw [meetFallen]
  dsimp only
  split
  · split
    · exact ⟨r.world, rfl, fun _ => rfl⟩
    · exact ⟨_, rfl, fun _ => by simp [Event.concernsEntry, World.enter, World.cancel]⟩
    · obtain ⟨signals, seen, heq, -⟩ := Run.observeSignal_eq prefers r
      refine ⟨(((r.observeSignal prefers).world.emit .shutdownRequested).enter
        .shuttingDown).cancel, by rw [heq], fun index => ?_⟩
      simpa [Event.concernsEntry, World.enter, World.cancel]
        using Run.about_observeSignal prefers r (hsupervisor index)
  · exact ⟨r.world, rfl, fun _ => rfl⟩

/-- **A step does one of these.** -/
theorem step_of_step? (hp : e.run.Parked) (h : e.step? app payloads label = some e') :
    Step payloads app e e' := by
  have hquiet : e.stepQuietly app label = some e' → Step payloads app e e' := by
    intro h
    obtain ⟨r, hr, rfl⟩ := Option.map_eq_some_iff.mp h
    obtain ⟨hmoves, hparked⟩ := Run.step?_moves app hp hr
    exact .moves hmoves hparked
  cases label with
  | supervisor patience prefers =>
      obtain ⟨hready, h⟩ := Option.ite_none_right_eq_some.mp h
      obtain rfl := Option.some.inj h
      obtain ⟨hcontrol, hresult⟩ := open_of_supervisorReady hready
      rw [supervise]
      split
      · refine .escape hcontrol hresult fun index => ?_
        simp [Event.concernsEntry]
      · rename_i behind residue _ _
        obtain ⟨w, hw, habout⟩ := about_meetFallen patience prefers behind e.run
        rw [hw]
        exact .escape hcontrol hresult habout
      · obtain ⟨hmoves, hparked⟩ := Run.supervise_moves app patience prefers e.run hp
        exact .moves hmoves hparked
  | watch index =>
      rw [step?] at h
      split at h
      · rename_i residue hresidue
        obtain rfl := Option.some.inj h
        obtain ⟨ht, hv⟩ := Run.watchResidue?_eq_some_iff.mp hresidue
        exact .fall ht hv
      · exact hquiet h
  | tick => exact hquiet (Option.ite_none_left_eq_some.mp h).2
  | entry index => exact hquiet h
  | teardown number => exact hquiet h
  | job owner number fires => exact hquiet h
  | deliver => exact hquiet h

/-- What holds of a run whatever the disposals have done to it. -/
structure Sound (app : Application) (e : Exposed) : Prop where
  /-- While no panic has come out of it, it fits its entry routines. -/
  staffed : e.escaped = none → e.run.Staffed app
  /-- They are on their courses then, but for those whose exits are lost. -/
  course : e.escaped = none → ∀ index, index ∉ e.lost →
    EntryTask.Course e.run.world.now index e.run.startup.entries[index]?
      (e.run.world.trace.about (Event.concernsEntry index))
  lost : ∀ index ∈ e.lost, e.run.Lost index
  forsaken : e.escaped ≠ none → e.run.Forsaken

namespace Sound

lemma initial (signals : Signals) (wallClock : Nat → Timestamp) :
    (Exposed.initial app signals wallClock).Sound app where
  staffed _ := (Run.Reached.initial signals wallClock).staffed
  course _ index _ := (Run.Reached.initial signals wallClock).course index
  lost := by simp [Exposed.initial, ofRun]
  forsaken h := absurd rfl h

lemma startup_of_idle (h : e.Sound app) (hc : e.run.control = .idle) :
    e.run.startup = .empty := by
  by_cases hescaped : e.escaped = none
  · have hstaffed := h.staffed hescaped
    simp only [Run.Staffed, hc] at hstaffed
    exact hstaffed.1
  · have hcontrol := (h.forsaken hescaped).control
    rw [hc] at hcontrol
    cases hcontrol

lemma move (h : e.Sound app) {r : Run} (hm : Run.Move app e.run r) (fallen : List Fallen) :
    Sound app { e with run := r, fallen } where
  staffed hescaped := (h.staffed hescaped).move hm
  course hescaped index hindex := hm.course h.startup_of_idle (h.course hescaped index hindex)
  lost index hindex := (h.lost index hindex).move hm h.startup_of_idle
  forsaken hescaped := (h.forsaken hescaped).move hm

lemma moves (h : e.Sound app) {r : Run} (hm : Run.Moves app e.run r) (fallen : List Fallen) :
    Sound app { e with run := r, fallen } := by
  induction hm with
  | refl => exact ⟨h.staffed, h.course, h.lost, h.forsaken⟩
  | tail _ hm ih => exact ih.move hm fallen

/-- No panic has come out of a run in which the end of an entry routine is about to be reported. -/
lemma escaped_of_watched (h : e.Sound app) {index : Nat} {task : Task}
    (ht : e.run.startup.entries[index]? = some (.watched task)) : e.escaped = none := by
  by_contra hescaped
  simpa using (h.forsaken hescaped).entries _ (List.mem_of_getElem? ht)

/-- When a watching task panics the exit is lost, and nothing else changes. -/
lemma fall (h : e.Sound app) {index : Nat} {residue : Payload}
    (ht : e.run.startup.entries[index]? = some (.watched (.ended (.panicked none)))) :
    (e.fall index residue).Sound app := by
  have hescaped := h.escaped_of_watched ht
  have hself : index ∉ e.lost := by
    intro hindex
    have hentry := (h.lost index hindex).entry
    rw [ht] at hentry
    cases hentry
  have hother : ∀ {i}, i ≠ index → (e.fall index residue).run.startup.entries[i]?
      = e.run.startup.entries[i]? :=
    fun hne => List.getElem?_set_ne (Ne.symm hne)
  refine ⟨fun _ => (h.staffed hescaped).set ht rfl rfl rfl, fun _ i hi => ?_, fun i hi => ?_,
    fun hne => absurd hescaped hne⟩
  · obtain ⟨hold, hne⟩ : i ∉ e.lost ∧ i ≠ index := by
      simpa [Exposed.fall] using hi
    rw [hother hne]
    exact h.course hescaped i hold
  · rcases List.mem_append.mp hi with hold | hnew
    · have hlost := h.lost i hold
      have hne : i ≠ index := by
        rintro rfl
        exact hself hold
      exact ⟨(hother hne).trans hlost.entry, hlost.records⟩
    · obtain rfl := List.mem_singleton.mp hnew
      refine ⟨(getElem?_set_cases ht).trans (if_pos rfl), ?_⟩
      have hcourse := h.course hescaped i hself
      rw [ht] at hcourse
      generalize htrace : e.run.world.trace.about (Event.concernsEntry i) = tr at hcourse
      cases hcourse with
      | watched hn hle hc => cases hn
      | @finished start _ phase phase' hle =>
          exact ⟨start, e.run.world.now, phase, phase', htrace⟩

/-- When the supervisor panics the run is dropped. -/
lemma escape (h : e.Sound app) {w : World} {residue : Payload} (hresult : e.run.result? = none)
    (hw : ∀ index, w.trace.about (Event.concernsEntry index)
      = e.run.world.trace.about (Event.concernsEntry index)) :
    Sound app ({ e with run := { e.run with world := w } }.escape residue) where
  staffed := nofun
  course := nofun
  lost index hindex := by
    have hlost := h.lost index hindex
    have hrecorded : Run.Lost index { e.run with world := w } :=
      ⟨hlost.entry, hw index ▸ hlost.records⟩
    exact hrecorded.abandon hresult
  forsaken _ := Run.forsaken_abandon hresult

end Sound

/-- **Every step keeps a run sound.** -/
theorem Step.sound (h : Step payloads app e e') (hs : e.Sound app) (hp : e.run.Parked) :
    e'.Sound app ∧ e'.run.Parked := by
  cases h with
  | moves hm hp => exact ⟨hs.moves hm _, hp⟩
  | fall ht hv => exact ⟨hs.fall ht, hp.of_teardown rfl rfl rfl⟩
  | @escape w residue hcontrol hresult hw =>
      have hsound : Sound app ({ e with run := { e.run with world := w } }.escape residue) :=
        hs.escape hresult hw
      refine ⟨hsound, ?_⟩
      rw [Run.Parked, (hsound.forsaken (Option.some_ne_none residue)).control]
      trivial

/-! ### The scars of a run -/

/-- What the disposals have done to a run is not undone later. -/
structure Scarred (e later : Exposed) : Prop where
  /-- A routine whose exit is lost has panicked, and its exit is never reported. -/
  lost : ∀ index ∈ e.lost,
    (∃ time phase,
      ⟨time, phase, .entryEnded index (.panicked none)⟩ ∈ later.run.world.trace) ∧
    ∀ time phase ending, ⟨time, phase, .exitReported index ending⟩ ∉ later.run.world.trace
  /-- A run from which a panic has come never returns, and spawns no further teardown. -/
  escaped : ∀ payload, e.escaped = some payload →
    later.escaped = some payload ∧ later.run.result? = none ∧
      later.run.world.trace.spawns = e.run.world.trace.spawns

/-- What a step leaves of the scars. -/
lemma Step.scars (h : Step payloads app e e') (hs : e.Sound app) :
    (∀ index ∈ e.lost, index ∈ e'.lost) ∧ ∀ payload, e.escaped = some payload →
      e'.escaped = some payload ∧ e'.run.world.trace.spawns = e.run.world.trace.spawns := by
  cases h with
  | moves hm hp =>
      refine ⟨fun _ => id, fun payload hescaped => ⟨hescaped, ?_⟩⟩
      have hforsaken := hs.forsaken (by simp [hescaped])
      suffices hmoves : ∀ {r}, Run.Moves app e.run r →
          r.Forsaken ∧ r.world.trace.spawns = e.run.world.trace.spawns from (hmoves hm).2
      intro r hm
      induction hm with
      | refl => exact ⟨hforsaken, rfl⟩
      | tail _ hm ih => exact ⟨ih.1.move hm, (ih.1.spawns_eq hm).trans ih.2⟩
  | fall ht hv =>
      exact ⟨fun index hindex => List.mem_append_left _ hindex,
        fun payload hescaped => ⟨hescaped, rfl⟩⟩
  | escape hcontrol hresult hw =>
      refine ⟨fun _ => id, fun payload hescaped => ?_⟩
      exact absurd (hs.forsaken (by simp [hescaped])).control hcontrol

/-- **The scars of a run stay.** -/
theorem Sound.scarred {labels : List Run.Label} (hs : e.Sound app) (hp : e.run.Parked)
    (h : e.steps? app payloads labels = some e') :
    e'.Sound app ∧ e'.run.Parked ∧ e.Scarred e' := by
  suffices hrun : e'.Sound app ∧ e'.run.Parked ∧ (∀ index ∈ e.lost, index ∈ e'.lost) ∧
      ∀ payload, e.escaped = some payload → e'.escaped = some payload ∧
        e'.run.world.trace.spawns = e.run.world.trace.spawns by
    obtain ⟨hsound, hparked, hlost, hescaped⟩ := hrun
    refine ⟨hsound, hparked, fun index hindex => (hsound.lost index (hlost index hindex)).hushed,
      fun payload hpayload => ?_⟩
    obtain ⟨hlater, hspawns⟩ := hescaped payload hpayload
    have hcontrol := (hsound.forsaken (by simp [hlater])).control
    exact ⟨hlater, by rw [Run.result?, hcontrol], hspawns⟩
  induction labels generalizing e with
  | nil =>
      obtain rfl := Option.some.inj h
      exact ⟨hs, hp, fun _ => id, fun payload hpayload => ⟨hpayload, rfl⟩⟩
  | cons label labels ih =>
      obtain ⟨next, hnext, hrest⟩ := Option.bind_eq_some_iff.mp h
      have hstep := step_of_step? hp hnext
      obtain ⟨hsound, hparked⟩ := hstep.sound hs hp
      obtain ⟨hlost, hescaped⟩ := hstep.scars hs
      obtain ⟨hsound', hparked', hlost', hescaped'⟩ := ih hsound hparked hrest
      refine ⟨hsound', hparked', fun index hindex => hlost' index (hlost index hindex),
        fun payload hpayload => ?_⟩
      obtain ⟨hlater, hspawns⟩ := hescaped payload hpayload
      obtain ⟨hlater', hspawns'⟩ := hescaped' payload hlater
      exact ⟨hlater', hspawns'.trans hspawns⟩

/-! ### The theorem -/

/-- What can be seen of two runs is the same, but for errors in the places of panics, and the panics
have done no other harm. -/
structure Agrees (x : Exchange) (e e' : Exposed) : Prop where
  intact : e.Intact ∧ e'.Intact
  run : e.run.Agrees x e'.run

/-- **A panic is an error at the same point, unless its payload is volatile.**  Where some routines
of one application panic, those of another one return errors; nothing else is different.  As long as
no watching task and no supervisor disposes of a volatile payload, every schedule is possible for
both or for neither, and what can be seen of the two runs is the same, but for what is said about
these failures; no exit is lost, and no panic comes out of a run.  The disposal of a volatile
payload does one or the other, and for good. -/
theorem panic_as_error (x : Exchange) (payloads : Actor → Payload) (signals : Signals)
    (wallClock : Nat → Timestamp) (labels : List Run.Label) :
    ((∀ before label r, before ++ [label] <+: labels →
        (Run.initial x.panicking signals wallClock).steps? x.panicking before = some r →
        ¬ r.Disposes payloads label) →
      Option.Rel (Agrees x)
        ((initial x.panicking signals wallClock).steps? x.panicking payloads labels)
        ((initial x.returning signals wallClock).steps? x.returning payloads labels)) ∧
    (∀ before label r,
        (Run.initial x.panicking signals wallClock).steps? x.panicking before = some r →
        r.Disposes payloads label →
      ∃ first e, first <+: before ++ [label] ∧
        (initial x.panicking signals wallClock).steps? x.panicking payloads first = some e ∧
        ¬ e.Intact) ∧
    ∀ e, (initial x.panicking signals wallClock).steps? x.panicking payloads labels = some e →
      ∀ after later, e.steps? x.panicking payloads after = some later → e.Scarred later := by
  refine ⟨fun hquiet => ?_, fun before label r hsteps hd => ?_, fun e he after later h => ?_⟩
  · have hc := contains_iff.mpr hquiet
    rcases rel_cases (alike_steps? (Run.alike_initial x signals wallClock) hc) with
      ⟨hs, hs'⟩ | ⟨e, e', hs, hs', s, s', rfl, rfl, halike⟩
    · rw [initial, initial, hs, hs']
      exact .none
    · rw [initial, initial, hs, hs']
      exact .some ⟨⟨intact_ofRun s, intact_ofRun s'⟩, halike.agrees⟩
  · by_contra hintact
    push Not at hintact
    have hc : (ofRun (.initial x.panicking signals wallClock)).Contains x.panicking payloads
        (before ++ [label]) := hintact
    exact contains_iff.mp hc before label r (List.prefix_refl _) hsteps hd
  · obtain ⟨hsound, hparked, -⟩ := (Sound.initial signals wallClock).scarred trivial he
    exact (hsound.scarred hparked h).2.2

/-- A store whose teardown panics, and a server that panics after three milliseconds. -/
def panicky : Application where
  registry := ⟨[
    { component :=
        { name := "store"
          entry := .awaitCancel .done
          teardown := fun _ => .stop (.panicked none) }
      instanceId := 0
      explicit := none },
    { component :=
        { name := "server"
          entry := .sleep ⟨3⟩ (.stop (.panicked (some "boom")))
          teardown := fun _ => .done }
      instanceId := 1
      explicit := none }]⟩
  shutdownTimeout := ⟨5⟩
  trigger := .never

/-- A schedule on which the store and the server run until the supervisor returns. -/
def panickySchedule : List Run.Label :=
  [.supervisor 0 .interrupt, .watch 0, .watch 1, .entry 0, .entry 1, .tick, .entry 1, .watch 1,
    .supervisor 0 .interrupt, .entry 0, .watch 0, .supervisor 0 .interrupt, .teardown 0,
    .supervisor 0 .interrupt, .teardown 1, .supervisor 0 .interrupt]

/-- The store and the server that return errors instead run in the same way, if their payloads go
quietly. -/
theorem panicky_contained :
    let x := Exchange.withoutPanics panicky fun _ payload => { root := payload.getD "failed" }
    let payloads : Actor → Payload := fun _ => .value
    ∃ e e',
      (initial x.panicking .fresh fun _ => 0).steps? x.panicking payloads panickySchedule
          = some e ∧
      (initial x.returning .fresh fun _ => 0).steps? x.returning payloads panickySchedule
          = some e' ∧
      e.Agrees x e' ∧
      e.run.result? = some (some ⟨"server",
        { root := "component task panicked: task N panicked with message \"boom\"" }⟩) ∧
      e'.run.result? = some (some ⟨"server", { root := "boom" }⟩) ∧
      e.run.teardown.reports.map TeardownReport.outcome = [.completed, .panicked none] ∧
      e'.run.teardown.reports.map TeardownReport.outcome
        = [.completed, .failed { root := "failed" }] := by
  intro x payloads
  have hquiet : ∀ before label r, before ++ [label] <+: panickySchedule →
      (Run.initial x.panicking .fresh fun _ => 0).steps? x.panicking before = some r →
      ¬ r.Disposes payloads label := by
    intro before label r _ _ hd
    cases label with
    | supervisor _ _ =>
        obtain ⟨-, task, until_, -, -, hvolatile⟩ := hd
        exact hvolatile rfl
    | watch _ => exact hd.2 rfl
    | _ => exact hd
  have hagrees := (panic_as_error x payloads .fresh (fun _ => 0) panickySchedule).1 hquiet
  have hresults :
      ((initial x.panicking .fresh fun _ => 0).steps? x.panicking payloads
          panickySchedule).map (fun e => (e.run.result?, e.run.teardown.reports.map (·.outcome)))
        = some (some (some ⟨"server",
            { root := "component task panicked: task N panicked with message \"boom\"" }⟩),
          [.completed, .panicked none]) ∧
      ((initial x.returning .fresh fun _ => 0).steps? x.returning payloads
          panickySchedule).map (fun e => (e.run.result?, e.run.teardown.reports.map (·.outcome)))
        = some (some (some ⟨"server", { root := "boom" }⟩),
          [.completed, .failed { root := "failed" }]) := by
    decide +kernel
  rcases rel_cases hagrees with ⟨hnone, -⟩ | ⟨e, e', he, he', hagrees⟩
  · rw [hnone] at hresults
    cases hresults.1
  · rw [he, he'] at hresults
    obtain ⟨h, h'⟩ := hresults
    obtain ⟨hresult, hreports⟩ := Prod.mk.inj (Option.some.inj h)
    obtain ⟨hresult', hreports'⟩ := Prod.mk.inj (Option.some.inj h')
    exact ⟨e, e', he, he', hagrees, hresult, hresult', hreports, hreports'⟩

end Exposed

/-! ### A service that does not contain its panics -/

/-- A store, and a server that panics after three milliseconds and again in its teardown, with
payloads that are no texts. -/
def Application.brittle : Application where
  registry := ⟨[
    { component := { name := "store", entry := .awaitCancel .done, teardown := fun _ => .done }
      instanceId := 0
      explicit := none },
    { component :=
        { name := "server"
          entry := .sleep ⟨3⟩ (.stop (.panicked none))
          teardown := fun _ => .stop (.panicked none) }
      instanceId := 1
      explicit := none }]⟩
  shutdownTimeout := ⟨5⟩
  trigger := .never

/-- One routine panics with a volatile payload. -/
def Payload.volatileAt (actor other : Actor) : Payload :=
  if other = actor then .volatile (.text "again") else .value

namespace Exposed

/-- At a quiet moment after which nothing goes on by itself a schedule can take no step. -/
lemma step?_eq_none {e : Exposed} (hready : e.supervisorReady app = false)
    (hquiet : e.run.isQuiet app = true) (hwake : e.run.nextWake app = none) (label : Run.Label) :
    e.step? app payloads label = none := by
  have hstill : e.stepQuietly app label = none := by
    rw [stepQuietly, Option.map_eq_none_iff]
    refine Option.eq_none_iff_forall_ne_some.mpr fun r hr => ?_
    obtain rfl := Run.eq_tick_of_isQuiet hquiet hr
    simp [Run.step?, hwake] at hr
  cases label with
  | supervisor patience prefers => simp [step?, hready]
  | watch index =>
      rw [step?]
      split
      · rename_i residue hresidue
        obtain ⟨hentry, -⟩ := Run.watchResidue?_eq_some_iff.mp hresidue
        cases Run.watchReady_of_isQuiet hquiet hentry
      · exact hstill
  | tick => simpa [step?, hready] using hstill
  | entry index => exact hstill
  | teardown number => exact hstill
  | job owner number fires => exact hstill
  | deliver => exact hstill

/-- A schedule up to the poll at which the supervisor would learn that the server has failed. -/
def brittleSchedule : List Run.Label :=
  [.supervisor 0 .interrupt, .watch 0, .watch 1, .entry 0, .entry 1, .tick, .entry 1, .watch 1,
    .supervisor 0 .interrupt]

/-- The shutdown that follows, up to the end of the server's teardown. -/
def brittleShutdown : List Run.Label :=
  [.entry 0, .watch 0, .supervisor 0 .interrupt, .teardown 0, .supervisor 0 .interrupt]

/-- Two views of what there is. -/
lemma exists_of_map_eq {α β γ : Type} {a : Option α} {f : α → β} {g : α → γ} {b : β} {c : γ}
    (h : a.map f = some b ∧ a.map g = some c) : ∃ x, a = some x ∧ f x = b ∧ g x = c := by
  obtain ⟨x, hx, hf⟩ := Option.map_eq_some_iff.mp h.1
  refine ⟨x, hx, hf, ?_⟩
  simpa [hx] using h.2

/-- **A volatile payload makes a panic something else than an error.**  If the payload with which
the server panics is volatile its exit is lost, and nothing goes on any more, while the server that
returns an error ends the run with this error.  If that of its teardown is, a panic comes out of the
run after the teardown of the server, and the store is not torn down. -/
theorem brittle_uncontained :
    let x := Exchange.withoutPanics .brittle fun _ _ => { root := "failed" }
    let start := initial x.panicking .fresh fun _ => 0
    (∃ e, start.steps? x.panicking (.volatileAt (.entry 1)) brittleSchedule = some e ∧
      e.lost = [1] ∧ e.run.result? = none ∧
      ∀ label, e.step? x.panicking (.volatileAt (.entry 1)) label = none) ∧
    (∃ e, start.steps? x.panicking (.volatileAt (.teardown 1)) (brittleSchedule ++ brittleShutdown)
        = some e ∧
      e.escaped = some (.text "again") ∧ e.run.result? = none ∧
      e.run.world.trace.spawns = [(3, 1, ⟨5⟩)]) ∧
    ∃ e, (initial x.returning .fresh fun _ => 0).steps? x.returning (.volatileAt (.entry 1))
        (brittleSchedule ++ brittleShutdown ++ [.teardown 1, .supervisor 0 .interrupt]) = some e ∧
      e.Intact ∧ e.run.result? = some (some ⟨"server", { root := "failed" }⟩) ∧
      e.run.world.trace.spawns = [(3, 1, ⟨5⟩), (3, 0, ⟨5⟩)] := by
  intro x start
  have hlost : (start.steps? x.panicking (.volatileAt (.entry 1)) brittleSchedule).map
      (fun e => (e.lost, e.run.result?, e.supervisorReady x.panicking, e.run.isQuiet x.panicking,
        e.run.nextWake x.panicking)) = some ([1], none, false, true, none) := by
    decide +kernel
  have hescaped :
      let steps := start.steps? x.panicking (.volatileAt (.teardown 1))
        (brittleSchedule ++ brittleShutdown)
      steps.map (fun e => (e.escaped, e.run.result?)) = some (some (.text "again"), none) ∧
        steps.map (fun e => e.run.world.trace.spawns) = some [(3, 1, ⟨5⟩)] := by
    decide +kernel
  have htwin :
      let steps := (initial x.returning .fresh fun _ => 0).steps? x.returning
        (.volatileAt (.entry 1))
        (brittleSchedule ++ brittleShutdown ++ [.teardown 1, .supervisor 0 .interrupt])
      steps.map (fun e => (e.lost, e.escaped)) = some ([], none) ∧
        steps.map (fun e => (e.run.result?, e.run.world.trace.spawns))
          = some (some (some ⟨"server", { root := "failed" }⟩), [(3, 1, ⟨5⟩), (3, 0, ⟨5⟩)]) := by
    decide +kernel
  obtain ⟨e, he, hlost⟩ := Option.map_eq_some_iff.mp hlost
  obtain ⟨s, hs, hescaped, hspawns⟩ := exists_of_map_eq hescaped
  obtain ⟨t, ht, hintact, htwin⟩ := exists_of_map_eq htwin
  simp only [Prod.mk.injEq] at hlost hescaped hintact htwin
  obtain ⟨hlost, hresult, hready, hquiet, hwake⟩ := hlost
  exact ⟨⟨e, he, hlost, hresult, step?_eq_none hready hquiet hwake⟩,
    ⟨s, hs, hescaped.1, hescaped.2, hspawns⟩, ⟨t, ht, hintact, htwin⟩⟩

end Exposed

end ServiceSupervisor
