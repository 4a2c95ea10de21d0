import ServiceSupervisor.Proofs.Reached

/-!
The entry routines of a run and what the trace tells of them.

* `Run.EntrySide`: what a move does to the entry routines (`Run.Move.entrySide`);
* `Run.Staffed`: nothing is launched before the supervisor begins, one entry routine per
  registration afterwards, and every one of them has been reported before the teardown
  (`Run.Reached.staffed`);
* `EntryTask.Course`: the states of an entry routine, each with its whole record
  (`Run.Reached.course`): an entry routine begins at most once, ends at most once after that, and
  its end is reported at the instant of the end.
-/

namespace ServiceSupervisor

/-! ### The events of entry routines -/

namespace Event

/-- Whether an event is the beginning, the end or the report of an entry routine. -/
def isOfEntries : Event → Bool
  | .entryBegun _ | .entryEnded _ _ | .exitReported _ _ => true
  | _ => false

/-- Whether an event is the beginning, the end or the report of the entry routine at a place. -/
def concernsEntry (index : Nat) : Event → Bool
  | .entryBegun i | .entryEnded i _ | .exitReported i _ => i == index
  | _ => false

lemma isOfEntries_of_isNote (e : Event) (h : e.isNote = true) : e.isOfEntries = false := by
  cases e <;> first | rfl | cases h

lemma concernsEntry_of_isNote {index : Nat} (e : Event) (h : e.isNote = true) :
    e.concernsEntry index = false := by
  cases e <;> first | rfl | cases h

lemma isOfEntries_of_isOfSupervisor (e : Event) (h : e.isOfSupervisor = true) :
    e.isOfEntries = false := by
  cases e <;> first | rfl | cases h

lemma isOfEntries_of_concernsEntry {index : Nat} {e : Event} (h : e.concernsEntry index = true) :
    e.isOfEntries = true := by
  cases e <;> first | rfl | cases h

end Event

/-- A task of a list with one place changed. -/
lemma getElem?_set_cases {α : Type} {l : List α} {i j : Nat} {old new : α} (h : l[i]? = some old) :
    (l.set i new)[j]? = if i = j then some new else l[j]? := by
  obtain ⟨hi, -⟩ := List.getElem?_eq_some_iff.mp h
  rw [List.getElem?_set]
  simp only [hi, if_true]

/-- Once all have been reported none is in another state. -/
lemma Startup.isReported_of_allReported {s : Startup} {index : Nat}
    {task : EntryTask} (h : s.allReported = true) (ht : s.entries[index]? = some task) :
    task.isReported = true :=
  List.all_eq_true.mp h task (List.mem_of_getElem? ht)

/-! ### The course of an entry routine -/

namespace EntryTask

/-- The states of the entry routine at a place, with all that is recorded of it, latest first. -/
inductive Course (now index : Nat) : Option EntryTask → Trace → Prop
  /-- It has not been launched. -/
  | absent : Course now index none []
  /-- It has no task of its own. -/
  | unspawned (routine : Routine) : Course now index (some (.unspawned routine)) []
  /-- It has not ended. -/
  | watched {task : Task} {start : Nat} {tr : Trace} (hn : task.hasEnded = false)
      (hle : start ≤ now)
      (hc : Task.Chronicle (.entryBegun index) (.entryEnded index) start task tr) :
      Course now index (some (.watched task)) tr
  /-- It has ended at this instant. -/
  | finished {start : Nat} (ending : Ending) (phase phase' : Phase) (hle : start ≤ now) :
      Course now index (some (.watched (.ended ending)))
        [⟨now, phase', .entryEnded index ending⟩, ⟨start, phase, .entryBegun index⟩]
  /-- Its end has been reported, at the instant of the end. -/
  | reported {start time : Nat} (ending : Ending) (phase phase' phase'' : Phase)
      (hle : start ≤ time) (hnow : time ≤ now) :
      Course now index (some (.reported ending))
        [⟨time, phase'', .exitReported index ending⟩, ⟨time, phase', .entryEnded index ending⟩,
          ⟨start, phase, .entryBegun index⟩]

namespace Course

variable {now later index : Nat} {found : Option EntryTask} {tr : Trace}

/-- Time passes, while no end waits to be reported. -/
lemma wait (h : Course now index found tr) (hle : now ≤ later)
    (hw : ∀ task, found = some task → task.watchReady = false) : Course later index found tr := by
  cases h with
  | absent => exact .absent
  | unspawned routine => exact .unspawned routine
  | watched hn hstart hc => exact .watched hn (Nat.le_trans hstart hle) hc
  | finished ending phase phase' hstart => cases hw _ rfl
  | reported ending phase phase' phase'' hstart hnow =>
      exact .reported ending phase phase' phase'' hstart (Nat.le_trans hnow hle)

/-- The routine goes on. -/
lemma advance {task : EntryTask} {polled : Task} {w w' : World} {owner : Nat}
    (h : Course w.now index (some task) tr) (hr : task.ready w owner = true)
    (hadv : task.task.Advances (.entryBegun index) (.entryEnded index) w polled w') :
    Course w.now index (some (task.withTask polled))
      (Task.endMark (.entryEnded index) w polled
        ++ (Task.beginMark (.entryBegun index) w task.task ++ tr)) := by
  cases h with
  | unspawned routine => cases hr
  | @watched task start tr hn hle hc =>
      -- A routine that begins only now has no record yet of the instant of its beginning.
      have hstart : ∃ start', start' ≤ w.now ∧ (task.isUnbegun = true → start' = w.now) ∧
          Task.Chronicle (.entryBegun index) (.entryEnded index) start' task tr := by
        cases hc with
        | unbegun routine => exact ⟨w.now, Nat.le_refl _, fun _ => rfl, .unbegun routine⟩
        | running phase hu he => exact ⟨start, hle, by simp [hu], .running phase hu he⟩
        | ended ending phase phase' hle' => cases hn
      obtain ⟨start', hle', hbegin, hc'⟩ := hstart
      obtain ⟨phase, htr⟩ := hc'.beginMark_append hn hbegin
      rw [EntryTask.task, htr]
      cases hend : polled.ending? with
      | none => exact .watched (Task.hasEnded_eq_false hend) hle' (hadv.chronicle hle')
      | some ending =>
          obtain rfl := Task.eq_ended hend
          exact .finished ending phase w.phase hle'
  | finished ending phase phase' hle => cases hr
  | reported ending phase phase' phase'' hle hnow => cases hr

/-- Nothing is recorded of what has not been launched. -/
lemma isSome_of_mem {x : Record} (h : Course now index found tr) (hx : x ∈ tr) :
    found.isSome = true := by
  cases h with
  | absent => cases hx
  | unspawned routine => rfl
  | watched hn hle hc => rfl
  | finished ending phase phase' hle => rfl
  | reported ending phase phase' phase'' hle hnow => rfl

/-- A routine whose end waits to be reported has ended just now. -/
lemma ended_now {ending : Ending} (h : Course now index (some (.watched (.ended ending))) tr) :
    ∃ phase, ⟨now, phase, .entryEnded index ending⟩ ∈ tr := by
  cases h with
  | watched hn hle hc => cases hn
  | finished ending phase phase' hle => exact ⟨phase', List.mem_cons_self⟩

/-- A routine that has ended and whose end does not wait to be reported has been reported. -/
lemma reported_of_ended {time : Nat} {phase : Phase} {ending : Ending}
    (h : Course now index found tr) (hx : ⟨time, phase, .entryEnded index ending⟩ ∈ tr)
    (hw : ∀ task, found = some task → task.watchReady = false) :
    ∃ ending', found = some (.reported ending') := by
  cases h with
  | absent => cases hx
  | unspawned routine => cases hx
  | watched hn hle hc =>
      cases hc with
      | unbegun routine => cases hx
      | running phase' hu he => simp at hx
      | ended ending' phase' phase'' hle' => cases hn
  | finished ending' phase' phase'' hle => cases hw _ rfl
  | reported ending' phase₁ phase₂ phase₃ hle hnow => exact ⟨ending', rfl⟩

/-- What has been reported has happened, at the same instant. -/
lemma ended_of_reported {time : Nat} {phase : Phase} {ending : Ending}
    (h : Course now index found tr) (hx : ⟨time, phase, .exitReported index ending⟩ ∈ tr) :
    ∃ phase', ⟨time, phase', .entryEnded index ending⟩ ∈ tr := by
  cases h with
  | absent => cases hx
  | unspawned routine => cases hx
  | watched hn hle hc =>
      cases hc with
      | unbegun routine => cases hx
      | running phase' hu he => simp at hx
      | ended ending' phase' phase'' hle' => cases hn
  | finished ending' phase' phase'' hle => simp at hx
  | @reported start time' ending' phase₁ phase₂ phase₃ hle hnow =>
      obtain ⟨⟨rfl, rfl⟩, rfl⟩ : (time = time' ∧ phase = phase₃) ∧ ending = ending' := by
        simpa [and_assoc] using hx
      exact ⟨phase₂, by simp⟩

/-- What has happened has been reported at the same instant, or has happened just now. -/
lemma reported_or_over {time : Nat} {phase : Phase} {ending : Ending}
    (h : Course now index found tr) (hx : ⟨time, phase, .entryEnded index ending⟩ ∈ tr) :
    (∃ phase', ⟨time, phase', .exitReported index ending⟩ ∈ tr) ∨
      (time = now ∧ found = some (.watched (.ended ending))) := by
  cases h with
  | absent => cases hx
  | unspawned routine => cases hx
  | watched hn hle hc =>
      cases hc with
      | unbegun routine => cases hx
      | running phase' hu he => simp at hx
      | ended ending' phase' phase'' hle' => cases hn
  | finished ending' phase' phase'' hle =>
      obtain ⟨⟨rfl, -⟩, rfl⟩ : (time = now ∧ phase = phase'') ∧ ending = ending' := by
        simpa [and_assoc] using hx
      exact Or.inr ⟨rfl, rfl⟩
  | @reported start time' ending' phase₁ phase₂ phase₃ hle hnow =>
      obtain ⟨⟨rfl, -⟩, rfl⟩ : (time = time' ∧ phase = phase₂) ∧ ending = ending' := by
        simpa [and_assoc] using hx
      exact Or.inl ⟨phase₃, by simp⟩

end Course

end EntryTask

/-- The records of the coordinator of a teardown are not of the entry routines. -/
lemma Teardown.Move.about_isOfEntries {registry : Registry}
    {fallback : Duration} {before after : Teardown × World}
    (hm : Teardown.Move registry fallback before after) :
    after.2.trace.about Event.isOfEntries = before.2.trace.about Event.isOfEntries := by
  cases hm <;> rfl

namespace Run

variable {app : Application} {r r' : Run}

/-! ### What a move does to the entry routines -/

/-- What has been recorded of the entry routines. -/
def entryTrace (r : Run) : Trace := r.world.trace.about Event.isOfEntries

/-- The second state comes from the first by a move, as far as the entry routines are concerned. -/
inductive EntrySide (app : Application) (r r' : Run) : Prop
  /-- All are launched. -/
  | launch (hc : r.control = .idle) (hs : r'.startup = .launch app.registry)
      (hnow : r'.world.now = r.world.now) (hv : r'.entryTrace = r.entryTrace)
  /-- One gets its task. -/
  | spawn (index : Nat) (routine : Routine)
      (ht : r.startup.entries[index]? = some (.unspawned routine))
      (hs : r'.startup.entries = r.startup.entries.set index (.watched (.unbegun routine)))
      (hnow : r'.world.now = r.world.now) (hv : r'.entryTrace = r.entryTrace)
  /-- The end of one is reported. -/
  | report (index : Nat) (entry : Registration) (ending : Ending)
      (he : app.registry.entries[index]? = some entry)
      (ht : r.startup.entries[index]? = some (.watched (.ended ending)))
      (hs : r'.startup.entries = r.startup.entries.set index (.reported ending))
      (hx : r'.startup.exits = r.startup.exits ++ [⟨index, entry.name, ending, r.world.now⟩])
      (hnow : r'.world.now = r.world.now)
      (hv : r'.entryTrace
        = ⟨r.world.now, r.world.phase, .exitReported index ending⟩ :: r.entryTrace)
  /-- One goes on. -/
  | poll (index owner : Nat) (task : EntryTask) (polled : Task)
      (ht : r.startup.entries[index]? = some task) (hr : task.ready r.world owner = true)
      (hs : r'.startup.entries = r.startup.entries.set index (task.withTask polled))
      (hadv : task.task.Advances (.entryBegun index) (.entryEnded index) r.world polled r'.world)
  /-- Nothing happens to them, and if the clock moves nothing else could go on. -/
  | rest (hs : r'.startup.entries = r.startup.entries) (hv : r'.entryTrace = r.entryTrace)
      (hnow : r'.world.now = r.world.now ∨ r.isQuiet app = true)

/-- Every move is one of these to the entry routines. -/
lemma Move.entrySide (hm : Move app r r') : EntrySide app r r' := by
  have hk := Event.isOfEntries_of_isOfSupervisor
  cases hm with
  | launch hc =>
      obtain ⟨signals, listener, seen, heq, -⟩ := launch_eq app r
      exact .launch hc rfl (by rw [heq]) (about_launch app r hk)
  | skim hc he hok => exact .rest rfl rfl (.inl rfl)
  | fail hc he hf => exact .rest rfl rfl (.inl rfl)
  | trigger prefers hc hd =>
      obtain ⟨signals, seen, heq, -⟩ := observeSignal_eq prefers r
      exact .rest (by rw [heq]; rfl) (about_observeSignal prefers r hk) (.inl (by rw [heq]; rfl))
  | collect hc => exact .rest rfl rfl (.inl rfl)
  | @judge first drained hc he hp =>
      exact .rest rfl (about_reportFailures first hk drained r.world)
        (.inl (by rw [World.emitAll_eq]))
  | coordinate hc hm => exact .rest rfl hm.about_isOfEntries (.inl hm.now_eq)
  | @finish first hc ho =>
      obtain ⟨signals, heq⟩ := finish_eq first r
      exact .rest (by rw [heq]) (about_finish first r hk) (.inl (by rw [heq]))
  | spawnEntry he ht => exact .spawn _ _ ht rfl rfl rfl
  | reportExit he ht => exact .report _ _ _ he ht rfl rfl rfl rfl
  | entry he ht hr hp => exact .poll _ _ _ _ ht hr rfl (EntryTask.advances_of_ready hr hp)
  | teardown ht hr hp =>
      have hadv := Task.advances_of_ready hr hp
      refine .rest rfl ?_ (.inl hadv.now_eq)
      exact hadv.about_eq_of_other (Event.isOfEntries_of_isNote) rfl fun _ => rfl
  | @job owner number fires hr =>
      have hrip := World.pollLoop_ripples r.world owner number fires
      exact .rest rfl (hrip.about_eq Event.isOfEntries_of_isNote) (.inl hrip.now_eq)
  | deliver hw => exact .rest rfl rfl (.inl rfl)
  | tick hq hp hn => exact .rest rfl rfl (.inr hq)

/-! ### What is launched when -/

/-- The entry routines fit what the supervisor is doing. -/
def Staffed (app : Application) (r : Run) : Prop :=
  match r.control with
  | .idle => r.startup = .empty ∧ r.world.now = 0
  | .waiting | .draining _ _ => r.startup.entries.length = app.registry.size
  | .stopping _ | .returned _ =>
    r.startup.entries.length = app.registry.size ∧ r.startup.allReported = true
  | .abandoned | .byHand => False

/-- While the end of an entry routine has not been reported there is no teardown. -/
lemma Staffed.open_of_unreported {index : Nat} {task : EntryTask} (h : Staffed app r)
    (ht : r.startup.entries[index]? = some task) (hold : task.isReported = false)
    (first : Option Culprit) : r.control ≠ .stopping first ∧ r.control ≠ .returned first := by
  have hnot : r.startup.allReported ≠ true := by
    intro hall
    rw [Startup.isReported_of_allReported hall ht] at hold
    cases hold
  rw [Staffed] at h
  constructor
  · intro hc
    rw [hc] at h
    exact hnot h.2
  · intro hc
    rw [hc] at h
    exact hnot h.2

/-- The state of one entry routine changes. -/
lemma Staffed.set {index : Nat} {old new : EntryTask} (h : Staffed app r)
    (ht : r.startup.entries[index]? = some old) (hold : old.isReported = false)
    (hc : r'.control = r.control) (hs : r'.startup.entries = r.startup.entries.set index new) :
    Staffed app r' := by
  have hopen := h.open_of_unreported ht hold
  rw [Staffed] at h ⊢
  rw [hc]
  cases hcon : r.control with
  | idle =>
      rw [hcon] at h
      rw [h.1] at ht
      cases ht
  | waiting => simpa [hcon, hs] using h
  | draining first drained => simpa [hcon, hs] using h
  | stopping first => exact absurd hcon (hopen first).1
  | returned first => exact absurd hcon (hopen first).2
  | abandoned => simp [hcon] at h
  | byHand => simp [hcon] at h

/-- Nothing happens to the entry routines and the supervisor. -/
lemma Staffed.of_eq (h : Staffed app r) (hc : r'.control = r.control)
    (hs : r'.startup = r.startup) (hnow : r'.world.now = r.world.now ∨ r.control ≠ .idle) :
    Staffed app r' := by
  rw [Staffed, hc, hs]
  cases hcon : r.control with
  | idle =>
      rw [Staffed, hcon] at h
      rcases hnow with hnow | hnow
      · exact ⟨h.1, hnow.trans h.2⟩
      · exact absurd hcon hnow
  | waiting => simpa [Staffed, hcon] using h
  | draining first drained => simpa [Staffed, hcon] using h
  | stopping first => simpa [Staffed, hcon] using h
  | returned first => simpa [Staffed, hcon] using h
  | abandoned => simp [Staffed, hcon] at h
  | byHand => simp [Staffed, hcon] at h

/-- When nothing can go on no watching task can. -/
lemma watchReady_of_isQuiet {index : Nat} {task : EntryTask} (hq : r.isQuiet app = true)
    (ht : r.startup.entries[index]? = some task) : task.watchReady = false := by
  obtain ⟨hindex, -⟩ := List.getElem?_eq_some_iff.mp ht
  have hempty : r.readyWatches = [] := by
    simp only [isQuiet, Bool.and_eq_true, List.isEmpty_iff] at hq
    exact hq.1.1.1.1.2
  have hnot := List.filter_eq_nil_iff.mp hempty index (List.mem_range.mpr hindex)
  rw [Startup.watchReady, ht] at hnot
  exact Bool.eq_false_iff.mpr hnot

/-- A supervisor that has not begun can go on. -/
lemma control_ne_idle_of_isQuiet (hq : r.isQuiet app = true) : r.control ≠ .idle := by
  intro hc
  simp [isQuiet, supervisorReady, hc] at hq

/-- A run begins at the first instant. -/
lemma now_initial (app : Application) (signals : Signals) (wallClock : Nat → Timestamp) :
    (initial app signals wallClock).world.now = 0 := by
  rw [initial, World.ofRegistry, World.emitAll_eq]

/-- Every move keeps what is launched in accord with the supervisor. -/
lemma Staffed.move (h : Staffed app r) (hm : Move app r r') : Staffed app r' := by
  cases hm with
  | launch hc =>
      obtain ⟨signals, listener, seen, heq, -⟩ := launch_eq app r
      rw [heq]
      exact List.length_map ..
  | skim hc he hok =>
      simp only [Staffed, hc] at h ⊢
      exact h
  | fail hc he hf =>
      simp only [Staffed, hc] at h
      exact h
  | trigger prefers hc hd =>
      obtain ⟨signals, seen, heq, -⟩ := observeSignal_eq prefers r
      rw [heq]
      simp only [Staffed, hc] at h
      exact h
  | collect hc =>
      simp only [Staffed, hc] at h
      exact h
  | judge hc he hp =>
      simp only [Staffed, hc] at h
      exact ⟨h, hp⟩
  | coordinate hc hm => exact h.of_eq rfl rfl (.inl hm.now_eq)
  | @finish first hc ho =>
      obtain ⟨signals, heq⟩ := finish_eq first r
      rw [heq]
      simp only [Staffed, hc] at h
      exact h
  | spawnEntry he ht => exact h.set ht rfl rfl rfl
  | reportExit he ht => exact h.set ht rfl rfl rfl
  | @entry index entry task polled w he ht hr hp =>
      refine h.set ht ?_ rfl rfl
      cases task <;> first | rfl | cases hr
  | teardown ht hr hp => exact h.of_eq rfl rfl (.inl (Task.advances_of_ready hr hp).now_eq)
  | @job owner number fires hr =>
      exact h.of_eq rfl rfl (.inl (World.pollLoop_ripples r.world owner number fires).now_eq)
  | deliver hw => exact h.of_eq rfl rfl (.inl rfl)
  | tick hq hp hn => exact h.of_eq rfl rfl (.inr (control_ne_idle_of_isQuiet hq))

/-- In every state of a run the entry routines fit what the supervisor is doing. -/
theorem Reached.staffed (h : Reached app r) : Staffed app r := by
  induction h with
  | initial signals wallClock => exact ⟨rfl, now_initial app signals wallClock⟩
  | move _ hm ih => exact ih.move hm

/-! ### What is recorded of them -/

/-- A kind of event of the entry routines is seen in their part of the trace. -/
lemma about_entryTrace {kind : Event → Bool} (h : ∀ e, kind e = true → e.isOfEntries = true)
    (r : Run) : r.entryTrace.about kind = r.world.trace.about kind :=
  Trace.about_about h _

/-- While a registry is filled only registrations and notes are recorded. -/
lemma mem_registrationEvents {registry : Registry} {event : Event}
    (he : event ∈ World.registrationEvents registry) :
    (∃ owner note, event = .jobNoted owner note) ∨
      ∃ name explicit, event = .registering name explicit := by
  obtain ⟨⟨entry, index⟩, -, he⟩ := List.mem_flatMap.mp he
  rcases List.mem_append.mp he with he | he
  · split at he
    · obtain ⟨note, -, rfl⟩ := List.mem_map.mp he
      exact .inl ⟨_, _, rfl⟩
    · cases he
  · exact .inr ⟨_, _, List.mem_singleton.mp he⟩

/-- Before a run only registrations have been recorded. -/
lemma about_initial {kind : Event → Bool} (signals : Signals) (wallClock : Nat → Timestamp)
    (hn : ∀ e : Event, e.isNote = true → kind e = false)
    (hr : ∀ name explicit, kind (.registering name explicit) = false) :
    (initial app signals wallClock).world.trace.about kind = [] := by
  refine World.about_emitAll _ fun event he => ?_
  rcases mem_registrationEvents he with ⟨owner, note, rfl⟩ | ⟨name, explicit, rfl⟩
  · exact hn _ rfl
  · exact hr _ _

/-- Every move keeps an entry routine on its course, and the trace tells of it what belongs to the
state that it is in. -/
lemma Move.course (hm : Move app r r') (hlaunch : r.control = .idle → r.startup = .empty)
    {index : Nat} (h : EntryTask.Course r.world.now index r.startup.entries[index]?
      (r.world.trace.about (Event.concernsEntry index))) :
    EntryTask.Course r'.world.now index r'.startup.entries[index]?
      (r'.world.trace.about (Event.concernsEntry index)) := by
  have hwider : ∀ e, Event.concernsEntry index e = true → e.isOfEntries = true :=
    fun _ => Event.isOfEntries_of_concernsEntry
  have hnote : ∀ e : Event, e.isNote = true → e.concernsEntry index = false :=
    fun e => Event.concernsEntry_of_isNote e
  rw [← about_entryTrace hwider] at h ⊢
  cases hm.entrySide with
  | launch hc hs hnow hv =>
      rw [hlaunch hc] at h
      rw [hnow, hv, hs]
      generalize Trace.about (Event.concernsEntry index) r.entryTrace = tr at h ⊢
      cases h with
      | absent =>
          rw [Startup.launch, List.getElem?_map]
          cases app.registry.entries[index]? with
          | none => exact .absent
          | some entry => exact .unspawned entry.component.entry
  | spawn i routine ht hs hnow hv =>
      rw [hnow, hv, hs, getElem?_set_cases ht]
      generalize Trace.about (Event.concernsEntry index) r.entryTrace = tr at h ⊢
      split
      · subst index
        rw [ht] at h
        cases h with
        | unspawned routine =>
            exact .watched rfl (Nat.le_refl _) (.unbegun routine)
      · exact h
  | report i entry ending he ht hs hx hnow hv =>
      rw [hnow, hv, hs, getElem?_set_cases ht, Trace.about_cons]
      generalize Trace.about (Event.concernsEntry index) r.entryTrace = tr at h ⊢
      split
      · subst index
        rw [ht] at h
        cases h with
        | watched hn hle hc => cases hn
        | finished ending phase phase' hle =>
            rw [if_pos (by simp [Event.concernsEntry])]
            exact .reported ending phase phase' r.world.phase hle (Nat.le_refl _)
      · rw [if_neg (by simpa [Event.concernsEntry])]
        exact h
  | poll i owner task polled ht hr hs hadv =>
      rw [about_entryTrace hwider] at h ⊢
      rw [hadv.now_eq, hs, getElem?_set_cases ht]
      split
      · subst index
        rw [ht] at h
        rw [hadv.about_eq hnote (by simp [Event.concernsEntry])
          fun _ => by simp [Event.concernsEntry]]
        exact h.advance hr hadv
      · have hne : (i == index) = false := beq_false_of_ne ‹_›
        rw [hadv.about_eq_of_other hnote hne fun _ => hne]
        exact h
  | rest hs hv hnow =>
      rw [hs, hv]
      rcases hnow with hnow | hq
      · rw [hnow]
        exact h
      · exact h.wait hm.grows.now_le fun task ht => watchReady_of_isQuiet hq ht

/-- In every state of a run every entry routine is in one of the states of its course, and the trace
tells of it what belongs to that state. -/
theorem Reached.course (h : Reached app r) (index : Nat) :
    EntryTask.Course r.world.now index r.startup.entries[index]?
      (r.world.trace.about (Event.concernsEntry index)) := by
  induction h with
  | initial signals wallClock =>
      rw [about_initial signals wallClock Event.concernsEntry_of_isNote fun _ _ => rfl]
      exact .absent
  | @move r r' h hm ih =>
      refine hm.course (fun hc => ?_) ih
      have hstaffed := h.staffed
      simp only [Staffed, hc] at hstaffed
      exact hstaffed.1

/-- An entry routine that has ended is that of a registration. -/
lemma Reached.registered (h : Reached app r) {time index : Nat} {phase : Phase} {ending : Ending}
    (hx : ⟨time, phase, .entryEnded index ending⟩ ∈ r.world.trace) :
    ∃ entry, app.registry.entries[index]? = some entry := by
  have hsome := (h.course index).isSome_of_mem
    (Trace.mem_about.mpr ⟨hx, by simp [Event.concernsEntry]⟩)
  have hlt : index < r.startup.entries.length := by simpa using hsome
  have hsize : r.startup.entries.length ≤ app.registry.size := by
    have hstaffed := h.staffed
    rw [Staffed] at hstaffed
    split at hstaffed
    · simp [hstaffed.1, Startup.empty]
    · exact Nat.le_of_eq hstaffed
    · exact Nat.le_of_eq hstaffed
    · exact Nat.le_of_eq hstaffed.1
    · exact Nat.le_of_eq hstaffed.1
    · exact hstaffed.elim
    · exact hstaffed.elim
  exact ⟨_, List.getElem?_eq_getElem (Nat.lt_of_lt_of_le hlt hsize)⟩

end Run

end ServiceSupervisor
