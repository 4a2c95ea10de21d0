import ServiceSupervisor.Process
import ServiceSupervisor.Proofs.Hearing
import ServiceSupervisor.Proofs.Orderly
import ServiceSupervisor.Proofs.Verdict

/-!
The scope of the termination signals of a process.

* `Process.Move`: what can happen in a process, the middle of a poll included
  (`Process.step?_moves`, `Process.steps?_moves`);
* `Process.Scoped`: the dispositions are kept, every run is in order, and each listener that lives
  is that of one call (`Process.Scoped.move`);
* `Run.Summoned`: a run that waits has a signal on its way to it, and the clock stands still until
  it has left the wait (`Process.Summoned.move`);
* `SignalScope`: what holds of the signals at every moment of a process;
* `Process.signal_scope`: the theorem on the signals of a process.
-/

namespace ServiceSupervisor

namespace Process

variable {inherited : PerSignal Disposition} {p p' : Process} {place : Nat} {c : Call} {r : Run}

/-! ### Moves -/

/-- One move of a process. -/
inductive Move : Process → Process → Prop
  /-- One call makes a move. -/
  | call {p : Process} {place : Nat} {c : Call} {r : Run} (hk : p.killed = false)
      (hc : p.calls[place]? = some c) (hm : Run.Move c.app (c.under p.signals) r) :
      Move p (p.put place c r)
  /-- A signal comes from outside. -/
  | raise {p : Process} (signal : Signal) (hk : p.killed = false) : Move p (p.raise signal)
  /-- The runtime delivers what has been raised. -/
  | deliver {p : Process} (hk : p.killed = false) :
      Move p { p with signals := p.signals.deliver }
  /-- Time passes, at a moment at which nothing can go on. -/
  | pass {p : Process} {span : Nat} (hk : p.killed = false) (hr : p.rests span = true) :
      Move p { p with calls := p.calls.map (·.pass span) }

/-- A sequence of moves. -/
abbrev Moves : Process → Process → Prop := Relation.ReflTransGen Move

lemma resume_under (c : Call) (signals : Signals) : c.resume (c.under signals) = c := rfl

/-- A call that has not gone on leaves the process as it is. -/
lemma put_under (hc : p.calls[place]? = some c) : p.put place c (c.under p.signals) = p := by
  obtain ⟨hplace, rfl⟩ := List.getElem?_eq_some_iff.mp hc
  rw [put, resume_under, List.set_getElem_self]
  rfl

lemma put_put (c c' : Call) (r r' : Run) :
    (p.put place c r).put place c' r' = p.put place c' r' := by
  rw [put, put, put, List.set_set]

lemma getElem?_put (hc : p.calls[place]? = some c) (r : Run) (other : Nat) :
    (p.put place c r).calls[other]?
      = if place = other then some (c.resume r) else p.calls[other]? :=
  getElem?_set_cases hc

/-- Moves of one call are moves of the process. -/
lemma call_moves (hk : p.killed = false) (hc : p.calls[place]? = some c)
    (hm : Run.Moves c.app (c.under p.signals) r) : Moves p (p.put place c r) := by
  induction hm with
  | refl => rw [put_under hc]
  | @tail middle r _ hm ih =>
      have hmiddle : (p.put place c middle).calls[place]? = some (c.resume middle) := by
        rw [getElem?_put hc, if_pos rfl]
      have hlast : Move (p.put place c middle)
          ((p.put place c middle).put place (c.resume middle) r) := .call hk hmiddle hm
      rw [put_put] at hlast
      exact ih.tail hlast

/-- Whether the coordinators of all calls are at rest. -/
def Rested (p : Process) : Prop :=
  ∀ (place : Nat) (c : Call), p.calls[place]? = some c → c.run.Parked

lemma Rested.put (h : p.Rested) (hc : p.calls[place]? = some c) (hr : r.Parked) :
    (p.put place c r).Rested := by
  intro other c' hc'
  rw [getElem?_put hc] at hc'
  split at hc'
  · obtain rfl := Option.some.inj hc'
    exact hr
  · exact h other c' hc'

/-- A poll of a task of one call is a sequence of moves. -/
lemma poll_moves (hk : p.killed = false) (hr : p.Rested) {label : Run.Label}
    (h : p.poll place label = some p') : Moves p p' ∧ p'.Rested := by
  have hgo : ∀ label : Run.Label, (do
      let c ← p.calls[place]?
      let r ← (c.under p.signals).step? c.app label
      some (p.put place c r)) = some p' → Moves p p' ∧ p'.Rested := by
    intro label h
    obtain ⟨c, hc, h⟩ := Option.bind_eq_some_iff.mp h
    obtain ⟨r, hstep, h⟩ := Option.bind_eq_some_iff.mp h
    obtain rfl := Option.some.inj h
    have hparked : (c.under p.signals).Parked := hr place c hc
    obtain ⟨hmoves, hrest⟩ := Run.step?_moves c.app hparked hstep
    exact ⟨call_moves hk hc hmoves, hr.put hc hrest⟩
  cases label with
  | deliver => cases h
  | tick => cases h
  | supervisor patience prefers => exact hgo _ h
  | watch index => exact hgo _ h
  | entry index => exact hgo _ h
  | teardown number => exact hgo _ h
  | job owner number fires => exact hgo _ h

/-- A signal from outside leaves the calls alone. -/
lemma calls_raise (p : Process) (signal : Signal) : (p.raise signal).calls = p.calls := by
  rw [raise]
  split <;> rfl

/-- Every step of a process at rest is a sequence of moves, after which it is at rest. -/
theorem step?_moves {label : Label} (hr : p.Rested) (h : p.step? label = some p') :
    Moves p p' ∧ p'.Rested := by
  obtain ⟨hk, h⟩ := Option.ite_none_left_eq_some.mp h
  have hk : p.killed = false := Bool.eq_false_iff.mpr hk
  cases label with
  | call place label => exact poll_moves hk hr h
  | raise signal =>
      obtain rfl := Option.some.inj h
      exact ⟨.single (.raise signal hk), by rw [Rested, calls_raise]; exact hr⟩
  | deliver =>
      obtain ⟨-, h⟩ := Option.ite_none_left_eq_some.mp h
      obtain rfl := Option.some.inj h
      exact ⟨.single (.deliver hk), hr⟩
  | pass span =>
      obtain ⟨hrests, h⟩ := Option.ite_none_right_eq_some.mp h
      obtain rfl := Option.some.inj h
      refine ⟨.single (.pass hk hrests), fun place c hc => ?_⟩
      rw [List.getElem?_map] at hc
      obtain ⟨c', hc', rfl⟩ := Option.map_eq_some_iff.mp hc
      rw [Call.pass]
      split
      · exact hr place c' hc'
      · exact hr place c' hc'

/-- Every schedule of a process at rest is a sequence of moves, after which it is at rest. -/
theorem steps?_moves {labels : List Label} (hr : p.Rested) (h : p.steps? labels = some p') :
    Moves p p' ∧ p'.Rested := by
  induction labels generalizing p with
  | nil =>
      obtain rfl := Option.some.inj h
      exact ⟨.refl, hr⟩
  | cons label labels ih =>
      obtain ⟨next, hnext, hrest⟩ := Option.bind_eq_some_iff.mp h
      obtain ⟨hmoves, hrested⟩ := step?_moves hr hnext
      obtain ⟨hmoves', hrested'⟩ := ih hrested hrest
      exact ⟨hmoves.trans hmoves', hrested'⟩

/-! ### The listeners of the calls -/

/-- Whether the call at a place has the listener with a number. -/
def Owns (p : Process) (place number : Nat) : Prop :=
  ∃ c, p.calls[place]? = some c ∧ c.run.listener = some number

lemma owns_put (hc : p.calls[place]? = some c) (r : Run) (other number : Nat) :
    (p.put place c r).Owns other number
      ↔ if place = other then r.listener = some number else p.Owns other number := by
  rw [Owns, getElem?_put hc]
  split
  · exact ⟨fun ⟨c', hc', hl⟩ => by obtain rfl := Option.some.inj hc'; exact hl,
      fun hl => ⟨_, rfl, hl⟩⟩
  · rfl

lemma owns_iff_of_some (hc : p.calls[place]? = some c) (number : Nat) :
    p.Owns place number ↔ c.run.listener = some number := by
  rw [Owns, hc]
  constructor
  · rintro ⟨c', hc', hl⟩
    obtain rfl := Option.some.inj hc'
    exact hl
  · exact fun hl => ⟨_, rfl, hl⟩

/-- What every move of a process keeps. -/
structure Scoped (inherited : PerSignal Disposition) (p : Process) : Prop where
  /-- The dispositions are kept. -/
  kept : Signals.Kept inherited p.signals
  /-- Every run is in order. -/
  orderly : ∀ (place : Nat) (c : Call), p.calls[place]? = some c → Run.Orderly c.app c.run
  /-- The listeners that live are those of the calls. -/
  alive_iff : ∀ number, p.signals.isAlive number = true ↔ ∃ place, p.Owns place number
  /-- No two calls share a listener. -/
  unique : ∀ place other number, p.Owns place number → p.Owns other number → place = other
  /-- A process that a signal has ended had no listener. -/
  spared : p.killed = true → ∀ place number, ¬ p.Owns place number

namespace Scoped

lemma alive_of_owns (h : Scoped inherited p) {number : Nat} (ho : p.Owns place number) :
    p.signals.isAlive number = true := (h.alive_iff number).mpr ⟨place, ho⟩

lemma listener_iff (h : Scoped inherited p) (hc : p.calls[place]? = some c) :
    c.listens = true ↔ c.app.trigger = .signals ∧ c.run.control.listens = true :=
  (h.orderly place c hc).listener_iff

/-- A call goes on.  The listener that it has in the end is new, or the one that it had, and the
others live on. -/
lemma put (h : Scoped inherited p) (hk : p.killed = false) (hc : p.calls[place]? = some c)
    (ho : Run.Orderly c.app r) (hkept : Signals.Kept inherited r.world.signals)
    (halive : ∀ number, r.world.signals.isAlive number = true
      ↔ r.listener = some number ∨ p.signals.isAlive number = true ∧ c.run.listener ≠ some number)
    (hnew : ∀ number, r.listener = some number →
      c.run.listener = some number ∨ p.signals.isAlive number = false) :
    Scoped inherited (p.put place c r) := by
  have hshared : ∀ other number, r.listener = some number → p.Owns other number →
      place = other := by
    intro other number hl hother
    rcases hnew number hl with hold | hdead
    · exact h.unique place other number ((owns_iff_of_some hc number).mpr hold) hother
    · exact absurd (h.alive_of_owns hother) (by simp [hdead])
  refine ⟨hkept, ?_, fun number => ?_, ?_, fun hkilled => ?_⟩
  · intro other c' hc'
    rw [getElem?_put hc] at hc'
    split at hc'
    · obtain rfl := Option.some.inj hc'
      exact ⟨ho.staffed, ho.reporting, ho.listener_iff, ho.unbegun⟩
    · exact h.orderly other c' hc'
  · refine (halive number).trans ⟨?_, ?_⟩
    · rintro (hl | ⟨hold, hne⟩)
      · exact ⟨place, (owns_put hc r place number).mpr (by rwa [if_pos rfl])⟩
      · obtain ⟨other, hother⟩ := (h.alive_iff number).mp hold
        refine ⟨other, (owns_put hc r other number).mpr ?_⟩
        rw [if_neg]
        · exact hother
        · rintro rfl
          exact hne ((owns_iff_of_some hc number).mp hother)
    · rintro ⟨other, hother⟩
      rw [owns_put hc] at hother
      split at hother
      · exact .inl hother
      · rename_i hne
        refine .inr ⟨h.alive_of_owns hother, fun hl => hne ?_⟩
        exact h.unique place other number ((owns_iff_of_some hc number).mpr hl) hother
  · intro first second number hfirst hsecond
    rw [owns_put hc] at hfirst hsecond
    split at hfirst <;> split at hsecond
    · rename_i heq heq'
      exact heq.symm.trans heq'
    · rename_i heq hne
      exact absurd (hshared second number hfirst hsecond) hne
    · rename_i hne heq
      exact absurd (hshared first number hsecond hfirst) hne
    · exact h.unique first second number hfirst hsecond
  · exact absurd (hk.symm.trans hkilled) (by simp)

/-- A call goes on with the listener that it had. -/
lemma put_of_silenced (h : Scoped inherited p) (hk : p.killed = false)
    (hc : p.calls[place]? = some c) (ho : Run.Orderly c.app r) (hl : r.listener = c.run.listener)
    (hs : r.world.signals.silenced = p.signals.silenced) : Scoped inherited (p.put place c r) := by
  refine h.put hk hc ho (h.kept.of_silenced hs) (fun number => ?_) fun number hnumber => ?_
  · rw [Signals.isAlive_of_silenced hs, hl]
    refine ⟨fun halive => ?_, ?_⟩
    · by_cases hown : c.run.listener = some number
      · exact .inl hown
      · exact .inr ⟨halive, hown⟩
    · rintro (hown | ⟨halive, -⟩)
      · exact h.alive_of_owns ((owns_iff_of_some hc number).mpr hown)
      · exact halive
  · exact .inl (hl ▸ hnumber)

/-- A move of one call. -/
lemma call (h : Scoped inherited p) (hk : p.killed = false) (hc : p.calls[place]? = some c)
    (hm : Run.Move c.app (c.under p.signals) r) : Scoped inherited (p.put place c r) := by
  have horderly := h.orderly place c hc
  have hunder : Run.Orderly c.app (c.under p.signals) :=
    ⟨horderly.staffed, horderly.reporting, horderly.listener_iff, horderly.unbegun⟩
  have ho := hunder.move hm
  cases hm.signalSide with
  | install hidle hl hs =>
      have hnone : c.run.listener = none := by
        rw [← Option.not_isSome_iff_eq_none, horderly.listener_iff]
        have hcontrol : c.run.control = .idle := hidle
        simp [hcontrol, Control.listens]
      have hs : r.world.signals = p.signals.install := hs
      have hl : r.listener = some p.signals.listeners.length := hl
      refine h.put hk hc ho (hs ▸ h.kept.install) (fun number => ?_) fun number hnumber => .inr ?_
      · have hfree : (none : Option Nat) ≠ some number := by simp
        rw [hs, Signals.isAlive_install_iff, hl, hnone, and_iff_left hfree, Option.some_inj,
          or_comm, @eq_comm _ number]
      · obtain rfl := Option.some.inj (hl.symm.trans hnumber)
        exact Bool.eq_false_iff.mpr fun halive => Nat.lt_irrefl _ (Signals.lt_of_isAlive halive)
  | drop number hl hl' hs =>
      have hs : r.world.signals = p.signals.drop number := hs
      have hown : c.run.listener = some number := hl
      refine h.put hk hc ho (hs ▸ h.kept.drop number) (fun other => ?_) fun other hother => ?_
      · have hgone : ¬ (none : Option Nat) = some other := by simp
        rw [hs, Signals.isAlive_drop_iff, hl', hown, or_iff_right hgone, Ne, Ne, Option.some_inj,
          @eq_comm _ other]
      · exact absurd (hl'.symm.trans hother) (by simp)
  | receive number prefers signal hl hl' hs hcontrol =>
      exact h.put_of_silenced hk hc ho (hl'.trans hl.symm) (Signals.silenced_receive hs)
  | raise hl hs => exact h.put_of_silenced hk hc ho hl hs.silenced_eq
  | deliver hl hs =>
      exact h.put_of_silenced hk hc ho hl (by rw [hs]; exact p.signals.silenced_deliver)

/-- The signals change in a way that does not matter to the dispositions and the calls. -/
lemma of_silenced (h : Scoped inherited p) (hc : p'.calls = p.calls)
    (hk : p'.killed = p.killed) (hs : p'.signals.silenced = p.signals.silenced) :
    Scoped inherited p' := by
  have howns : ∀ place number, p'.Owns place number ↔ p.Owns place number := by
    intro place number
    rw [Owns, Owns, hc]
  refine ⟨h.kept.of_silenced hs, by rw [hc]; exact h.orderly, fun number => ?_, ?_, ?_⟩
  · rw [Signals.isAlive_of_silenced hs, h.alive_iff]
    exact exists_congr fun place => (howns place number).symm
  · intro place other number hplace hother
    exact h.unique place other number ((howns _ _).mp hplace) ((howns _ _).mp hother)
  · intro hkilled place number hown
    exact h.spared (hk.symm.trans hkilled) place number ((howns _ _).mp hown)

/-- A signal from outside. -/
lemma raise (h : Scoped inherited p) (signal : Signal) : Scoped inherited (p.raise signal) := by
  rw [Process.raise]
  split
  · -- It ends the process: no listener lives, for else it would have been handled.
    rename_i hfatal
    refine ⟨h.kept, h.orderly, h.alive_iff, h.unique, fun _ place number hown => ?_⟩
    have hraised := h.kept.effect_of_isAlive (h.alive_of_owns hown) signal
    rw [hfatal] at hraised
    cases hraised
  · exact h.of_silenced rfl rfl (p.signals.silenced_raise signal)

/-- Time passes. -/
lemma pass (h : Scoped inherited p) (span : Nat) :
    Scoped inherited { p with calls := p.calls.map (·.pass span) } := by
  have hpass : ∀ c : Call, (c.pass span).run.listener = c.run.listener := by
    intro c
    rw [Call.pass]
    split <;> rfl
  have howns : ∀ place number,
      Owns { p with calls := p.calls.map (·.pass span) } place number ↔ p.Owns place number := by
    intro place number
    simp only [Owns, List.getElem?_map, Option.map_eq_some_iff, exists_exists_and_eq_and, hpass]
  refine ⟨h.kept, ?_, fun number => ?_, ?_, ?_⟩
  · intro place c' hc'
    rw [List.getElem?_map] at hc'
    obtain ⟨c, hc, rfl⟩ := Option.map_eq_some_iff.mp hc'
    rw [Call.pass]
    split
    · exact h.orderly place c hc
    · rename_i hidle
      exact (h.orderly place c hc).atInstant hidle _
  · exact (h.alive_iff number).trans (exists_congr fun place => (howns place number).symm)
  · intro place other number hplace hother
    exact h.unique place other number ((howns _ _).mp hplace) ((howns _ _).mp hother)
  · intro hkilled place number hown
    exact h.spared hkilled place number ((howns _ _).mp hown)

/-- **Every move of a process keeps the scope of its listeners.** -/
theorem move (h : Scoped inherited p) (hm : Move p p') : Scoped inherited p' := by
  cases hm with
  | call hk hc hm => exact h.call hk hc hm
  | raise signal hk => exact h.raise signal
  | deliver hk => exact h.of_silenced rfl rfl p.signals.silenced_deliver
  | pass hk hr => exact h.pass _

lemma moves (h : Scoped inherited p) (hm : Moves p p') : Scoped inherited p' := by
  induction hm with
  | refl => exact h
  | tail _ hm ih => exact ih.move hm

end Scoped

/-- A call of a process that has just started. -/
lemma exists_of_start {apps : List Application} {wallClock : Nat → Nat → Timestamp}
    (hc : (start inherited apps wallClock).calls[place]? = some c) :
    ∃ app, c = ⟨app, .initial app (.ofDispositions inherited) (wallClock place)⟩ := by
  rw [start, List.getElem?_mapIdx] at hc
  obtain ⟨app, -, rfl⟩ := Option.map_eq_some_iff.mp hc
  exact ⟨app, rfl⟩

lemma scoped_start (inherited : PerSignal Disposition) (apps : List Application)
    (wallClock : Nat → Nat → Timestamp) : Scoped inherited (start inherited apps wallClock) := by
  have hnone : ∀ place number, ¬ (start inherited apps wallClock).Owns place number := by
    rintro place number ⟨c, hc, hl⟩
    obtain ⟨app, rfl⟩ := exists_of_start hc
    cases hl
  refine ⟨Signals.kept_ofDispositions inherited, fun place c hc => ?_, fun number => ?_, ?_, ?_⟩
  · obtain ⟨app, rfl⟩ := exists_of_start hc
    exact .initial app _ _
  · refine iff_of_false (fun halive => ?_) fun ⟨place, hown⟩ => hnone place number hown
    exact absurd (Signals.lt_of_isAlive halive) (Nat.not_lt_zero _)
  · intro place other number hown
    exact absurd hown (hnone place number)
  · exact fun _ => hnone

lemma rested_start (inherited : PerSignal Disposition) (apps : List Application)
    (wallClock : Nat → Nat → Timestamp) : (start inherited apps wallClock).Rested := by
  intro place c hc
  obtain ⟨app, rfl⟩ := exists_of_start hc
  trivial

end Process

/-! ### A run that is told to shut down -/

namespace Run

variable {app : Application} {r r' : Run} {instant : Nat}

/-- The run has left the wait; or it waits, a signal is on its way to its listener, and it is still
the given instant. -/
def Summoned (instant : Nat) (signals : Signals) (r : Run) : Prop :=
  r.chosen?.isSome = true ∨ r.control = .waiting ∧ r.world.now = instant ∧
    ∃ number, r.listener = some number ∧ signals.Alerted number

/-- A run that has left the wait does not come back to it. -/
lemma Move.isSome_chosen? (hm : Move app r r') (h : r.chosen?.isSome = true) :
    r'.chosen?.isSome = true := by
  cases hm.supervisorSide with
  | launch hc hr => simp [chosen?, hc] at h
  | fail exit exits culprit hc he hf hr => simp [chosen?, hc] at h
  | trigger prefers hc hd hr => simp [chosen?, hc] at h
  | collect first drained hc hr => simp [chosen?, hr]
  | judge first drained hc he hp hr => simp [chosen?, hr]
  | finish first hc ho hr =>
      obtain ⟨signals, heq⟩ := finish_eq first r
      simp [chosen?, hr, heq]
  | stay hc hphase hv hnow => rwa [chosen?, hc]
  | tick later hq hp hn hr => rwa [hr]

lemma Moves.isSome_chosen? (hm : Moves app r r') (h : r.chosen?.isSome = true) :
    r'.chosen?.isSome = true := by
  induction hm with
  | refl => exact h
  | tail _ hm ih => exact hm.isSome_chosen? ih

lemma triggerDue_of_signals (ht : app.trigger = .signals) {number : Nat}
    (hl : r.listener = some number) (hpending : r.world.signals.pending number ≠ []) :
    r.triggerDue app = true := by
  simp only [triggerDue, ht, hl, Bool.not_eq_true', List.isEmpty_eq_false_iff]
  exact hpending

/-- As long as a signal is on its way to a run that waits for it, something can go on. -/
lemma not_isQuiet_of_alerted (ht : app.trigger = .signals) (hc : r.control = .waiting)
    {number : Nat} (hl : r.listener = some number) (ha : r.world.signals.Alerted number) :
    r.isQuiet app ≠ true := by
  intro hq
  rcases ha.2 with hwaiting | hpending
  · simp only [isQuiet, Bool.and_eq_true, List.isEmpty_iff] at hq
    exact hwaiting hq.2
  · have hready := supervisorReady_of_isQuiet hq
    simp [supervisorReady, hc, triggerDue_of_signals ht hl hpending] at hready

/-- **Every move of a run that is summoned leads it out of the wait or leaves the signal on its
way.** -/
theorem Summoned.move (h : Summoned instant r.world.signals r) (ht : app.trigger = .signals)
    (hm : Move app r r') : Summoned instant r'.world.signals r' := by
  rcases h with hchosen | ⟨hwaiting, hnow, number, hl, ha⟩
  · exact .inl (hm.isSome_chosen? hchosen)
  have hstay : r'.control = r.control → r'.world.now = r.world.now →
      r'.listener = r.listener → r.world.signals.Louder r'.world.signals →
        Summoned instant r'.world.signals r' := fun hc hnow' hl' hs =>
    .inr ⟨hc.trans hwaiting, hnow'.trans hnow, number, hl'.trans hl, ha.of_louder hs⟩
  cases hm with
  | launch hc => exact absurd (hc.symm.trans hwaiting) (by simp)
  | skim hc he hok => exact hstay rfl rfl rfl (.refl _)
  | fail hc he hf => exact .inl rfl
  | trigger prefers hc hd => exact .inl rfl
  | collect hc => exact .inl rfl
  | judge hc he hp => exact .inl rfl
  | coordinate hc hm =>
      rcases hc with ⟨first, hc⟩ | hc
      · exact absurd (hc.symm.trans hwaiting) (by simp)
      · exact absurd (hc.symm.trans hwaiting) (by simp)
  | finish hc ho => exact absurd (hc.symm.trans hwaiting) (by simp)
  | spawnEntry he ht => exact hstay rfl rfl rfl (.refl _)
  | reportExit he ht => exact hstay rfl rfl rfl (.refl _)
  | entry he ht hr hp =>
      have hadv := EntryTask.advances_of_ready hr hp
      exact hstay rfl hadv.now_eq rfl hadv.louder
  | teardown ht hr hp =>
      have hadv := Task.advances_of_ready hr hp
      exact hstay rfl hadv.now_eq rfl hadv.louder
  | @job owner place fires hr =>
      have hrip := World.pollLoop_ripples r.world owner place fires
      exact hstay rfl hrip.now_eq rfl hrip.louder
  | deliver hw => exact .inr ⟨hwaiting, hnow, number, hl, ha.after_deliver⟩
  | tick hq hp hn => exact absurd hq (not_isQuiet_of_alerted ht hwaiting hl ha)

/-- A look at a trigger that has fired shows that, or a failure. -/
lemma look_of_due (patience : Nat) (exits : List Exit) :
    (look true patience exits).1 ≠ .nothing := by
  induction exits generalizing patience with
  | nil => simp [look]
  | cons exit exits ih =>
      rw [look]
      split
      · simp
      · split
        · simp
        · exact ih _

/-- A run that waits and is polled once its trigger has fired leaves the wait. -/
lemma isSome_chosen?_supervise (hc : r.control = .waiting) (hd : r.triggerDue app = true)
    (patience : Nat) (prefers : Signal) :
    (r.supervise app patience prefers).chosen?.isSome = true := by
  have hshut : ∀ (first : Option Culprit) (r : Run), (r.shutDown app first).chosen?.isSome = true :=
    fun first r => Moves.isSome_chosen? (drain_moves app first []
      { r with world := (r.world.enter .shuttingDown).cancel }).1 rfl
  have hsight := look_of_due patience r.startup.exits
  simp only [supervise, hc, awaitTrigger, hd]
  generalize look true patience r.startup.exits = seen at hsight ⊢
  obtain ⟨sight, exits⟩ := seen
  cases sight with
  | nothing => exact absurd rfl hsight
  | failed culprit => exact hshut _ _
  | triggered => exact hshut _ _

end Run

namespace Process

variable {inherited : PerSignal Disposition} {p p' : Process} {place instant : Nat} {c : Call}

/-- The call at a place, which termination signals end, has left the wait or is told to. -/
def Summoned (place instant : Nat) (p : Process) : Prop :=
  ∃ c, p.calls[place]? = some c ∧ c.app.trigger = .signals ∧ c.run.Summoned instant p.signals

/-- What another call does to the signals leaves a listener alerted. -/
lemma Scoped.alerted_of_call (h : Scoped inherited p) {number other : Nat} {c : Call} {r : Run}
    (ho : p.Owns place number) (hne : other ≠ place) (hc : p.calls[other]? = some c)
    (ha : p.signals.Alerted number) (hm : Run.Move c.app (c.under p.signals) r) :
    r.world.signals.Alerted number := by
  have hother : ∀ taken, c.run.listener = some taken → number ≠ taken := by
    rintro taken hl rfl
    exact hne (h.unique other place number ((owns_iff_of_some hc number).mpr hl) ho)
  cases hm.signalSide with
  | install hidle hl hs => exact hs ▸ ha.install
  | drop taken hl hl' hs => exact hs ▸ ha.drop (hother taken hl)
  | receive taken prefers signal hl hl' hs hcontrol => exact ha.receive (hother taken hl) hs
  | raise hl hs => exact ha.of_louder hs
  | deliver hl hs => exact hs ▸ ha.after_deliver

/-- As long as a call is summoned and waits, no time passes. -/
lemma not_rests_of_summoned {c : Call} (hc : p.calls[place]? = some c)
    (ht : c.app.trigger = .signals) (hwaiting : c.run.control = .waiting) {number : Nat}
    (hl : c.run.listener = some number) (ha : p.signals.Alerted number) (span : Nat) :
    p.rests span ≠ true := by
  intro hr
  simp only [rests, Bool.and_eq_true, List.all_eq_true] at hr
  have hrests := hr.2 c (List.mem_of_getElem? hc)
  simp only [Call.rests, hwaiting, reduceCtorEq, decide_false, Bool.false_or,
    Bool.and_eq_true] at hrests
  exact Run.not_isQuiet_of_alerted (r := c.under p.signals) ht hwaiting hl ha hrests.1

/-- **Every move of a process leads a call that is summoned out of the wait or leaves the signal on
its way.** -/
theorem Summoned.move (h : Summoned place instant p) (hs : Scoped inherited p) (hm : Move p p') :
    Summoned place instant p' := by
  obtain ⟨c, hc, ht, hsummoned⟩ := h
  cases hm with
  | @call other c' r hk hc' hm =>
      by_cases heq : other = place
      · subst heq
        obtain rfl := Option.some.inj (hc.symm.trans hc')
        refine ⟨c.resume r, by rw [getElem?_put hc, if_pos rfl], ht, ?_⟩
        have hunder : (c.under p.signals).Summoned instant p.signals := hsummoned
        exact hunder.move ht hm
      · refine ⟨c, by rw [getElem?_put hc', if_neg heq]; exact hc, ht, ?_⟩
        refine hsummoned.imp_right fun ⟨hwaiting, hnow, number, hl, ha⟩ => ?_
        have hown := (owns_iff_of_some hc number).mpr hl
        exact ⟨hwaiting, hnow, number, hl, hs.alerted_of_call hown heq hc' ha hm⟩
  | raise signal hk =>
      refine ⟨c, by rw [calls_raise]; exact hc, ht, ?_⟩
      refine hsummoned.imp_right fun ⟨hwaiting, hnow, number, hl, ha⟩ => ?_
      refine ⟨hwaiting, hnow, number, hl, ?_⟩
      rw [raise]
      split
      · exact ha
      · exact ha.of_louder (.raise _ signal)
  | deliver hk =>
      refine ⟨c, hc, ht, hsummoned.imp_right fun ⟨hwaiting, hnow, number, hl, ha⟩ => ?_⟩
      exact ⟨hwaiting, hnow, number, hl, ha.after_deliver⟩
  | @pass span hk hr =>
      refine ⟨c.pass span, by rw [List.getElem?_map, hc, Option.map_some], ?_, .inl ?_⟩
      · rw [Call.pass]
        split <;> exact ht
      · rcases hsummoned with hchosen | ⟨hwaiting, hnow, number, hl, ha⟩
        · rw [Call.pass]
          split <;> exact hchosen
        · exact absurd hr (not_rests_of_summoned hc ht hwaiting hl ha span)

lemma Summoned.moves (h : Summoned place instant p) (hs : Scoped inherited p)
    (hm : Moves p p') : Summoned place instant p' := by
  induction hm with
  | refl => exact h
  | tail hms hm ih => exact ih.move (hs.moves hms) hm

/-- The call at a place has begun to shut down.  Or it is still the given instant, no time can pass,
and two steps are enough. -/
def Answers (place instant : Nat) (p : Process) : Prop :=
  ∃ c, p.calls[place]? = some c ∧
    (c.run.chosen?.isSome = true ∨ c.run.world.now = instant ∧
      (∀ span, p.step? (.pass span) = none) ∧
        ∃ labels p' c', labels.length ≤ 2 ∧ p.steps? labels = some p' ∧
          p'.calls[place]? = some c' ∧ c'.run.chosen?.isSome = true)

/-- A poll of the supervisor leads a call out of the wait once a signal is pending. -/
lemma exists_poll (hk : p.killed = false) (hc : p.calls[place]? = some c)
    (ht : c.app.trigger = .signals) (hwaiting : c.run.control = .waiting) {number : Nat}
    (hl : c.run.listener = some number) (hpending : p.signals.pending number ≠ []) :
    ∃ p' c', p.step? (.call place (.supervisor 0 .interrupt)) = some p' ∧
      p'.calls[place]? = some c' ∧ c'.run.chosen?.isSome = true := by
  have hdue : (c.under p.signals).triggerDue c.app = true :=
    Run.triggerDue_of_signals (r := c.under p.signals) ht hl hpending
  have hcontrol : (c.under p.signals).control = .waiting := hwaiting
  have hready : (c.under p.signals).supervisorReady c.app = true := by
    simp [Run.supervisorReady, hcontrol, hdue]
  have hchosen := Run.isSome_chosen?_supervise hcontrol hdue 0 .interrupt
  refine ⟨p.put place c ((c.under p.signals).supervise c.app 0 .interrupt),
    c.resume ((c.under p.signals).supervise c.app 0 .interrupt), ?_, ?_, hchosen⟩
  · simp [step?, hk, poll, hc, Run.step?, hready]
  · rw [getElem?_put hc, if_pos rfl]

/-- A call that is summoned answers. -/
theorem Summoned.answers (h : Summoned place instant p) (hs : Scoped inherited p) :
    Answers place instant p := by
  obtain ⟨c, hc, ht, hchosen | ⟨hwaiting, hnow, number, hl, ha⟩⟩ := h
  · exact ⟨c, hc, .inl hchosen⟩
  have hown := (owns_iff_of_some hc number).mpr hl
  have hk : p.killed = false := Bool.eq_false_iff.mpr fun hk => hs.spared hk place number hown
  refine ⟨c, hc, .inr ⟨hnow, fun span => ?_, ?_⟩⟩
  · simp [step?, hk, not_rests_of_summoned hc ht hwaiting hl ha span]
  · by_cases hpending : p.signals.pending number = []
    · -- The signal has to be delivered first.
      have hwait : p.signals.waiting.isEmpty = false :=
        List.isEmpty_eq_false_iff.mpr (ha.2.resolve_right fun hne => hne hpending)
      have hdeliver : p.step? .deliver = some { p with signals := p.signals.deliver } := by
        simp [step?, hk, hwait]
      obtain ⟨p', c', hstep, hc', hchosen⟩ := exists_poll (p := { p with
        signals := p.signals.deliver }) hk hc ht hwaiting hl ha.deliver
      refine ⟨[.deliver, .call place (.supervisor 0 .interrupt)], p', c', Nat.le_refl 2, ?_, hc',
        hchosen⟩
      simp [steps?, hdeliver, hstep]
    · obtain ⟨p', c', hstep, hc', hchosen⟩ := exists_poll hk hc ht hwaiting hl hpending
      refine ⟨[.call place (.supervisor 0 .interrupt)], p', c', by simp, ?_, hc', hchosen⟩
      simp [steps?, hstep]

/-- A signal that waits for delivery summons every call that waits for one. -/
lemma Scoped.summoned (h : Scoped inherited p) (hc : p.calls[place]? = some c)
    (ht : c.app.trigger = .signals) (hwaiting : c.run.control = .waiting)
    (hraised : p.signals.waiting ≠ []) : Summoned place c.run.world.now p := by
  have hlistens : c.listens = true := (h.listener_iff hc).mpr ⟨ht, by rw [hwaiting]; rfl⟩
  obtain ⟨number, hl⟩ := Option.isSome_iff_exists.mp hlistens
  have halive := h.alive_of_owns ((owns_iff_of_some hc number).mpr hl)
  exact ⟨c, hc, ht, .inr ⟨hwaiting, rfl, number, hl, halive, .inl hraised⟩⟩

end Process

/-! ### The theorem on the signals of a process -/

/-- What holds of the signals at every moment of a process that had the given dispositions before it
began. -/
structure SignalScope (inherited : PerSignal Disposition) (p : Process) : Prop where
  /-- A call that termination signals end listens from the launch of its entry routines until it
  returns, and no other call does. -/
  listens_iff : ∀ c ∈ p.calls, c.listens = true
    ↔ c.app.trigger = .signals ∧ c.run.control ≠ .idle ∧ c.run.result? = none
  /-- Before the launch nothing has happened to its entry routines, and no teardown has been spawned
  or reported. -/
  unbegun : ∀ c ∈ p.calls, c.run.control = .idle →
    c.run.entryTrace = [] ∧ c.run.world.trace.about Event.isOfCoordinator = []
  /-- A move with which an entry routine begins, ends or is reported, or a teardown is spawned or
  reported, starts and ends while the call listens. -/
  acts : ∀ c ∈ p.calls, c.app.trigger = .signals → ∀ r, Run.Move c.app (c.under p.signals) r →
    (r.entryTrace ≠ c.run.entryTrace ∨ r.world.trace.about Event.isOfCoordinator
      ≠ c.run.world.trace.about Event.isOfCoordinator) →
        c.listens = true ∧ r.listener.isSome = true
  /-- When it returns, with whatever result, every teardown has been reported. -/
  returned : ∀ c ∈ p.calls, c.run.result?.isSome = true →
    c.run.teardown.reports.length = c.app.registry.size
  /-- While some call listens the runtime handles both signals, and one that comes does not end the
  process but waits for delivery. -/
  armed : (∃ c ∈ p.calls, c.listens = true) → p.killed = false ∧ ∀ signal,
    p.signals.current.get signal = .listening ∧
      p.raise signal = { p with signals := p.signals.raise signal } ∧
        signal ∈ (p.signals.raise signal).waiting
  /-- While none does the process does on both what it did before it began: one that comes ends the
  process if it did so then, and is not kept unless it was kept then. -/
  restored : (∀ c ∈ p.calls, c.listens = false) → ∀ signal,
    p.signals.current.get signal = inherited.get signal ∧
      (inherited.get signal = .default → (p.raise signal).killed = true) ∧
        (inherited.get signal ≠ .listening → p.signals.raise signal = p.signals)

/-- The store and the server, until a termination signal comes. -/
def Application.signalled : Application := { storeAndServer with trigger := .signals }

namespace Process

variable {inherited : PerSignal Disposition} {p p' : Process} {place instant : Nat} {c : Call}

/-- A signal for which the runtime listens waits for delivery once it is raised. -/
lemma mem_waiting_raise {s : Signals} {signal : Signal}
    (h : s.current.get signal = .listening) : signal ∈ (s.raise signal).waiting := by
  rw [Signals.raise, h]
  cases signal <;> simp [Signals.waiting, Signal.all, PerSignal.get, PerSignal.set]

/-- A call that listens has begun and has not returned. -/
lemma listens_control_iff {app : Application} {r : Run} (h : Run.Staffed app r) :
    r.control.listens = true ↔ r.control ≠ .idle ∧ r.result? = none := by
  cases hc : r.control with
  | idle => simp [Control.listens]
  | waiting => simp [Control.listens, Run.result?, hc]
  | draining first drained => simp [Control.listens, Run.result?, hc]
  | stopping first => simp [Control.listens, Run.result?, hc]
  | returned first => simp [Control.listens, Run.result?, hc]
  | abandoned => simp [Run.Staffed, hc] at h
  | byHand => simp [Run.Staffed, hc] at h

/-- The invariant tells all that holds of the signals. -/
theorem Scoped.signalScope (h : Scoped inherited p) : SignalScope inherited p := by
  have hat : ∀ c ∈ p.calls, ∃ place, p.calls[place]? = some c :=
    fun c hc => List.mem_iff_getElem?.mp hc
  refine ⟨fun c hc => ?_, fun c hc => ?_, fun c hc ht r hm hne => ?_, fun c hc hresult => ?_,
    ?_, fun hnone signal => ?_⟩
  · obtain ⟨place, hplace⟩ := hat c hc
    rw [h.listener_iff hplace, listens_control_iff (h.orderly place c hplace).staffed]
  · obtain ⟨place, hplace⟩ := hat c hc
    exact (h.orderly place c hplace).unbegun
  · obtain ⟨place, hplace⟩ := hat c hc
    have horderly : Run.Orderly c.app (c.under p.signals) :=
      have ho := h.orderly place c hplace
      ⟨ho.staffed, ho.reporting, ho.listener_iff, ho.unbegun⟩
    have hlistens : (c.under p.signals).control.listens = true ∧ r.control.listens = true :=
      hne.elim (hm.listens_of_entryTrace horderly.staffed)
        (hm.listens_of_coordinator horderly.staffed)
    exact ⟨horderly.listener_iff.mpr ⟨ht, hlistens.1⟩,
      (horderly.move hm).listener_iff.mpr ⟨ht, hlistens.2⟩⟩
  · obtain ⟨place, hplace⟩ := hat c hc
    obtain ⟨first, hfirst⟩ := Option.isSome_iff_exists.mp hresult
    have hreporting := (h.orderly place c hplace).reporting
    rwa [Run.Reporting, Run.control_of_result? hfirst] at hreporting
  · rintro ⟨c, hc, hlistens⟩
    obtain ⟨place, hplace⟩ := hat c hc
    obtain ⟨number, hl⟩ := Option.isSome_iff_exists.mp hlistens
    have hown := (owns_iff_of_some hplace number).mpr hl
    have hcurrent := h.kept.current_of_isAlive (h.alive_of_owns hown)
    refine ⟨Bool.eq_false_iff.mpr fun hk => h.spared hk place number hown, fun signal => ?_⟩
    have hget : p.signals.current.get signal = .listening := by
      rw [hcurrent, PerSignal.get_both]
    refine ⟨hget, ?_, mem_waiting_raise hget⟩
    rw [Process.raise, h.kept.effect_of_isAlive (h.alive_of_owns hown)]
  · have hdead : ∀ number, p.signals.isAlive number = false := by
      intro number
      refine Bool.eq_false_iff.mpr fun halive => ?_
      obtain ⟨place, c, hplace, hl⟩ := (h.alive_iff number).mp halive
      have hfalse := hnone c (List.mem_of_getElem? hplace)
      rw [Call.listens, hl] at hfalse
      cases hfalse
    have hcurrent := h.kept.current_of_not_isAlive hdead
    refine ⟨by rw [hcurrent], fun hdefault => ?_, fun hne => ?_⟩
    · rw [Process.raise, Signals.effect, hcurrent, hdefault]
    · rw [Signals.raise, hcurrent]
      split
      · rename_i heq
        exact absurd heq hne
      · rfl

/-- **The scope of the termination signals.**  Whatever applications a process runs, one after
another or side by side, whatever their routines do, in whatever order everything goes on, and
whatever signals come meanwhile: at every moment the signals are in scope, and a signal that waits
for delivery makes every call that waits for one shut down, before any time passes. -/
theorem signal_scope (inherited : PerSignal Disposition) (apps : List Application)
    (wallClock : Nat → Nat → Timestamp) (labels : List Label) (p : Process)
    (h : (start inherited apps wallClock).steps? labels = some p) :
    (∀ moment, Moves p moment → SignalScope inherited moment) ∧
      ∀ place c, p.calls[place]? = some c → c.app.trigger = .signals →
        c.run.control = .waiting → p.signals.waiting ≠ [] →
          ∀ more later, p.steps? more = some later → Answers place c.run.world.now later := by
  obtain ⟨hmoves, hrested⟩ := steps?_moves (rested_start inherited apps wallClock) h
  have hscoped := (scoped_start inherited apps wallClock).moves hmoves
  refine ⟨fun moment hm => (hscoped.moves hm).signalScope, ?_⟩
  intro place c hc ht hwaiting hraised more later hlater
  obtain ⟨hmoves', -⟩ := steps?_moves hrested hlater
  exact ((hscoped.summoned hc ht hwaiting hraised).moves hscoped hmoves').answers
    (hscoped.moves hmoves')

/-- Two calls of the store and the server, up to the signal that ends both.  The second call goes on
while the first tears down, and so the second signal is kept; the third one comes after both have
returned. -/
def overlappingSchedule : List Label :=
  let each (label : Run.Label) : List Label := [.call 0 label, .call 1 label]
  each (.supervisor 0 .interrupt) ++ [.raise .terminate, .deliver]
    ++ each (.supervisor 0 .interrupt) ++ each (.watch 0) ++ each (.watch 1) ++ each (.entry 0)
    ++ each (.entry 1) ++ [.pass 1] ++ each (.entry 0) ++ each (.watch 0)
    ++ each (.supervisor 0 .interrupt) ++ [.pass 2] ++ each (.entry 1) ++ each (.watch 1)
    ++ each (.supervisor 0 .interrupt) ++ each (.teardown 0) ++ [.pass 2] ++ each (.teardown 0)
    ++ [.call 0 (.supervisor 0 .interrupt), .raise .interrupt, .deliver,
      .call 1 (.supervisor 0 .interrupt), .raise .interrupt]

/-- The signal that comes after both calls have returned ends a process that it would have ended
before they began. -/
theorem signal_scope_of_overlapping : ∃ p,
    (start ⟨.default, .ignored⟩ [.signalled, .signalled] fun _ _ => 0).steps? overlappingSchedule
        = some p ∧
      p.killed = true ∧ SignalScope ⟨.default, .ignored⟩ p :=
  ⟨_, rfl, rfl, (signal_scope ⟨.default, .ignored⟩ [.signalled, .signalled] (fun _ _ => 0)
    overlappingSchedule _ rfl).1 _ .refl⟩

end Process

end ServiceSupervisor
