import ServiceSupervisor.Proofs.Listening

/-!
What the runs of a process do to its listeners and to the signals raised.

* `Signals.isAlive_install_iff`, `Signals.isAlive_drop_iff`: which listeners live after an
  installation and after a drop;
* `Signals.Alerted`: a listener that lives has a signal pending, or one waits for delivery.  That
  lasts as long as the listener is left alone (`Signals.Alerted.mono`), deliveries included
  (`Signals.Alerted.deliver`);
* `Run.SignalSide`: what a move does to the signals (`Run.Move.signalSide`): a run installs one
  listener and drops or reads no other, and its routines raise signals.
-/

namespace ServiceSupervisor

namespace Signals

variable {s s' : Signals} {number : Nat}

/-! ### The listeners that live -/

lemma lt_of_isAlive (h : s.isAlive number = true) : number < s.listeners.length := by
  refine Nat.lt_of_not_le fun hge => ?_
  rw [isAlive, List.getElem?_eq_none hge] at h
  cases h

lemma isAlive_congr (h : s'.listeners[number]? = s.listeners[number]?) :
    s'.isAlive number = s.isAlive number := by
  rw [isAlive, isAlive, h]

lemma isAlive_of_silenced (h : s'.silenced = s.silenced) (number : Nat) :
    s'.isAlive number = s.isAlive number := by
  rw [← isAlive_silenced, h, isAlive_silenced]

/-- An installation adds one listener to those that live. -/
lemma isAlive_install_iff (s : Signals) (number : Nat) :
    s.install.isAlive number = true ↔ s.isAlive number = true ∨ number = s.listeners.length := by
  rcases Nat.lt_trichotomy number s.listeners.length with hlt | rfl | hgt
  · have hsame : s.install.listeners[number]? = s.listeners[number]? := by
      rw [listeners_install, List.getElem?_append_left hlt]
    rw [isAlive_congr hsame]
    exact (or_iff_left (Nat.ne_of_lt hlt)).symm
  · exact iff_of_true s.isAlive_install (.inr rfl)
  · refine iff_of_false (fun h => ?_) (fun h => ?_)
    · have hlt := lt_of_isAlive h
      rw [listeners_install, List.length_append, List.length_singleton] at hlt
      omega
    · rcases h with h | h
      · exact Nat.lt_asymm hgt (lt_of_isAlive h)
      · exact Nat.ne_of_gt hgt h

lemma listeners_drop (s : Signals) (number other : Nat) (hne : other ≠ number) :
    (s.drop number).listeners[other]? = s.listeners[other]? := by
  rw [drop]
  split
  · exact List.getElem?_modify_ne _ _ (Ne.symm hne)
  · rfl

/-- A drop takes one listener from those that live. -/
lemma isAlive_drop_iff (s : Signals) (number other : Nat) :
    (s.drop number).isAlive other = true ↔ s.isAlive other = true ∧ other ≠ number := by
  by_cases hne : other = number
  · subst hne
    refine iff_of_false (fun h => ?_) fun h => h.2 rfl
    by_cases halive : s.isAlive other = true
    · rw [drop, if_pos halive, isAlive, List.getElem?_modify] at h
      cases hl : s.listeners[other]? <;> simp [hl] at h
    · rw [drop, if_neg halive] at h
      exact halive h
  · rw [isAlive_congr (s.listeners_drop number other hne), and_iff_left hne]

/-! ### Signals on their way to a listener -/

lemma waiting_remember (s : Signals) (signal : Signal) :
    (s.remember signal).waiting = s.waiting := by
  rw [remember]
  split <;> rfl

lemma waiting_register (s : Signals) (signal : Signal) :
    (s.register signal).waiting = s.waiting := by
  rw [register]
  split <;> rfl

lemma waiting_install (s : Signals) : s.install.waiting = s.waiting := by
  show ((((s.remember .interrupt).remember .terminate).register .interrupt).register
    .terminate).waiting = _
  rw [waiting_register, waiting_register, waiting_remember, waiting_remember]

lemma waiting_drop (s : Signals) (number : Nat) : (s.drop number).waiting = s.waiting := by
  rw [Signals.drop]
  split
  · show s.disarm.waiting = s.waiting
    rw [disarm]
    split <;> rfl
  · rfl

/-- What is delivered to a listener that lives is pending there, with all that was before. -/
lemma pending_foldl_notify (kinds : List Signal) (l : Listener) (hl : l.alive = true)
    (signal : Signal) : (kinds.foldl notify l).pending.get signal
      = (l.pending.get signal || kinds.contains signal) := by
  induction kinds generalizing l with
  | nil => simp
  | cons kind kinds ih =>
      have hstep : notify l kind = { l with pending := l.pending.set true kind } := by
        rw [notify, if_pos hl]
      have hlater := ih { l with pending := l.pending.set true kind } hl
      rw [List.foldl_cons, hstep, hlater, List.contains_cons]
      cases kind <;> cases signal <;> first | rfl | simp [PerSignal.get, PerSignal.set]

/-- A listener that lives has a signal pending, or one waits for delivery. -/
def Alerted (s : Signals) (number : Nat) : Prop :=
  s.isAlive number = true ∧ (s.waiting ≠ [] ∨ s.pending number ≠ [])

lemma pending_congr (h : s'.listeners[number]? = s.listeners[number]?) :
    s'.pending number = s.pending number := by
  rw [pending, pending, h]

namespace Alerted

/-- What is done to other listeners, and what is raised, leaves a listener alerted. -/
lemma mono (h : s.Alerted number) (hl : s'.listeners[number]? = s.listeners[number]?)
    (hw : s.waiting ⊆ s'.waiting) : s'.Alerted number := by
  refine ⟨(isAlive_congr hl).trans h.1, h.2.imp (fun hne hnil => ?_) fun hne => ?_⟩
  · exact hne (List.subset_nil.mp (hnil ▸ hw))
  · rwa [pending_congr hl]

lemma of_louder (h : s.Alerted number) (hs : s.Louder s') : s'.Alerted number :=
  h.mono (by rw [hs.listeners_eq]) hs.waiting_subset

lemma install (h : s.Alerted number) : s.install.Alerted number := by
  refine h.mono ?_ (by rw [waiting_install]; exact List.Subset.refl _)
  rw [listeners_install, List.getElem?_append_left (lt_of_isAlive h.1)]

lemma drop (h : s.Alerted number) {other : Nat} (hne : number ≠ other) :
    (s.drop other).Alerted number :=
  h.mono (s.listeners_drop other number hne) (by rw [waiting_drop]; exact List.Subset.refl _)

lemma receive (h : s.Alerted number) {other : Nat} {prefers signal : Signal}
    (hne : number ≠ other) (hs : s.receive other prefers = some (signal, s')) :
    s'.Alerted number := by
  rw [Signals.receive] at hs
  split at hs
  · cases hs
  · obtain ⟨-, rfl⟩ := Prod.mk.inj (Option.some.inj hs)
    refine h.mono ?_ (List.Subset.refl _)
    exact List.getElem?_modify_ne _ _ (Ne.symm hne)

/-- Once everything has been delivered a signal is pending. -/
lemma deliver (h : s.Alerted number) : s.deliver.pending number ≠ [] := by
  obtain ⟨halive, hsome⟩ := h
  rw [isAlive] at halive
  cases hl : s.listeners[number]? with
  | none => simp [hl] at halive
  | some l =>
      have hlive : l.alive = true := by simpa [hl] using halive
      have hpending : s.deliver.pending number
          = Signal.all.filter (s.waiting.foldl notify l).pending.get := by
        rw [pending, Signals.deliver, List.getElem?_map, hl, Option.map_some]
        simp only [alive_foldl_notify, hlive, if_true]
      have hold : s.pending number = Signal.all.filter l.pending.get := by
        simp only [pending, hl, hlive, if_true]
      rw [hpending, Ne, List.filter_eq_nil_iff]
      intro hnone
      rcases hsome with hwaiting | hpend
      · obtain ⟨signal, hsignal⟩ := List.exists_mem_of_ne_nil _ hwaiting
        refine hnone signal (List.mem_filter.mp hsignal).1 ?_
        rw [pending_foldl_notify _ _ hlive]
        simp [hsignal]
      · rw [hold, Ne, List.filter_eq_nil_iff] at hpend
        refine hpend fun signal hsignal hget => hnone signal hsignal ?_
        rw [pending_foldl_notify _ _ hlive, hget, Bool.true_or]

lemma after_deliver (h : s.Alerted number) : s.deliver.Alerted number :=
  ⟨(isAlive_of_silenced s.silenced_deliver number).trans h.1, .inr h.deliver⟩

end Alerted

end Signals

/-! ### What a move does to the signals -/

namespace Run

variable {app : Application} {r r' : Run}

/-- The second state comes from the first by a move, as far as the signals are concerned. -/
inductive SignalSide (r r' : Run) : Prop
  /-- The supervisor installs a listener. -/
  | install (hc : r.control = .idle)
      (hl : r'.listener = some r.world.signals.listeners.length)
      (hs : r'.world.signals = r.world.signals.install)
  /-- The supervisor drops its listener. -/
  | drop (number : Nat) (hl : r.listener = some number) (hl' : r'.listener = none)
      (hs : r'.world.signals = r.world.signals.drop number)
  /-- The supervisor takes a pending signal from its listener, and leaves the wait. -/
  | receive (number : Nat) (prefers signal : Signal) (hl : r.listener = some number)
      (hl' : r'.listener = some number)
      (hs : r.world.signals.receive number prefers = some (signal, r'.world.signals))
      (hc : r'.control = .draining none [])
  /-- Signals are raised. -/
  | raise (hl : r'.listener = r.listener) (hs : r.world.signals.Louder r'.world.signals)
  /-- The runtime delivers what has been raised. -/
  | deliver (hl : r'.listener = r.listener) (hs : r'.world.signals = r.world.signals.deliver)

/-- Nothing is done to the signals. -/
lemma SignalSide.rest (hl : r'.listener = r.listener) (hs : r'.world.signals = r.world.signals) :
    SignalSide r r' := .raise hl (hs ▸ .refl _)

lemma signalSide_launch (app : Application) (hc : r.control = .idle) :
    SignalSide r (r.launch app) := by
  cases ht : app.trigger with
  | signals =>
      refine .install hc ?_ ?_
      · rw [launch, installListener, ht]
      · rw [launch, installListener, ht]
        rfl
  | never =>
      refine .rest ?_ ?_
      · simp only [launch, installListener, ht]
      · simp only [launch, installListener, ht]
        rfl
  | atInstant instant =>
      refine .rest ?_ ?_
      · simp only [launch, installListener, ht]
      · simp only [launch, installListener, ht]
        rfl

lemma signalSide_finish (first : Option Culprit) (r : Run) : SignalSide r (r.finish first) := by
  cases hl : r.listener with
  | none =>
      have hfinish : r.finish first = { r with
          world := (r.world.enter .stopped).emit
            (.finished r.teardown.clean r.teardown.reports.length)
          control := .returned first } := by
        rw [finish, dropListener]
        simp only [hl]
      rw [hfinish]
      exact .rest rfl rfl
  | some number =>
      refine .drop number hl ?_ ?_
      · rw [finish, dropListener]
        simp only [hl]
      · rw [finish, dropListener]
        simp only [hl]
        rfl

/-- The signals are those of the look, if the rest of the state is another. -/
lemma signalSide_observeSignal (prefers : Signal) (r : Run)
    (hl : r'.listener = (r.observeSignal prefers).listener)
    (hs : r'.world.signals = (r.observeSignal prefers).world.signals)
    (hc : r'.control = .draining none []) : SignalSide r r' := by
  cases hreceive : r.listener.bind fun number => r.world.signals.receive number prefers with
  | none =>
      have hobserve : r.observeSignal prefers = r := by
        simp only [observeSignal, hreceive]
      rw [hobserve] at hl hs
      exact .rest hl hs
  | some found =>
      obtain ⟨signal, signals⟩ := found
      obtain ⟨number, hnumber, htaken⟩ := Option.bind_eq_some_iff.mp hreceive
      have hobserve : r.observeSignal prefers
          = { r with world := ({ r.world with signals }).emit (.signalObserved signal) } := by
        simp only [observeSignal, hreceive]
      rw [hobserve] at hl hs
      exact .receive number prefers signal hnumber (hl.trans hnumber)
        (htaken.trans (by rw [hs]; rfl)) hc

/-- Every move is one of these to the signals. -/
lemma Move.signalSide (hm : Move app r r') : SignalSide r r' := by
  cases hm with
  | launch hc => exact signalSide_launch app hc
  | skim hc he hok => exact .rest rfl rfl
  | fail hc he hf => exact .rest rfl rfl
  | trigger prefers hc hd => exact signalSide_observeSignal prefers r rfl rfl rfl
  | collect hc => exact .rest rfl rfl
  | judge hc he hp => exact .rest rfl (by rw [World.emitAll_eq])
  | coordinate hc hm => exact .rest rfl (by cases hm <;> rfl)
  | finish hc ho => exact signalSide_finish _ r
  | spawnEntry he ht => exact .rest rfl rfl
  | reportExit he ht => exact .rest rfl rfl
  | entry he ht hr hp => exact .raise rfl (EntryTask.advances_of_ready hr hp).louder
  | teardown ht hr hp => exact .raise rfl (Task.advances_of_ready hr hp).louder
  | job fires hr => exact .raise rfl (World.pollLoop_ripples _ _ _ fires).louder
  | deliver hw => exact .deliver rfl rfl
  | tick hq hp hn => exact .rest rfl rfl

end Run

end ServiceSupervisor
