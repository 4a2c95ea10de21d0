import ServiceSupervisor.Proofs.Reached

/-!
The listener of a run that termination signals end.

* `Run.Listening`: the dispositions of the process are kept, and the listener of the run lives from
  the launch until the supervisor returns; every move keeps that (`Run.Listening.move`), whatever
  was done to the signals of the process before the run (`Run.listening_of_moves`);
* `Run.Listening.raised`: as long as the listener lives neither signal ends the process.
-/

namespace ServiceSupervisor

/-- Whether a supervisor that does this has a listener, if termination signals end its run. -/
def Control.listens : Control → Bool
  | .waiting | .draining _ _ | .stopping _ => true
  | .idle | .returned _ | .abandoned | .byHand => false

namespace Signals

lemma listeners_remember (s : Signals) (signal : Signal) :
    (s.remember signal).listeners = s.listeners := by
  rw [remember]
  split <;> rfl

lemma listeners_register (s : Signals) (signal : Signal) :
    (s.register signal).listeners = s.listeners := by
  rw [register]
  split <;> rfl

/-- A new listener comes after all others. -/
lemma listeners_install (s : Signals) :
    s.install.listeners = s.listeners ++ [⟨true, .both false⟩] := by
  show ((((s.remember .interrupt).remember .terminate).register .interrupt).register
    .terminate).listeners ++ _ = _
  rw [listeners_register, listeners_register, listeners_remember, listeners_remember]

/-- A new listener lives. -/
lemma isAlive_install (s : Signals) : s.install.isAlive s.listeners.length = true := by
  rw [isAlive, listeners_install]
  simp

/-- What a signal does depends on the dispositions alone. -/
lemma effect_of_silenced {s s' : Signals} (h : s'.silenced = s.silenced) (signal : Signal) :
    s'.effect signal = s.effect signal := by
  have hcurrent : s'.current = s.current := (congrArg current h :)
  rw [effect, effect, hcurrent]

/-- While a listener lives the runtime handles both signals. -/
lemma Kept.current_of_isAlive {inherited : PerSignal Disposition} {s : Signals}
    (h : Kept inherited s) {number : Nat} (halive : s.isAlive number = true) :
    s.current = .both .listening := by
  have hliving : 0 < s.living := by
    rw [living, List.countP_pos_iff]
    rw [isAlive] at halive
    cases hl : s.listeners[number]? with
    | none => simp [hl] at halive
    | some l => exact ⟨l, List.mem_of_getElem? hl, by simpa [hl] using halive⟩
  exact h.armed (h.live_eq ▸ hliving)

/-- While a listener lives neither signal ends the process. -/
lemma Kept.effect_of_isAlive {inherited : PerSignal Disposition} {s : Signals}
    (h : Kept inherited s) {number : Nat} (halive : s.isAlive number = true) (signal : Signal) :
    s.effect signal = .raised := by
  rw [effect, h.current_of_isAlive halive, PerSignal.get_both]

/-- While no listener lives the process handles both signals as it did before the first one. -/
lemma Kept.current_of_not_isAlive {inherited : PerSignal Disposition} {s : Signals}
    (h : Kept inherited s) (hnone : ∀ number, s.isAlive number = false) :
    s.current = inherited := by
  refine h.restored (h.live_eq.trans ?_)
  rw [living, List.countP_eq_zero]
  intro l hl halive
  obtain ⟨number, hnumber⟩ := List.mem_iff_getElem?.mp hl
  have hfalse := hnone number
  rw [isAlive, hnumber, Option.map_some, Option.getD_some, halive] at hfalse
  cases hfalse

end Signals

namespace Run

/-- The dispositions of the process are kept, and the listener of a run that signals end lives. -/
structure Listening (inherited : PerSignal Disposition) (app : Application) (r : Run) : Prop where
  kept : Signals.Kept inherited r.world.signals
  alive : app.trigger = .signals → r.control.listens = true →
    ∃ number, r.listener = some number ∧ r.world.signals.isAlive number = true

variable {inherited : PerSignal Disposition} {app : Application} {r r' : Run}

/-- A look at the pending signals leaves the listeners alone. -/
lemma silenced_observeSignal (prefers : Signal) (r : Run) :
    (r.observeSignal prefers).world.signals.silenced = r.world.signals.silenced := by
  rw [observeSignal]
  split
  · rfl
  · rename_i signal signals hreceive
    obtain ⟨number, -, hreceive⟩ := Option.bind_eq_some_iff.mp hreceive
    exact Signals.silenced_receive hreceive

namespace Listening

/-- Signals that are raised, delivered or taken change nothing. -/
lemma of_silenced (h : Listening inherited app r)
    (hs : r'.world.signals.silenced = r.world.signals.silenced) (hl : r'.listener = r.listener)
    (hc : r'.control.listens = true → r.control.listens = true) : Listening inherited app r' := by
  refine ⟨h.kept.of_silenced hs, fun ht hlistens => ?_⟩
  obtain ⟨number, hnumber, halive⟩ := h.alive ht (hc hlistens)
  refine ⟨number, hl.trans hnumber, ?_⟩
  rw [← Signals.isAlive_silenced, hs, Signals.isAlive_silenced]
  exact halive

lemma launch (h : Listening inherited app r) : Listening inherited app (r.launch app) := by
  cases ht : app.trigger with
  | signals =>
      have hlaunch : (r.launch app).world.signals = r.world.signals.install ∧
          (r.launch app).listener = some r.world.signals.listeners.length := by
        rw [Run.launch, installListener, ht]
        exact ⟨rfl, rfl⟩
      refine ⟨hlaunch.1 ▸ h.kept.install, fun _ _ => ⟨_, hlaunch.2, ?_⟩⟩
      rw [hlaunch.1]
      exact r.world.signals.isAlive_install
  | never =>
      refine ⟨?_, fun hsignals => by rw [ht] at hsignals; cases hsignals⟩
      have hlaunch : (r.launch app).world.signals = r.world.signals := by
        simp only [Run.launch, installListener, ht]
        rfl
      exact hlaunch ▸ h.kept
  | atInstant instant =>
      refine ⟨?_, fun hsignals => by rw [ht] at hsignals; cases hsignals⟩
      have hlaunch : (r.launch app).world.signals = r.world.signals := by
        simp only [Run.launch, installListener, ht]
        rfl
      exact hlaunch ▸ h.kept

lemma finish (h : Listening inherited app r) (first : Option Culprit) :
    Listening inherited app (r.finish first) := by
  refine ⟨?_, fun _ hlistens => ?_⟩
  · rw [Run.finish, dropListener]
    split
    · exact h.kept
    · exact h.kept.drop _
  · obtain ⟨signals, heq⟩ := finish_eq first r
    rw [heq] at hlistens
    cases hlistens

/-- **Every move keeps the listener of the run alive until the supervisor returns.** -/
theorem move (h : Listening inherited app r) (hm : Move app r r') : Listening inherited app r' := by
  cases hm with
  | launch hc => exact h.launch
  | skim hc he hok => exact h.of_silenced rfl rfl id
  | fail hc he hf => exact h.of_silenced rfl rfl fun _ => by rw [hc]; rfl
  | trigger prefers hc hd =>
      refine h.of_silenced (silenced_observeSignal prefers r) ?_ fun _ => by rw [hc]; rfl
      obtain ⟨signals, seen, heq, -⟩ := observeSignal_eq prefers r
      rw [heq]
      rfl
  | collect hc => exact h.of_silenced rfl rfl fun _ => by rw [hc]; rfl
  | judge hc he hp =>
      refine h.of_silenced ?_ rfl fun _ => by rw [hc]; rfl
      rw [World.emitAll_eq]
  | coordinate hc hm => exact h.of_silenced (by cases hm <;> rfl) rfl id
  | finish hc ho => exact h.finish _
  | spawnEntry he ht => exact h.of_silenced rfl rfl id
  | reportExit he ht => exact h.of_silenced rfl rfl id
  | entry he ht hr hp =>
      exact h.of_silenced (EntryTask.advances_of_ready hr hp).louder.silenced_eq rfl id
  | teardown ht hr hp =>
      exact h.of_silenced (Task.advances_of_ready hr hp).louder.silenced_eq rfl id
  | job fires hr =>
      exact h.of_silenced (World.pollLoop_ripples _ _ _ fires).louder.silenced_eq rfl id
  | deliver hw => exact h.of_silenced (Signals.silenced_deliver _) rfl id
  | tick hq hp hn => exact h.of_silenced rfl rfl id

/-- While the run listens neither signal ends the process. -/
lemma raised (h : Listening inherited app r) (ht : app.trigger = .signals)
    (hc : r.control.listens = true) (signal : Signal) :
    r.world.signals.effect signal = .raised := by
  obtain ⟨number, -, halive⟩ := h.alive ht hc
  exact h.kept.effect_of_isAlive halive signal

end Listening

/-- The dispositions are kept in every state of a run. -/
lemma listening_of_moves (operations : List Signals.Operation) (wallClock : Nat → Timestamp)
    (hm : Moves app (.initial app ((Signals.ofDispositions inherited).after operations) wallClock)
      r) : Listening inherited app r := by
  induction hm with
  | refl =>
      refine ⟨?_, fun _ hlistens => by cases hlistens⟩
      rw [Run.initial, World.ofRegistry, World.emitAll_eq]
      exact (Signals.kept_ofDispositions inherited).after operations
  | tail _ hm ih => exact ih.move hm

end Run

end ServiceSupervisor
