import Mathlib.Tactic.Lemma
import ServiceSupervisor.Signals

/-!
The dispositions of a process follow its listeners.

* `Signals.silenced`: what is left of the signals when nothing is raised and nothing pending.
  Raising, delivering and receiving leave it alone (`Signals.silenced_raise`,
  `Signals.silenced_deliver`, `Signals.silenced_receive`), and so it carries whatever depends on
  installations and drops only;
* `Signals.Louder`: signals that have been raised, one after another;
* `Signals.Operation`, `Signals.after`: everything that can be done to the signals of a process, in
  any order;
* `Signals.Kept`: the count of the living listeners, the dispositions and the table fit each other.
  The first installation finds no table and the others find a complete one (`Signals.Kept.install`),
  so what is captured is the runtime's handler and nothing else; `Signals.Kept.drop`,
  `Signals.Kept.apply` and `Signals.Kept.after` carry it to every state;
* `Signals.dispositions_follow_listeners`: the theorem on the dispositions.
-/

namespace ServiceSupervisor

namespace PerSignal

variable {α : Type}

@[simp] lemma get_both (value : α) (signal : Signal) : (both value).get signal = value := by
  cases signal <;> rfl

end PerSignal

namespace Signals

/-! ### What raised signals leave alone -/

/-- The signals with nothing raised and nothing pending. -/
def silenced (s : Signals) : Signals :=
  { s with
    undelivered := .both false
    listeners := s.listeners.map fun l => { l with pending := .both false } }

lemma silenced_raise (s : Signals) (signal : Signal) :
    (s.raise signal).silenced = s.silenced := by
  rw [raise]
  split <;> rfl

/-- The second signals come from the first by raising some. -/
def Louder (s s' : Signals) : Prop := ∃ raised : List Signal, s' = raised.foldl raise s

namespace Louder

variable {s s' s'' : Signals}

lemma refl (s : Signals) : s.Louder s := ⟨[], rfl⟩

lemma trans (h : s.Louder s') (h' : s'.Louder s'') : s.Louder s'' := by
  obtain ⟨raised, rfl⟩ := h
  obtain ⟨more, rfl⟩ := h'
  exact ⟨raised ++ more, List.foldl_append.symm⟩

lemma raise (s : Signals) (signal : Signal) : s.Louder (s.raise signal) := ⟨[signal], rfl⟩

lemma silenced_eq (h : s.Louder s') : s'.silenced = s.silenced := by
  obtain ⟨raised, rfl⟩ := h
  induction raised generalizing s with
  | nil => rfl
  | cons signal raised ih => exact ih.trans (s.silenced_raise signal)

/-- What is raised does not reach a listener by itself. -/
lemma listeners_eq (h : s.Louder s') : s'.listeners = s.listeners := by
  obtain ⟨raised, rfl⟩ := h
  induction raised generalizing s with
  | nil => rfl
  | cons signal raised ih =>
      refine ih.trans ?_
      rw [Signals.raise]
      split <;> rfl

/-- What waits for delivery goes on waiting. -/
lemma waiting_subset (h : s.Louder s') : s.waiting ⊆ s'.waiting := by
  obtain ⟨raised, rfl⟩ := h
  induction raised generalizing s with
  | nil => exact List.Subset.refl _
  | cons signal raised ih =>
      refine List.Subset.trans (fun kind hkind => ?_) ih
      simp only [waiting, List.mem_filter] at hkind ⊢
      refine ⟨hkind.1, ?_⟩
      rw [Signals.raise]
      split
      · cases signal <;> cases kind <;> simp_all [PerSignal.get, PerSignal.set]
      · exact hkind.2

end Louder

/-- A notice does not bring a listener to life. -/
lemma alive_foldl_notify (kinds : List Signal) (l : Listener) :
    (kinds.foldl notify l).alive = l.alive := by
  induction kinds generalizing l with
  | nil => rfl
  | cons kind kinds ih =>
      rw [List.foldl_cons, ih, notify]
      split <;> rfl

lemma silenced_deliver (s : Signals) : s.deliver.silenced = s.silenced := by
  simp only [silenced, deliver, List.map_map, mk.injEq, true_and, and_true]
  refine List.map_congr_left fun l _ => ?_
  simp [alive_foldl_notify]

lemma silenced_receive {s s' : Signals} {number : Nat} {prefers signal : Signal}
    (h : s.receive number prefers = some (signal, s')) : s'.silenced = s.silenced := by
  rw [receive] at h
  split at h
  · cases h
  · obtain ⟨-, rfl⟩ := Prod.mk.inj (Option.some.inj h)
    simp only [silenced, report, mk.injEq, true_and, and_true]
    refine List.ext_getElem? fun place => ?_
    rw [List.getElem?_map, List.getElem?_map, List.getElem?_modify]
    cases s.listeners[place]? with
    | none => rfl
    | some l =>
        show some _ = some _
        split <;> rfl

lemma isAlive_silenced (s : Signals) (number : Nat) :
    s.silenced.isAlive number = s.isAlive number := by
  rw [isAlive, isAlive, silenced, List.getElem?_map, Option.map_map]
  rfl

/-- A listener ends the same way whatever it has pending. -/
lemma silenced_drop (s : Signals) (number : Nat) :
    (s.drop number).silenced = s.silenced.drop number := by
  have hmodify : (s.listeners.modify number ({ · with alive := false })).map
        (fun l => { l with pending := PerSignal.both false })
      = (s.listeners.map fun l => { l with pending := PerSignal.both false }).modify number
        ({ · with alive := false }) := by
    refine List.ext_getElem? fun place => ?_
    rw [List.getElem?_map, List.getElem?_modify, List.getElem?_modify, List.getElem?_map]
    cases s.listeners[place]? with
    | none => rfl
    | some l =>
        show some _ = some _
        split <;> rfl
  rw [drop, drop, isAlive_silenced]
  by_cases halive : s.isAlive number = true
  · rw [if_pos halive, if_pos halive]
    by_cases hlive : s.live - 1 > 0
    · simp [silenced, disarm, hlive, hmodify]
    · simp [silenced, disarm, restore, hlive, hmodify]
  · rw [if_neg halive, if_neg halive]

/-! ### Everything that can be done -/

/-- What can be done to the signals of a process. -/
inductive Operation
  /-- A listener is installed. -/
  | install
  /-- The listener with this number is dropped. -/
  | drop (number : Nat)
  /-- A signal is raised. -/
  | raise (signal : Signal)
  /-- The runtime delivers what has been raised. -/
  | deliver
  /-- A listener looks for a pending signal, and reports it if there is one. -/
  | receive (number : Nat) (prefers : Signal)
deriving DecidableEq, Repr, Inhabited

/-- The signals after an operation. -/
def apply (s : Signals) : Operation → Signals
  | .install => s.install
  | .drop number => s.drop number
  | .raise signal => s.raise signal
  | .deliver => s.deliver
  | .receive number prefers =>
    match s.receive number prefers with
    | some (_, s') => s'
    | none => s

/-- The signals after some operations. -/
def after (s : Signals) (operations : List Operation) : Signals := operations.foldl apply s

/-- The number of listeners that live. -/
def living (s : Signals) : Nat := s.listeners.countP (·.alive)

/-- The table after the first installation: for each signal what was found before it, and the
runtime's handler. -/
def remembered (inherited : PerSignal Disposition) : List Remembered :=
  Signal.all.map fun signal => ⟨signal, inherited.get signal, some .listening⟩

/-! ### What is kept -/

/-- The signals of a process that had the given dispositions before its first installation. -/
structure Kept (inherited : PerSignal Disposition) (s : Signals) : Prop where
  /-- The listeners that live are counted. -/
  live_eq : s.live = s.living
  /-- While one lives the runtime handles both signals. -/
  armed : 0 < s.live → s.current = .both .listening
  /-- While none lives the process handles them as it did before. -/
  restored : s.live = 0 → s.current = inherited
  /-- The runtime has registered both signals, and both are in the table; or there has been no
  listener yet. -/
  table_eq : s.registered = .both true ∧ s.table = remembered inherited ∨
    s.registered = .both false ∧ s.table = [] ∧ s.listeners = []

variable {inherited : PerSignal Disposition} {s s' : Signals}

lemma kept_ofDispositions (inherited : PerSignal Disposition) :
    Kept inherited (ofDispositions inherited) where
  live_eq := rfl
  armed := fun h => absurd h (Nat.lt_irrefl 0)
  restored := fun _ => rfl
  table_eq := .inr ⟨rfl, rfl, rfl⟩

namespace Kept

/-- What is kept does not depend on what is raised or pending. -/
lemma of_silenced (h : Kept inherited s) (hs : s'.silenced = s.silenced) : Kept inherited s' := by
  obtain ⟨current, registered, live, table, listeners, undelivered⟩ := s
  obtain ⟨current', registered', live', table', listeners', undelivered'⟩ := s'
  obtain ⟨rfl, rfl, rfl, rfl, hlisteners, -⟩ := mk.inj hs
  have hliving : listeners'.countP (·.alive) = listeners.countP (·.alive) := by
    have hcount := congrArg (List.countP (·.alive)) hlisteners
    rwa [List.countP_map, List.countP_map] at hcount
  refine ⟨h.live_eq.trans hliving.symm, h.armed, h.restored, h.table_eq.imp_right ?_⟩
  rintro ⟨hregistered, htable, hnone⟩
  obtain rfl : listeners = [] := hnone
  exact ⟨hregistered, htable, List.map_eq_nil_iff.mp hlisteners⟩

/-- An installation puts the runtime's handler in place, whether it captures it or applies what the
first one captured; either way the table is complete. -/
lemma install (h : Kept inherited s) : Kept inherited s.install := by
  obtain ⟨current, registered, live, table, listeners, undelivered⟩ := s
  have hlive : live = listeners.countP (·.alive) := h.live_eq
  have hcount : live + 1 = (listeners ++ [(⟨true, .both false⟩ : Listener)]).countP (·.alive) := by
    rw [List.countP_append, ← hlive]
    rfl
  rcases h.table_eq with ⟨hregistered, htable⟩ | ⟨hregistered, htable, hnone⟩
  · -- A later installation: the runtime does not install its handler again, the table does.
    obtain rfl : registered = .both true := hregistered
    obtain rfl : table = remembered inherited := htable
    exact ⟨hcount, fun _ => rfl, fun hzero => absurd hzero (Nat.succ_ne_zero live), .inl ⟨rfl, rfl⟩⟩
  · -- The first one: what it captures is the handler that the registration has just put in place.
    obtain rfl : registered = .both false := hregistered
    obtain rfl : table = [] := htable
    obtain rfl : listeners = [] := hnone
    obtain rfl : live = 0 := hlive
    obtain rfl : current = inherited := h.restored rfl
    exact ⟨hcount, fun _ => rfl, fun hzero => absurd hzero (Nat.succ_ne_zero 0), .inl ⟨rfl, rfl⟩⟩

end Kept

/-- A listener that ends is one fewer that lives. -/
lemma countP_modify_of_isAlive {number : Nat} (h : s.isAlive number = true) :
    (s.listeners.modify number ({ · with alive := false })).countP (·.alive) + 1 = s.living := by
  have hnumber : number < s.listeners.length := by
    refine Nat.lt_of_not_le fun hge => ?_
    rw [isAlive, List.getElem?_eq_none hge] at h
    cases h
  obtain ⟨before, l, rest, hlisteners, rfl, hmodify⟩ :=
    List.exists_of_modify ({ · with alive := false }) hnumber
  have halive : l.alive = true := by
    rw [isAlive, hlisteners] at h
    simpa using h
  rw [hmodify, living, hlisteners, List.countP_append, List.countP_append, List.countP_cons,
    List.countP_cons, if_pos halive, if_neg Bool.false_ne_true]
  omega

namespace Kept

/-- The end of the last listener puts back what was found before the first one. -/
lemma drop (h : Kept inherited s) (number : Nat) : Kept inherited (s.drop number) := by
  rw [Signals.drop]
  by_cases halive : s.isAlive number = true
  · rw [if_pos halive]
    have hcount := countP_modify_of_isAlive halive
    have hlive := h.live_eq
    have hliving : s.live - 1
        = (s.listeners.modify number ({ · with alive := false })).countP (·.alive) := by
      omega
    rcases h.table_eq with ⟨hregistered, htable⟩ | ⟨-, -, hnone⟩
    · rw [disarm]
      by_cases hpos : s.live - 1 > 0
      · rw [if_pos hpos]
        have hcurrent : s.current = .both .listening := h.armed (by omega)
        exact ⟨hliving, fun _ => hcurrent, fun hzero => absurd hzero (Nat.ne_of_gt hpos),
          .inl ⟨hregistered, htable⟩⟩
      · rw [if_neg hpos]
        have hcurrent : s.table.foldl (fun current e => current.set e.inherited e.signal) s.current
            = inherited := by
          rw [htable]
          rfl
        exact ⟨hliving, fun hlt => absurd hlt hpos, fun _ => hcurrent, .inl ⟨hregistered, htable⟩⟩
    · rw [isAlive, hnone] at halive
      cases halive
  · rw [if_neg halive]
    exact h

/-- **Every operation keeps it.** -/
theorem apply (h : Kept inherited s) (operation : Operation) :
    Kept inherited (s.apply operation) := by
  cases operation with
  | install => exact h.install
  | drop number => exact h.drop number
  | raise signal => exact h.of_silenced (s.silenced_raise signal)
  | deliver => exact h.of_silenced s.silenced_deliver
  | receive number prefers =>
      rw [Signals.apply]
      split
      · rename_i hreceive
        exact h.of_silenced (silenced_receive hreceive)
      · exact h

/-- **Every sequence of operations keeps it.** -/
theorem after (h : Kept inherited s) (operations : List Operation) :
    Kept inherited (s.after operations) := by
  induction operations generalizing s with
  | nil => exact h
  | cons operation operations ih => exact ih (h.apply operation)

end Kept

/-! ### The table -/

lemma registered_of_silenced (h : s'.silenced = s.silenced) : s'.registered = s.registered :=
  (congrArg registered h :)

/-- The runtime registers the signals with an installation and at no other time. -/
lemma registered_apply (s : Signals) {operation : Operation} (hne : operation ≠ .install) :
    (s.apply operation).registered = s.registered := by
  cases operation with
  | install => exact absurd rfl hne
  | drop number =>
      rw [apply, drop]
      split
      · show s.disarm.registered = s.registered
        rw [disarm]
        split <;> rfl
      · rfl
  | raise signal => exact registered_of_silenced (s.silenced_raise signal)
  | deliver => exact registered_of_silenced s.silenced_deliver
  | receive number prefers =>
      rw [apply]
      split
      · rename_i hreceive
        exact registered_of_silenced (silenced_receive hreceive)
      · rfl

lemma registered_remember (s : Signals) (signal : Signal) :
    (s.remember signal).registered = s.registered := by
  rw [remember]
  split <;> rfl

lemma registered_register (s : Signals) (signal : Signal) :
    (s.register signal).registered = s.registered.set true signal := by
  obtain ⟨current, ⟨interrupt, terminate⟩, live, table, listeners, undelivered⟩ := s
  cases signal <;> cases interrupt <;> cases terminate <;> rfl

lemma registered_install (s : Signals) : s.install.registered = .both true := by
  show (((s.remember .interrupt).remember .terminate).register .interrupt |>.register
    .terminate).registered = .both true
  rw [registered_register, registered_register, registered_remember, registered_remember]
  rfl

/-- Without an installation nothing is registered. -/
lemma registered_after_of_notMem (s : Signals) {operations : List Operation}
    (h : .install ∉ operations) : (s.after operations).registered = s.registered := by
  induction operations generalizing s with
  | nil => rfl
  | cons operation operations ih =>
      have hne : operation ≠ .install := fun heq => h (heq ▸ List.mem_cons_self)
      have hrest : .install ∉ operations := fun hmem => h (List.mem_cons_of_mem operation hmem)
      exact (ih (s.apply operation) hrest).trans (s.registered_apply hne)

/-- After an installation both signals are registered. -/
lemma registered_after (s : Signals) {operations : List Operation}
    (h : s.registered = .both true ∨ .install ∈ operations) :
    (s.after operations).registered = .both true := by
  induction operations generalizing s with
  | nil => exact h.resolve_right List.not_mem_nil
  | cons operation operations ih =>
      refine ih (s.apply operation) ?_
      by_cases hop : operation = .install
      · subst hop
        exact .inl s.registered_install
      · rw [s.registered_apply hop]
        exact h.imp_right fun hmem => (List.mem_cons.mp hmem).resolve_left (Ne.symm hop)

namespace Kept

/-- What has been registered is in the table. -/
lemma table_of_registered (h : Kept inherited s) (hr : s.registered = .both true) :
    s.table = remembered inherited := by
  rcases h.table_eq with ⟨-, htable⟩ | ⟨hfalse, -, -⟩
  · exact htable
  · rw [hr] at hfalse
    cases hfalse

/-- What has not been registered is not in the table. -/
lemma table_of_not_registered (h : Kept inherited s) (hr : s.registered = .both false) :
    s.table = [] := by
  rcases h.table_eq with ⟨htrue, -⟩ | ⟨-, htable, -⟩
  · rw [hr] at htrue
    cases htrue
  · exact htable

end Kept

/-! ### The theorem on the dispositions -/

/-- **The dispositions follow the listeners.**  Whatever the process did on the two signals before
its first installation, and whatever has been installed, dropped, raised, delivered and received
since then, in whatever order: the count is that of the listeners that live; while one lives the
runtime handles both signals; while none lives the process does on both what it did before the
first installation.  The table is empty until then; from then on it has one entry for each signal,
with the disposition found before the first installation and the runtime's handler, and no
operation changes it. -/
theorem dispositions_follow_listeners (inherited : PerSignal Disposition)
    (operations : List Operation) :
    let s := (ofDispositions inherited).after operations
    s.live = s.living ∧
      (0 < s.live → ∀ signal, s.current.get signal = .listening) ∧
      (s.live = 0 → ∀ signal, s.current.get signal = inherited.get signal) ∧
      (.install ∉ operations → s.table = []) ∧
      (.install ∈ operations → s.table.map (·.signal) = Signal.all ∧
        (∀ entry ∈ s.table, entry.inherited = inherited.get entry.signal ∧
          entry.listener = some .listening) ∧
        ∀ more, (s.after more).table = s.table) := by
  intro s
  have hkept : Kept inherited s := (kept_ofDispositions inherited).after operations
  refine ⟨hkept.live_eq, fun hlive signal => ?_, fun hlive signal => ?_, fun hnone => ?_,
    fun hsome => ?_⟩
  · rw [hkept.armed hlive, PerSignal.get_both]
  · rw [hkept.restored hlive]
  · exact hkept.table_of_not_registered (registered_after_of_notMem _ hnone)
  · have hregistered : s.registered = .both true := registered_after _ (.inr hsome)
    have htable : s.table = remembered inherited := hkept.table_of_registered hregistered
    refine ⟨by rw [htable]; rfl, fun entry hentry => ?_, fun more => ?_⟩
    · rw [htable] at hentry
      obtain ⟨signal, -, rfl⟩ := List.mem_map.mp hentry
      exact ⟨rfl, rfl⟩
    · rw [htable]
      exact (hkept.after more).table_of_registered (registered_after s (.inl hregistered))

/-- A process that ignores the one signal and handles the other by itself does so again once two
overlapping listeners and a later one have ended, in whatever order. -/
theorem dispositions_of_overlapping :
    let s := (ofDispositions ⟨.ignored, .foreign 7⟩).after
      [.install, .install, .drop 0, .raise .terminate, .drop 1, .install, .drop 2]
    s.live = 0 ∧ s.current.get .interrupt = .ignored ∧ s.current.get .terminate = .foreign 7 :=
  have h := dispositions_follow_listeners ⟨.ignored, .foreign 7⟩
    [.install, .install, .drop 0, .raise .terminate, .drop 1, .install, .drop 2]
  ⟨rfl, h.2.2.1 rfl .interrupt, h.2.2.1 rfl .terminate⟩

end Signals

end ServiceSupervisor
