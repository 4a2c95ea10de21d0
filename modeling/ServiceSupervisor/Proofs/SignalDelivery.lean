import Mathlib.Data.List.Induction
import ServiceSupervisor.Proofs.Hearing

/-!
What the listeners report of the signals that are raised.

* `Signals.Happening`, `Signals.history`: what is seen of everything that is done to the signals of
  a process;
* `Signals.Since`: something has happened, and nothing of another kind after it; one more happening
  changes it as `Signals.since_concat` says;
* `Signals.Lives`, `Signals.Handled`, `Signals.Waits`, `Signals.Owed`: who lives, what the runtime
  handles, what waits for delivery and which listener is owed which kind, read off a history alone;
* `Signals.Follows`: the signals are as the history says.  Each operation carries it over one more
  happening (`Signals.Follows.apply`), and `Signals.follows_history` over all of them;
* `Signals.count_reported_le`: no listener reports a kind more often than it has been raised;
* `Signals.reporting`: the theorem on the reports.

A raised signal is not pending for anyone until the runtime delivers it, so a listener can report
one between two raises and again after the second delivery, and one that is installed between a
raise and its delivery is told as well (`Signals.reported_without_raise`).
-/

namespace ServiceSupervisor

namespace PerSignal

variable {α : Type}

lemma get_set (values : PerSignal α) (value : α) (signal kind : Signal) :
    (values.set value signal).get kind = if kind = signal then value else values.get kind := by
  cases signal <;> cases kind <;> rfl

end PerSignal

namespace Signals

/-! ### Histories -/

/-- What is seen of an operation. -/
inductive Happening
  /-- A listener is installed and gets this number. -/
  | installed (number : Nat)
  /-- The listener with this number is dropped. -/
  | dropped (number : Nat)
  /-- A signal is raised. -/
  | raised (signal : Signal)
  /-- The runtime delivers what has been raised. -/
  | delivered
  /-- A listener reports a signal. -/
  | reported (number : Nat) (signal : Signal)
  /-- A listener finds nothing pending: it goes on waiting, or is abandoned. -/
  | waited (number : Nat)
deriving DecidableEq, Repr, Inhabited

/-- What is seen of an operation on these signals. -/
def happening (s : Signals) : Operation → Happening
  | .install => .installed s.listeners.length
  | .drop number => .dropped number
  | .raise signal => .raised signal
  | .deliver => .delivered
  | .receive number prefers =>
    match s.receive number prefers with
    | some (signal, _) => .reported number signal
    | none => .waited number

section Happening

variable {s : Signals} {operation : Operation} {number : Nat}

lemma happening_eq_installed : s.happening operation = .installed number ↔
    operation = .install ∧ number = s.listeners.length := by
  cases operation with
  | install => simp [happening, eq_comm]
  | drop | raise | deliver => simp [happening]
  | receive other prefers => rw [happening]; split <;> simp

lemma happening_eq_dropped :
    s.happening operation = .dropped number ↔ operation = .drop number := by
  cases operation with
  | install | drop | raise | deliver => simp [happening]
  | receive other prefers => rw [happening]; split <;> simp

lemma happening_eq_delivered : s.happening operation = .delivered ↔ operation = .deliver := by
  cases operation with
  | install | drop | raise | deliver => simp [happening]
  | receive other prefers => rw [happening]; split <;> simp

/-- A listener that has something pending reports. -/
lemma of_receive {s' : Signals} {prefers signal : Signal}
    (h : s.receive number prefers = some (signal, s')) :
    s.happening (.receive number prefers) = .reported number signal ∧
      s.apply (.receive number prefers) = s' := by
  rw [happening, apply, h]
  exact ⟨rfl, rfl⟩

/-- A listener that has nothing pending waits. -/
lemma of_receive_none {prefers : Signal} (h : s.receive number prefers = none) :
    s.happening (.receive number prefers) = .waited number ∧
      s.apply (.receive number prefers) = s := by
  rw [happening, apply, h]
  exact ⟨rfl, rfl⟩

end Happening

/-- What is seen of some operations, one after another. -/
def history (s : Signals) : List Operation → List Happening
  | [] => []
  | operation :: operations => s.happening operation :: (s.apply operation).history operations

/-- The history of the operations on a process that had the given dispositions at first. -/
abbrev historyFrom (inherited : PerSignal Disposition) (operations : List Operation) :
    List Happening :=
  (ofDispositions inherited).history operations

lemma after_concat (s : Signals) (operations : List Operation) (operation : Operation) :
    s.after (operations ++ [operation]) = (s.after operations).apply operation :=
  List.foldl_append

lemma history_concat (s : Signals) (operations : List Operation) (operation : Operation) :
    s.history (operations ++ [operation])
      = s.history operations ++ [(s.after operations).happening operation] := by
  induction operations generalizing s with
  | nil => rfl
  | cons first operations ih => exact congrArg (s.happening first :: ·) (ih (s.apply first))

/-- Something has happened, as judged by what came before it, and nothing that ends it has happened
after it. -/
def Since (start : List Happening → Happening → Prop) (stop : Happening → Prop)
    (h : List Happening) : Prop :=
  ∃ past x later, h = past ++ x :: later ∧ start past x ∧ ∀ y ∈ later, ¬ stop y

section Since

variable {start : List Happening → Happening → Prop} {stop : Happening → Prop}
  {h : List Happening} {x : Happening}

lemma since_nil : ¬ Since start stop [] := by
  rintro ⟨past, x, later, heq, -, -⟩
  exact absurd heq.symm (List.append_ne_nil_of_right_ne_nil past (List.cons_ne_nil x later))

/-- One more happening starts it, or lets it go on. -/
lemma since_concat : Since start stop (h ++ [x]) ↔ start h x ∨ Since start stop h ∧ ¬ stop x := by
  constructor
  · rintro ⟨past, y, later, heq, hstart, hlater⟩
    rcases List.eq_nil_or_concat later with rfl | ⟨between, last, rfl⟩
    · obtain ⟨rfl, hxy⟩ := List.append_inj' heq rfl
      obtain rfl : x = y := List.singleton_inj.mp hxy
      exact .inl hstart
    · have hsplit : h ++ [x] = (past ++ y :: between) ++ [last] := by simpa using heq
      obtain ⟨rfl, hxlast⟩ := List.append_inj' hsplit rfl
      obtain rfl : x = last := List.singleton_inj.mp hxlast
      exact .inr ⟨⟨past, y, between, rfl, hstart, fun z hz => hlater z (by simp [hz])⟩,
        hlater x (by simp)⟩
  · rintro (hstart | ⟨⟨past, y, later, rfl, hstart, hlater⟩, hstop⟩)
    · exact ⟨h, x, [], rfl, hstart, fun y hy => absurd hy List.not_mem_nil⟩
    · refine ⟨past, y, later ++ [x], by simp, hstart, fun z hz => ?_⟩
      rcases List.mem_append.mp hz with hz | hz
      · exact hlater z hz
      · rwa [List.mem_singleton.mp hz]

end Since

/-- A listener has been installed and not dropped since then. -/
def Lives (h : List Happening) (number : Nat) : Prop :=
  Since (fun _ x => x = .installed number) (· = .dropped number) h

/-- The runtime handles a kind: a listener lives, or the process had the runtime's handler before
it installed any. -/
def Handled (inherited : PerSignal Disposition) (h : List Happening) (signal : Signal) : Prop :=
  (∃ number, Lives h number) ∨ inherited.get signal = .listening

/-- A kind has been raised while the runtime handled it, and not been delivered since then. -/
def Waits (inherited : PerSignal Disposition) (h : List Happening) (signal : Signal) : Prop :=
  Since (fun past x => x = .raised signal ∧ Handled inherited past signal) (· = .delivered) h

/-- A kind that waited has been delivered while the listener lived, and the listener has not
reported the kind since then. -/
def Owed (inherited : PerSignal Disposition) (h : List Happening) (number : Nat)
    (signal : Signal) : Prop :=
  Since (fun past x => x = .delivered ∧ Lives past number ∧ Waits inherited past signal)
    (· = .reported number signal) h

/-- A kind has been raised while the listener lived, and the listener has not reported the kind
since then. -/
def RaisedFor (h : List Happening) (number : Nat) (signal : Signal) : Prop :=
  Since (fun past x => x = .raised signal ∧ Lives past number) (· = .reported number signal) h

section Concat

variable {inherited : PerSignal Disposition} {h : List Happening} {x : Happening} {number : Nat}
  {signal : Signal}

lemma lives_concat :
    Lives (h ++ [x]) number ↔ x = .installed number ∨ Lives h number ∧ x ≠ .dropped number :=
  since_concat

lemma waits_concat : Waits inherited (h ++ [x]) signal ↔
    (x = .raised signal ∧ Handled inherited h signal) ∨
      Waits inherited h signal ∧ x ≠ .delivered :=
  since_concat

lemma owed_concat : Owed inherited (h ++ [x]) number signal ↔
    (x = .delivered ∧ Lives h number ∧ Waits inherited h signal) ∨
      Owed inherited h number signal ∧ x ≠ .reported number signal :=
  since_concat

lemma raisedFor_concat : RaisedFor (h ++ [x]) number signal ↔
    (x = .raised signal ∧ Lives h number) ∨
      RaisedFor h number signal ∧ x ≠ .reported number signal :=
  since_concat

lemma Lives.mem (hlives : Lives h number) : .installed number ∈ h := by
  obtain ⟨past, x, later, rfl, rfl, -⟩ := hlives
  exact List.mem_append_right past List.mem_cons_self

/-- Only a listener that has been installed is owed anything. -/
lemma Owed.mem (howed : Owed inherited h number signal) : .installed number ∈ h := by
  obtain ⟨past, x, later, rfl, ⟨-, hlives, -⟩, -⟩ := howed
  exact List.mem_append_left (x :: later) hlives.mem

/-- Only for a listener that has been installed anything is raised. -/
lemma RaisedFor.mem (hraised : RaisedFor h number signal) : .installed number ∈ h := by
  obtain ⟨past, x, later, rfl, ⟨-, hlives⟩, -⟩ := hraised
  exact List.mem_append_left (x :: later) hlives.mem

end Concat

/-! ### What an operation does to the listeners -/

section Operations

variable {s s' : Signals} {number other : Nat} {signal kind prefers : Signal} {l : Listener}

lemma mem_waiting : signal ∈ s.waiting ↔ s.undelivered.get signal = true := by
  rw [waiting, List.mem_filter, and_iff_right_iff_imp]
  intro _
  cases signal <;> decide

lemma isAlive_iff : s.isAlive number = true ↔ ∃ l, s.listeners[number]? = some l ∧ l.alive := by
  rw [isAlive]
  cases s.listeners[number]? <;> simp

lemma mem_pending : signal ∈ s.pending number ↔
    ∃ l, s.listeners[number]? = some l ∧ l.alive = true ∧ l.pending.get signal = true := by
  have hall : signal ∈ Signal.all := by cases signal <;> decide
  rw [pending]
  cases s.listeners[number]? with
  | none => simp
  | some l => cases halive : l.alive <;> simp [hall, halive]

lemma isAlive_of_mem_pending (h : signal ∈ s.pending number) : s.isAlive number = true := by
  obtain ⟨l, hl, halive, -⟩ := mem_pending.mp h
  exact isAlive_iff.mpr ⟨l, hl, halive⟩

lemma getElem?_install (s : Signals) (hne : number ≠ s.listeners.length) :
    s.install.listeners[number]? = s.listeners[number]? := by
  rw [listeners_install]
  rcases Nat.lt_or_gt_of_ne hne with hlt | hgt
  · exact List.getElem?_append_left hlt
  · rw [List.getElem?_eq_none (Nat.le_of_lt hgt), List.getElem?_eq_none]
    rwa [List.length_append]

lemma mem_pending_install : signal ∈ s.install.pending number ↔
    number ≠ s.listeners.length ∧ signal ∈ s.pending number := by
  by_cases heq : number = s.listeners.length
  · simp [mem_pending, listeners_install, heq]
  · rw [pending_congr (s.getElem?_install heq)]
    exact (and_iff_right heq).symm

lemma length_drop (s : Signals) (number : Nat) :
    (s.drop number).listeners.length = s.listeners.length := by
  rw [drop]
  split
  · exact List.length_modify ..
  · rfl

lemma mem_pending_drop : signal ∈ (s.drop number).pending other ↔
    signal ∈ s.pending other ∧ other ≠ number := by
  by_cases heq : other = number
  · refine iff_of_false (fun hmem => ?_) fun hmem => hmem.2 heq
    exact ((s.isAlive_drop_iff number other).mp (isAlive_of_mem_pending hmem)).2 heq
  · rw [pending_congr (s.listeners_drop number other heq)]
    exact (and_iff_left heq).symm

lemma listeners_raise (s : Signals) (signal : Signal) :
    (s.raise signal).listeners = s.listeners :=
  (Louder.raise s signal).listeners_eq

/-- A raised signal waits if the runtime handles it. -/
lemma mem_waiting_raise : kind ∈ (s.raise signal).waiting ↔
    (kind = signal ∧ s.current.get signal = .listening) ∨ kind ∈ s.waiting := by
  rw [mem_waiting, mem_waiting, raise]
  split
  · rename_i hlistening
    show (s.undelivered.set true signal).get kind = true ↔ _
    rw [PerSignal.get_set]
    by_cases heq : kind = signal <;> simp [heq, hlistening]
  · rename_i hother
    exact (or_iff_right fun hraised => hother hraised.2).symm

lemma getElem?_deliver (s : Signals) (number : Nat) :
    s.deliver.listeners[number]? = s.listeners[number]?.map fun l => s.waiting.foldl notify l :=
  List.getElem?_map

/-- A delivery makes what waits pending for every listener that lives. -/
lemma mem_pending_deliver : signal ∈ s.deliver.pending number ↔
    signal ∈ s.pending number ∨ s.isAlive number = true ∧ signal ∈ s.waiting := by
  rw [mem_pending, mem_pending, isAlive_iff, getElem?_deliver]
  cases s.listeners[number]? with
  | none => simp
  | some l =>
      cases halive : l.alive with
      | false => simp [alive_foldl_notify, halive]
      | true => simp [alive_foldl_notify, pending_foldl_notify, halive]

lemma notMem_waiting_deliver : signal ∉ s.deliver.waiting := by
  rw [mem_waiting]
  cases signal <;> exact Bool.false_ne_true

/-- What is reported was pending. -/
lemma receive_eq (h : s.receive number prefers = some (signal, s')) :
    signal ∈ s.pending number ∧ s' = s.report number signal := by
  rw [receive] at h
  split at h
  · cases h
  · rename_i first rest hpending
    obtain ⟨hsignal, rfl⟩ := Prod.mk.inj (Option.some.inj h)
    subst hsignal
    refine ⟨?_, rfl⟩
    rw [hpending]
    split
    · rename_i hprefers
      exact List.mem_cons_of_mem first (List.contains_iff_mem.mp hprefers)
    · exact List.mem_cons_self

/-- A listener that has something pending reports. -/
lemma isSome_receive (h : signal ∈ s.pending number) (prefers : Signal) :
    (s.receive number prefers).isSome = true := by
  rw [receive]
  split
  · rename_i hnone
    rw [hnone] at h
    exact absurd h List.not_mem_nil
  · rfl

lemma getElem?_report (s : Signals) (number : Nat) (signal : Signal) (other : Nat) :
    (s.report number signal).listeners[other]? = s.listeners[other]?.map fun l =>
      if other = number then { l with pending := l.pending.set false signal } else l := by
  rw [report, List.getElem?_modify]
  by_cases heq : number = other
  · simp [heq]
  · simp [heq, Ne.symm heq]

lemma isAlive_report : (s.report number signal).isAlive other = s.isAlive other := by
  rw [isAlive, isAlive, getElem?_report]
  cases s.listeners[other]? with
  | none => rfl
  | some l => by_cases heq : other = number <;> simp [heq]

/-- A report takes one kind from one listener. -/
lemma mem_pending_report : kind ∈ (s.report number signal).pending other ↔
    kind ∈ s.pending other ∧ (other = number → kind ≠ signal) := by
  rw [mem_pending, mem_pending, getElem?_report]
  cases s.listeners[other]? with
  | none => simp
  | some l =>
      by_cases heq : other = number
      · by_cases hkind : kind = signal <;> simp [heq, hkind, PerSignal.get_set]
      · simp [heq]

end Operations

/-! ### The signals are as the history says -/

/-- The signals are as the history says. -/
structure Follows (inherited : PerSignal Disposition) (h : List Happening) (s : Signals) :
    Prop where
  /-- Numbers are given in order, so none is given twice. -/
  known : ∀ number, .installed number ∈ h → number < s.listeners.length
  /-- The listeners that live are those that have not been dropped. -/
  lives : ∀ number, s.isAlive number = true ↔ Lives h number
  /-- What has been raised and not delivered waits. -/
  waits : ∀ signal, signal ∈ s.waiting ↔ Waits inherited h signal
  /-- A listener that lives has pending what it is owed. -/
  owed : ∀ number signal,
    signal ∈ s.pending number ↔ Lives h number ∧ Owed inherited h number signal

variable {inherited : PerSignal Disposition} {h : List Happening} {s s' : Signals}

lemma follows_ofDispositions (inherited : PerSignal Disposition) :
    Follows inherited [] (ofDispositions inherited) where
  known := fun _ hmem => absurd hmem List.not_mem_nil
  lives := fun _ => iff_of_false Bool.false_ne_true since_nil
  waits := fun signal => iff_of_false (by cases signal <;> exact List.not_mem_nil) since_nil
  owed := fun _ _ => iff_of_false List.not_mem_nil fun howed => since_nil howed.1

/-- The runtime's handler is in place when a listener lives, or when it was there at first. -/
lemma Kept.listening_iff (hkept : Kept inherited s) (hlives : ∀ number, s.isAlive number = true ↔
    Lives h number) (signal : Signal) :
    s.current.get signal = .listening ↔ Handled inherited h signal := by
  have hlive : 0 < s.live ↔ ∃ number, Lives h number := by
    rw [hkept.live_eq, living, List.countP_pos_iff]
    constructor
    · rintro ⟨l, hl, halive⟩
      obtain ⟨number, hnumber⟩ := List.getElem?_of_mem hl
      exact ⟨number, (hlives number).mp (isAlive_iff.mpr ⟨l, hnumber, halive⟩)⟩
    · rintro ⟨number, hnumber⟩
      obtain ⟨l, hl, halive⟩ := isAlive_iff.mp ((hlives number).mpr hnumber)
      exact ⟨l, List.mem_of_getElem? hl, halive⟩
  rw [Handled, ← hlive]
  rcases Nat.eq_zero_or_pos s.live with hzero | hpos
  · rw [hkept.restored hzero, hzero]
    exact (or_iff_right (Nat.lt_irrefl 0)).symm
  · rw [hkept.armed hpos, PerSignal.get_both]
    exact iff_of_true rfl (.inl hpos)

namespace Follows

/-- A new listener is owed nothing, since its number has not been given before. -/
lemma install (hf : Follows inherited h s) :
    Follows inherited (h ++ [.installed s.listeners.length]) s.install := by
  have hfresh : .installed s.listeners.length ∉ h := fun hmem =>
    Nat.lt_irrefl s.listeners.length (hf.known s.listeners.length hmem)
  refine ⟨fun number hmem => ?_, fun number => ?_, fun signal => ?_, fun number signal => ?_⟩
  · rw [listeners_install, List.length_append]
    rcases List.mem_append.mp hmem with hmem | hmem
    · exact Nat.lt_succ_of_lt (hf.known number hmem)
    · obtain rfl : number = s.listeners.length := by simpa using hmem
      exact Nat.lt_succ_self s.listeners.length
  · rw [isAlive_install_iff, lives_concat, hf.lives]
    simp [eq_comm, or_comm]
  · rw [waiting_install, waits_concat, hf.waits]
    simp
  · rw [mem_pending_install, lives_concat, owed_concat, hf.owed]
    by_cases heq : number = s.listeners.length
    · subst heq
      have hnot : ¬ Owed inherited h s.listeners.length signal := fun howed => hfresh howed.mem
      simp [hnot]
    · simp [heq, Ne.symm heq]

lemma drop (hf : Follows inherited h s) (number : Nat) :
    Follows inherited (h ++ [.dropped number]) (s.drop number) := by
  refine ⟨fun other hmem => ?_, fun other => ?_, fun signal => ?_, fun other signal => ?_⟩
  · rw [length_drop]
    exact hf.known other (by simpa using hmem)
  · rw [isAlive_drop_iff, lives_concat, hf.lives]
    simp [eq_comm]
  · rw [waiting_drop, waits_concat, hf.waits]
    simp
  · rw [mem_pending_drop, lives_concat, owed_concat, hf.owed]
    by_cases heq : other = number
    · simp [heq]
    · simp [heq, Ne.symm heq]

lemma raise (hf : Follows inherited h s) (hkept : Kept inherited s) (signal : Signal) :
    Follows inherited (h ++ [.raised signal]) (s.raise signal) := by
  have hlisteners := s.listeners_raise signal
  refine ⟨fun number hmem => ?_, fun number => ?_, fun kind => ?_, fun number kind => ?_⟩
  · rw [hlisteners]
    exact hf.known number (by simpa using hmem)
  · rw [isAlive_congr (congrArg (·[number]?) hlisteners), lives_concat, hf.lives]
    simp
  · rw [mem_waiting_raise, waits_concat, hf.waits, hkept.listening_iff hf.lives]
    by_cases heq : kind = signal
    · simp [heq]
    · simp [heq, Ne.symm heq]
  · rw [pending_congr (congrArg (·[number]?) hlisteners), lives_concat, owed_concat, hf.owed]
    simp

lemma deliver (hf : Follows inherited h s) :
    Follows inherited (h ++ [.delivered]) s.deliver := by
  refine ⟨fun number hmem => ?_, fun number => ?_, fun signal => ?_, fun number signal => ?_⟩
  · show number < (s.listeners.map _).length
    rw [List.length_map]
    exact hf.known number (by simpa using hmem)
  · rw [isAlive_of_silenced s.silenced_deliver, lives_concat, hf.lives]
    simp
  · rw [waits_concat]
    exact iff_of_false notMem_waiting_deliver (by simp)
  · rw [mem_pending_deliver, lives_concat, owed_concat, hf.owed, hf.lives, hf.waits]
    by_cases hlives : Lives h number
    · simp [hlives, or_comm]
    · simp [hlives]

lemma report (hf : Follows inherited h s) (number : Nat) (signal : Signal) :
    Follows inherited (h ++ [.reported number signal]) (s.report number signal) := by
  refine ⟨fun other hmem => ?_, fun other => ?_, fun kind => ?_, fun other kind => ?_⟩
  · rw [Signals.report, List.length_modify]
    exact hf.known other (by simpa using hmem)
  · rw [isAlive_report, lives_concat, hf.lives]
    simp
  · have hwaiting : (s.report number signal).waiting = s.waiting := rfl
    rw [hwaiting, waits_concat, hf.waits]
    simp
  · rw [mem_pending_report, lives_concat, owed_concat, hf.owed]
    simp [and_assoc, eq_comm]

/-- Nothing changes while a listener waits. -/
lemma wait (hf : Follows inherited h s) (number : Nat) :
    Follows inherited (h ++ [.waited number]) s := by
  refine ⟨fun other hmem => hf.known other (by simpa using hmem), fun other => ?_, fun kind => ?_,
    fun other kind => ?_⟩
  · rw [lives_concat, hf.lives]
    simp
  · rw [waits_concat, hf.waits]
    simp
  · rw [lives_concat, owed_concat, hf.owed]
    simp

/-- **Every operation keeps the signals as the history says.** -/
theorem apply (hf : Follows inherited h s) (hkept : Kept inherited s) (operation : Operation) :
    Follows inherited (h ++ [s.happening operation]) (s.apply operation) := by
  cases operation with
  | install => exact hf.install
  | drop number => exact hf.drop number
  | raise signal => exact hf.raise hkept signal
  | deliver => exact hf.deliver
  | receive number prefers =>
      cases hreceive : s.receive number prefers with
      | some result =>
          obtain ⟨signal, s'⟩ := result
          obtain ⟨-, rfl⟩ := receive_eq hreceive
          rw [(of_receive hreceive).1, (of_receive hreceive).2]
          exact hf.report number signal
      | none =>
          rw [(of_receive_none hreceive).1, (of_receive_none hreceive).2]
          exact hf.wait number

end Follows

/-- **After any operations the signals are as the history says.** -/
theorem follows_history (inherited : PerSignal Disposition) (operations : List Operation) :
    Follows inherited (historyFrom inherited operations)
      ((ofDispositions inherited).after operations) := by
  induction operations using List.reverseRecOn with
  | nil => exact follows_ofDispositions inherited
  | append_singleton operations operation ih =>
      rw [historyFrom, history_concat, after_concat]
      exact ih.apply ((kept_ofDispositions inherited).after operations) operation

/-! ### What is reported -/

/-- A kind that was raised while the listener lived, and that the listener has not reported since
then, has been delivered to it or waits for delivery. -/
lemma owed_or_waits (inherited : PerSignal Disposition) (operations : List Operation) {number : Nat}
    {signal : Signal} (hlives : Lives (historyFrom inherited operations) number)
    (hraised : RaisedFor (historyFrom inherited operations) number signal) :
    Owed inherited (historyFrom inherited operations) number signal ∨
      Waits inherited (historyFrom inherited operations) signal := by
  induction operations using List.reverseRecOn with
  | nil => exact absurd hlives since_nil
  | append_singleton operations operation ih =>
      rw [historyFrom, history_concat] at hlives hraised ⊢
      rw [owed_concat, waits_concat]
      rcases raisedFor_concat.mp hraised with ⟨hnow, halive⟩ | ⟨hbefore, hreported⟩
      · exact .inr (.inl ⟨hnow, .inl ⟨number, halive⟩⟩)
      · -- The listener has lived all the time: its number was not given a second time.
        have hlived : Lives ((ofDispositions inherited).history operations) number := by
          refine (lives_concat.mp hlives).elim (fun hinstalled => ?_) And.left
          have hknown := (follows_history inherited operations).known number (RaisedFor.mem hbefore)
          rw [(happening_eq_installed.mp hinstalled).2] at hknown
          exact absurd hknown (Nat.lt_irrefl _)
        rcases ih hlived hbefore with howed | hwaits
        · exact .inl (.inr ⟨howed, hreported⟩)
        · by_cases hdelivered : ((ofDispositions inherited).after operations).happening operation
              = .delivered
          · exact .inl (.inl ⟨hdelivered, hlived, hwaits⟩)
          · exact .inr (.inr ⟨hwaits, hdelivered⟩)

/-- The reports of a kind that a listener can still give without another raise. -/
def outstanding (s : Signals) (number : Nat) (signal : Signal) : Nat :=
  (if signal ∈ s.pending number then 1 else 0) + if signal ∈ s.waiting then 1 else 0

/-- An operation that is a report uses one up, and only one that is a raise adds one. -/
lemma count_happening (s : Signals) (operation : Operation) (number : Nat) (signal : Signal) :
    [s.happening operation].count (.reported number signal)
        + (s.apply operation).outstanding number signal
      ≤ s.outstanding number signal + [s.happening operation].count (.raised signal) := by
  cases operation with
  | install =>
      have hpending : signal ∈ s.install.pending number → signal ∈ s.pending number :=
        fun hmem => (mem_pending_install.mp hmem).2
      simp only [happening, apply, outstanding, waiting_install, List.count_singleton, beq_iff_eq,
        reduceCtorEq, if_false]
      grind
  | drop other =>
      have hpending : signal ∈ (s.drop other).pending number → signal ∈ s.pending number :=
        fun hmem => (mem_pending_drop.mp hmem).1
      simp only [happening, apply, outstanding, waiting_drop, List.count_singleton, beq_iff_eq,
        reduceCtorEq, if_false]
      grind
  | raise kind =>
      have hpending : (s.raise kind).pending number = s.pending number :=
        pending_congr (by rw [listeners_raise])
      have hwaiting : signal ∈ (s.raise kind).waiting → signal = kind ∨ signal ∈ s.waiting :=
        fun hmem => (mem_waiting_raise.mp hmem).imp_left And.left
      simp only [happening, apply, outstanding, hpending, List.count_singleton, beq_iff_eq,
        reduceCtorEq, if_false, Happening.raised.injEq]
      grind
  | deliver =>
      have hpending : signal ∈ s.deliver.pending number →
          signal ∈ s.pending number ∨ signal ∈ s.waiting :=
        fun hmem => (mem_pending_deliver.mp hmem).imp_right And.right
      have hwaiting : signal ∉ s.deliver.waiting := notMem_waiting_deliver
      simp only [happening, apply, outstanding, hwaiting, List.count_singleton, beq_iff_eq,
        reduceCtorEq, if_false]
      grind
  | receive other prefers =>
      cases hreceive : s.receive other prefers with
      | some result =>
          obtain ⟨kind, s'⟩ := result
          obtain ⟨hmem, rfl⟩ := receive_eq hreceive
          have hpending : signal ∈ (s.report other kind).pending number ↔
              signal ∈ s.pending number ∧ (number = other → signal ≠ kind) := mem_pending_report
          have hwaiting : (s.report other kind).waiting = s.waiting := rfl
          rw [(of_receive hreceive).1, (of_receive hreceive).2]
          simp only [outstanding, hwaiting, hpending, List.count_singleton, beq_iff_eq,
            reduceCtorEq, if_false, Happening.reported.injEq]
          by_cases heq : other = number ∧ kind = signal
          · obtain ⟨rfl, rfl⟩ := heq
            simp [hmem]
          · grind
      | none =>
          rw [(of_receive_none hreceive).1, (of_receive_none hreceive).2]
          simp

/-- **No listener reports a kind more often than it has been raised.** -/
theorem count_reported_le (s : Signals) (operations : List Operation) (number : Nat)
    (signal : Signal) :
    (s.history operations).count (.reported number signal)
        + (s.after operations).outstanding number signal
      ≤ s.outstanding number signal + (s.history operations).count (.raised signal) := by
  induction operations generalizing s with
  | nil => exact Nat.le_of_eq (Nat.add_comm _ _)
  | cons operation operations ih =>
      have hstep := s.count_happening operation number signal
      have hrest := ih (s.apply operation)
      have hafter : s.after (operation :: operations) = (s.apply operation).after operations := rfl
      rw [history, hafter, ← List.singleton_append, List.count_append, List.count_append]
      omega

/-- What the listeners report of the signals, after the given history. -/
structure Reporting (inherited : PerSignal Disposition) (h : List Happening) (s : Signals) :
    Prop where
  /-- A listener that reports a kind lives, and is owed it: a raised signal of this kind has been
  delivered after the listener was installed and after its last report of the kind. -/
  justified : ∀ number prefers signal s', s.receive number prefers = some (signal, s') →
    Lives h number ∧ Owed inherited h number signal
  /-- A listener that is owed some kind reports instead of waiting. -/
  prompt : ∀ number prefers signal, Lives h number → Owed inherited h number signal →
    (s.receive number prefers).isSome
  /-- A kind that has been raised while the listener lived, and that it has not reported since then,
  is pending for it once the runtime has delivered what was raised; so it does not wait for ever. -/
  complete : ∀ number signal, Lives h number → RaisedFor h number signal →
    signal ∈ s.deliver.pending number ∧ (s.await number).isSome
  /-- What is pending for a listener stays so until it is dropped or reports this very kind,
  whatever else is done: also when it reports the other kind, and when a wait of it is abandoned. -/
  kept : ∀ number signal operation, signal ∈ s.pending number → operation ≠ .drop number →
    s.happening operation ≠ .reported number signal →
    signal ∈ (s.apply operation).pending number
  /-- What waits for delivery does so until it is delivered, whatever else is done. -/
  stays : ∀ signal operation, signal ∈ s.waiting → operation ≠ .deliver →
    signal ∈ (s.apply operation).waiting
  /-- Several raises can be reported once, but no raise is reported twice by a listener. -/
  coalesced : ∀ number signal, h.count (.reported number signal) ≤ h.count (.raised signal)
  /-- A signal that is raised while no listener lives leaves nothing behind that a later one could
  report, unless the process had the runtime's handler before it installed any. -/
  unheard : ∀ signal, (∀ number, ¬ Lives h number) → inherited.get signal ≠ .listening →
    s.raise signal = s

/-- **Every report is owed to a delivery, and every signal that is raised is reported.**  Whatever
the process did on the two signals before its first installation, and whatever has been installed,
dropped, raised, delivered and received since then, in whatever order: a listener reports a kind
exactly if the kind has been delivered to it since its installation and its last report of the kind,
and what is delivered is what has been raised, while a listener lived, since the delivery before. -/
theorem reports_follow_deliveries (inherited : PerSignal Disposition)
    (operations : List Operation) :
    Reporting inherited (historyFrom inherited operations)
      ((ofDispositions inherited).after operations) := by
  have hf := follows_history inherited operations
  have hkept := (kept_ofDispositions inherited).after operations
  refine ⟨fun number prefers signal s' hreceive => ?_, fun number prefers signal hlives howed => ?_,
    fun number signal hlives hraised => ?_,
    fun number signal operation hpending hdrop hreported => ?_,
    fun signal operation hwaiting hdeliver => ?_, fun number signal => ?_,
    fun signal hnone hinherited => ?_⟩
  · exact (hf.owed number signal).mp (receive_eq hreceive).1
  · exact isSome_receive ((hf.owed number signal).mpr ⟨hlives, howed⟩) prefers
  · have hmem : signal ∈ ((ofDispositions inherited).after operations).deliver.pending number := by
      rw [mem_pending_deliver, hf.owed, hf.waits, hf.lives]
      exact (owed_or_waits inherited operations hlives hraised).imp (.intro hlives) (.intro hlives)
    have hdelivered := isSome_receive hmem .interrupt
    refine ⟨hmem, ?_⟩
    rw [await]
    cases ((ofDispositions inherited).after operations).receive number .interrupt with
    | none => exact hdelivered
    | some _ => rfl
  · have hnext := (hf.apply hkept operation).owed number signal
    obtain ⟨hlives, howed⟩ := (hf.owed number signal).mp hpending
    refine hnext.mpr ⟨lives_concat.mpr (.inr ⟨hlives, ?_⟩),
      owed_concat.mpr (.inr ⟨howed, hreported⟩)⟩
    exact fun hdropped => hdrop (happening_eq_dropped.mp hdropped)
  · refine ((hf.apply hkept operation).waits signal).mpr
      (waits_concat.mpr (.inr ⟨(hf.waits signal).mp hwaiting, ?_⟩))
    exact fun hdelivered => hdeliver (happening_eq_delivered.mp hdelivered)
  · have hcount := count_reported_le (ofDispositions inherited) operations number signal
    have hnone : (ofDispositions inherited).outstanding number signal = 0 := by
      cases signal <;> rfl
    rw [hnone, Nat.zero_add] at hcount
    exact Nat.le_trans (Nat.le_add_right _ _) hcount
  · have hcurrent := (hkept.listening_iff hf.lives signal).not.mpr
      (not_or_intro (fun ⟨number, hnumber⟩ => hnone number hnumber) hinherited)
    rw [raise]
    split
    · rename_i hlistening
      exact absurd hlistening hcurrent
    · rfl

/-- A report need not have a raise of its own after the last report: when the second of two raises
comes after the delivery of the first and before the first is reported, the second is delivered
after that report, and reported as well. -/
theorem reported_without_raise :
    ¬ ∀ (inherited : PerSignal Disposition) (operations : List Operation) (number : Nat)
      (prefers signal : Signal) (s' : Signals),
      ((ofDispositions inherited).after operations).receive number prefers = some (signal, s') →
        RaisedFor (historyFrom inherited operations) number signal := by
  intro hall
  have hraised := hall (.both .default) [.install, .raise .terminate, .deliver, .raise .terminate,
    .receive 0 .interrupt, .deliver] 0 .interrupt .terminate _ rfl
  have hhistory : historyFrom (.both .default) [.install, .raise .terminate, .deliver,
        .raise .terminate, .receive 0 .interrupt, .deliver]
      = [.installed 0, .raised .terminate, .delivered, .raised .terminate]
        ++ [.reported 0 .terminate] ++ [.delivered] := rfl
  rw [hhistory, raisedFor_concat, raisedFor_concat] at hraised
  simp at hraised

end Signals

end ServiceSupervisor
