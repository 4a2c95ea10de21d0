import Mathlib.Logic.Relation
import ServiceSupervisor.World

/-!
Traces as the subject of theorems.

* `Trace.about`: the records of the events of a kind;
* `Trace.Notes`: the records that a routine leaves by itself; they tell nothing about the
  supervision, and a kind of events that leaves notes out does not see them
  (`Trace.about_notes_append`);
* `Trace.Always`: a property of every record and of what was recorded before it
  (`Trace.always_iff`);
* `Trace.Chronological`: no record is later than one above it, and none is later than the clock.
-/

namespace ServiceSupervisor

/-- Whether an event is a note of a routine or of a recurring job, or what a routine does to the
shared token. -/
def Event.isNote : Event → Bool
  | .noted _ _ _ | .jobNoted _ _ | .cancelled (some _) => true
  | _ => false

/-- Whether an event is the supervisor's own. -/
def Event.isOfSupervisor : Event → Bool
  | .registering _ _ | .entered _ | .listening _ | .launched _ | .signalObserved _
  | .shutdownRequested | .cancelled none | .failureReported _ _ | .finished _ _ => true
  | _ => false

/-- A routine's notes are not the supervisor's events. -/
lemma Event.isOfSupervisor_of_isNote (e : Event) (h : e.isNote = true) :
    e.isOfSupervisor = false := by
  cases e with
  | cancelled actor => cases actor <;> first | rfl | cases h
  | _ => first | rfl | cases h

/-- Whether an event is a cancellation of the shared token. -/
def Event.isCancellation : Event → Bool
  | .cancelled _ => true
  | _ => false

namespace Trace

/-! ### Events of a kind -/

/-- The records of the events of a kind. -/
def about (kind : Event → Bool) (tr : Trace) : Trace := tr.filter fun x => kind x.event

section About

variable {kind : Event → Bool}

@[simp] lemma about_nil : about kind [] = [] := rfl

@[simp] lemma about_cons (x : Record) (tr : Trace) :
    about kind (x :: tr) = if kind x.event then x :: about kind tr else about kind tr := by
  rw [about, List.filter_cons]
  rfl

@[simp] lemma about_append (tr tr' : Trace) :
    about kind (tr ++ tr') = about kind tr ++ about kind tr' :=
  List.filter_append ..

lemma mem_about {x : Record} {tr : Trace} : x ∈ about kind tr ↔ x ∈ tr ∧ kind x.event = true :=
  List.mem_filter

/-- A kind of events is found among those of a wider kind. -/
lemma about_about {wider : Event → Bool} (h : ∀ e, kind e = true → wider e = true) (tr : Trace) :
    about kind (about wider tr) = about kind tr := by
  rw [about, about, List.filter_filter]
  refine List.filter_congr fun x _ => ?_
  cases hk : kind x.event with
  | false => rfl
  | true => simp [h _ hk]

end About

/-! ### Notes -/

/-- All records are notes, left at one instant and in one phase. -/
def Notes (now : Nat) (phase : Phase) (notes : Trace) : Prop :=
  ∀ x ∈ notes, x.event.isNote = true ∧ x.time = now ∧ x.phase = phase

variable {now : Nat} {phase : Phase} {notes tr : Trace}

lemma notes_nil : Notes now phase [] := by simp [Notes]

lemma Notes.append {more : Trace} (h : Notes now phase notes) (h' : Notes now phase more) :
    Notes now phase (notes ++ more) := by
  intro x hx
  rcases List.mem_append.mp hx with hx | hx
  · exact h x hx
  · exact h' x hx

lemma Notes.cons {event : Event} (h : Notes now phase notes) (he : event.isNote = true) :
    Notes now phase (⟨now, phase, event⟩ :: notes) := by
  intro x hx
  rcases List.mem_cons.mp hx with rfl | hx
  · exact ⟨he, rfl, rfl⟩
  · exact h x hx

/-- A kind of events that leaves notes out does not see them. -/
lemma about_notes (h : Notes now phase notes) {kind : Event → Bool}
    (hk : ∀ e : Event, e.isNote = true → kind e = false) : about kind notes = [] :=
  List.filter_eq_nil_iff.mpr fun x hx => by simp [hk _ (h x hx).1]

lemma about_notes_append (h : Notes now phase notes) {kind : Event → Bool}
    (hk : ∀ e : Event, e.isNote = true → kind e = false) :
    about kind (notes ++ tr) = about kind tr := by
  rw [about_append, about_notes h hk, List.nil_append]

/-! ### Properties of records in their order -/

/-- Every record has a property together with the records before it. -/
def Always (P : Record → Trace → Prop) : Trace → Prop
  | [] => True
  | x :: before => P x before ∧ Always P before

variable {P : Record → Trace → Prop}

lemma always_iff :
    Always P tr ↔ ∀ after x before, tr = after ++ x :: before → P x before := by
  induction tr with
  | nil => simp [Always]
  | cons y tr ih =>
      rw [Always, ih]
      constructor
      · rintro ⟨hy, htr⟩ after x before h
        cases after with
        | nil =>
            obtain ⟨rfl, rfl⟩ := List.cons.inj h
            exact hy
        | cons z after => exact htr after x before (List.cons.inj h).2
      · intro h
        exact ⟨h [] y tr rfl, fun after x before hx => h (y :: after) x before (by simp [hx])⟩

/-- Records that a property says nothing about keep it. -/
lemma always_append {new : Trace} (h : Always P tr) (hnew : ∀ x ∈ new, ∀ before, P x before) :
    Always P (new ++ tr) := by
  induction new with
  | nil => exact h
  | cons x new ih =>
      exact ⟨hnew x List.mem_cons_self _, ih fun y hy => hnew y (List.mem_cons_of_mem x hy)⟩

/-- A trace without records of a kind has a property that says nothing about others. -/
lemma always_of_about {kind : Event → Bool} (h : tr.about kind = [])
    (hP : ∀ (x : Record) before, kind x.event = false → P x before) : Always P tr := by
  have hnew : Always P (tr ++ []) := always_append trivial fun x hx before =>
    hP x before (Bool.eq_false_iff.mpr (List.filter_eq_nil_iff.mp h x hx))
  rwa [List.append_nil] at hnew

/-! ### The order of time -/

/-- The records stand in the order of their instants, none of which the clock has not reached. -/
def Chronological (now : Nat) (tr : Trace) : Prop :=
  (∀ x ∈ tr, x.time ≤ now) ∧ tr.Pairwise fun later earlier => earlier.time ≤ later.time

lemma chronological_nil : Chronological now [] := ⟨by simp, .nil⟩

/-- What happens now is recorded above the rest. -/
lemma Chronological.append {new : Trace} (h : Chronological now tr)
    (hnew : ∀ x ∈ new, x.time = now) : Chronological now (new ++ tr) := by
  refine ⟨fun x hx => ?_, List.pairwise_append.mpr ⟨?_, h.2, fun x hx y hy => ?_⟩⟩
  · rcases List.mem_append.mp hx with hx | hx
    · exact Nat.le_of_eq (hnew x hx)
    · exact h.1 x hx
  · refine List.pairwise_of_forall_mem_list fun x hx y hy => ?_
    exact Nat.le_of_eq ((hnew y hy).trans (hnew x hx).symm)
  · rw [hnew x hx]
    exact h.1 y hy

lemma Chronological.mono {later : Nat} (h : Chronological now tr) (hle : now ≤ later) :
    Chronological later tr :=
  ⟨fun x hx => Nat.le_trans (h.1 x hx) hle, h.2⟩

end Trace

end ServiceSupervisor
