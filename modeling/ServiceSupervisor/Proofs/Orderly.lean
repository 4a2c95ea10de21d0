import ServiceSupervisor.Proofs.Entries
import ServiceSupervisor.Proofs.Listening
import ServiceSupervisor.Proofs.TeardownTiming

/-!
What holds of a run whatever its signals are.

* `Teardown.tally`: the coordinator loses no registration (`Teardown.Move.tally_eq`);
* `Run.Move.listens_of_entryTrace`, `Run.Move.listens_of_coordinator`: whatever happens to an entry
  routine, and every spawn and report of a teardown, happens while the supervisor listens;
* `Run.Orderly`: the entry routines, the teardown and the listener fit what the supervisor is doing.
  Every move keeps that (`Run.Orderly.move`), and since it says nothing of the signals it lasts when
  other runs change them.
-/

namespace ServiceSupervisor

/-! ### The registrations of a teardown -/

namespace Teardown

variable {registry : Registry} {fallback : Duration}

/-- The reports made, the teardown that is waited for and the registrations left. -/
def tally (t : Teardown) : Nat := t.reports.length + t.awaited.isSome.toNat + t.remaining

/-- The coordinator loses no registration. -/
lemma Move.tally_eq {before after : Teardown × World} (hm : Move registry fallback before after)
    (h : before.1.tally = registry.size) : after.1.tally = registry.size := by
  cases hm with
  | @skip t w index hr ha he =>
      have hle : registry.size ≤ index := List.getElem?_eq_none_iff.mp he
      simp only [tally, hr] at h
      omega
  | @spawn t w index entry hr ha he hd =>
      simp only [tally, hr, ha, Option.isSome_none, Bool.toNat_false] at h
      simp only [tally, awaited, Option.bind_eq_bind, Option.bind_some, List.getLast?_concat,
        Option.isSome_some, Bool.toNat_true]
      omega
  | @expire t w index entry hr ha he hd =>
      simp only [tally, hr, ha, Option.isSome_none, Bool.toNat_false] at h
      simp only [tally, awaited, Option.bind_eq_bind, Option.bind_none, List.length_append,
        List.length_singleton, Option.isSome_none, Bool.toNat_false]
      omega
  | @settle t w task until_ outcome ha ho =>
      simp only [tally, ha, Option.isSome_some, Bool.toNat_true] at h
      simp only [tally, awaited_settle, Option.isSome_none, Bool.toNat_false]
      simp only [Teardown.settle, List.length_append, List.length_singleton]
      omega

/-- When a teardown is over nothing is left but reports. -/
lemma tally_of_isOver {t : Teardown} (h : t.isOver = true) : t.tally = t.reports.length := by
  simp only [isOver, Bool.and_eq_true, decide_eq_true_eq, Option.isNone_iff_eq_none] at h
  simp [tally, h.1, h.2]

end Teardown

namespace Run

variable {app : Application} {r r' : Run}

/-! ### A run in order -/

/-- How far the teardown is, for each thing that the supervisor may be doing. -/
def Reporting (app : Application) (r : Run) : Prop :=
  match r.control with
  | .stopping _ => r.teardown.tally = app.registry.size
  | .returned _ => r.teardown.reports.length = app.registry.size
  | _ => r.teardown = .empty

/-- A run in order, whatever the signals of the process are. -/
structure Orderly (app : Application) (r : Run) : Prop where
  /-- The entry routines fit what the supervisor is doing. -/
  staffed : Staffed app r
  /-- So does the teardown. -/
  reporting : Reporting app r
  /-- A run that signals end has a listener from the launch until it returns. -/
  listener_iff : r.listener.isSome = true ↔ app.trigger = .signals ∧ r.control.listens = true
  /-- Before the launch nothing is recorded of the entry routines and the teardown. -/
  unbegun : r.control = .idle →
    r.entryTrace = [] ∧ r.world.trace.about Event.isOfCoordinator = []

/-! ### What happens while the supervisor listens -/

/-- A supervisor that listens goes on listening, unless it returns. -/
lemma Move.listens (hm : Move app r r') (h : r.control.listens = true) :
    r'.control.listens = true ∨ ∃ first, r' = r.finish first := by
  cases hm.supervisorSide with
  | launch hc hr => simp [hc, Control.listens] at h
  | fail exit exits culprit hc he hf hr => exact .inl (by rw [hr]; rfl)
  | trigger prefers hc hd hr => exact .inl (by rw [hr]; rfl)
  | collect first drained hc hr => exact .inl (by rw [hr]; rfl)
  | judge first drained hc he hp hr => exact .inl (by rw [hr]; rfl)
  | finish first hc ho hr => exact .inr ⟨first, hr⟩
  | stay hc hphase hv hnow => exact .inl (by rwa [hc])
  | tick instant hq hp hn hr => exact .inl (by rwa [hr])

/-- Whether a move begins or ends the wait for signals, or does neither. -/
lemma Move.listener_cases (hm : Move app r r') :
    (r.control = .idle ∧ r' = r.launch app) ∨
      (∃ first, r.control = .stopping first ∧ r' = r.finish first) ∨
        (r'.listener = r.listener ∧ r'.control.listens = r.control.listens) := by
  cases hm with
  | launch hc => exact .inl ⟨hc, rfl⟩
  | finish hc ho => exact .inr (.inl ⟨_, hc, rfl⟩)
  | trigger prefers hc hd =>
      obtain ⟨signals, seen, heq, -⟩ := observeSignal_eq prefers r
      exact .inr (.inr ⟨by rw [heq]; rfl, by rw [hc]; rfl⟩)
  | fail hc he hf => exact .inr (.inr ⟨rfl, by rw [hc]; rfl⟩)
  | collect hc => exact .inr (.inr ⟨rfl, by rw [hc]; rfl⟩)
  | judge hc he hp => exact .inr (.inr ⟨rfl, by rw [hc]; rfl⟩)
  | skim hc he hok => exact .inr (.inr ⟨rfl, rfl⟩)
  | coordinate hc hm => exact .inr (.inr ⟨rfl, rfl⟩)
  | spawnEntry he ht => exact .inr (.inr ⟨rfl, rfl⟩)
  | reportExit he ht => exact .inr (.inr ⟨rfl, rfl⟩)
  | entry he ht hr hp => exact .inr (.inr ⟨rfl, rfl⟩)
  | teardown ht hr hp => exact .inr (.inr ⟨rfl, rfl⟩)
  | job fires hr => exact .inr (.inr ⟨rfl, rfl⟩)
  | deliver hw => exact .inr (.inr ⟨rfl, rfl⟩)
  | tick hq hp hn => exact .inr (.inr ⟨rfl, rfl⟩)

/-- While the end of an entry routine has not been reported the supervisor listens. -/
lemma Staffed.listens_of_unreported {index : Nat} {task : EntryTask} (h : Staffed app r)
    (ht : r.startup.entries[index]? = some task) (hold : task.isReported = false) :
    r.control.listens = true := by
  have hopen := h.open_of_unreported ht hold
  cases hc : r.control with
  | idle =>
      simp only [Staffed, hc] at h
      rw [h.1] at ht
      cases ht
  | waiting => rfl
  | draining first drained => rfl
  | stopping first => rfl
  | returned first => exact absurd hc (hopen first).2
  | abandoned => simp [Staffed, hc] at h
  | byHand => simp [Staffed, hc] at h

/-- Whatever happens to an entry routine happens while the supervisor listens. -/
lemma Move.listens_of_entryTrace (hm : Move app r r') (hs : Staffed app r)
    (hne : r'.entryTrace ≠ r.entryTrace) :
    r.control.listens = true ∧ r'.control.listens = true := by
  have hbefore : r.control.listens = true := by
    cases hm.entrySide with
    | launch hc hs hnow hv => exact absurd hv hne
    | spawn index routine ht hs hnow hv => exact absurd hv hne
    | report index entry ending he ht hs' hx hnow hv => exact hs.listens_of_unreported ht rfl
    | poll index owner task polled ht hr hs' hadv =>
        refine hs.listens_of_unreported ht ?_
        cases task <;> first | rfl | cases hr
    | rest hs hv hnow => exact absurd hv hne
  refine ⟨hbefore, (hm.listens hbefore).resolve_right ?_⟩
  rintro ⟨first, rfl⟩
  exact hne (about_finish first r Event.isOfEntries_of_isOfSupervisor)

/-- Every spawn and every report of a teardown happens while the supervisor listens. -/
lemma Move.listens_of_coordinator (hm : Move app r r') (hs : Staffed app r)
    (hne : r'.world.trace.about Event.isOfCoordinator
      ≠ r.world.trace.about Event.isOfCoordinator) :
    r.control.listens = true ∧ r'.control.listens = true := by
  have hbefore : r.control.listens = true := by
    cases hm.teardownSide with
    | coordinate hc hm hw =>
        rcases hc with ⟨first, hc⟩ | hc
        · rw [hc]
          rfl
        · rw [Staffed, hc] at hs
          exact hs.elim
    | poll number owner task polled ht hr hadv =>
        exact absurd (hadv.about_eq_of_other Event.isOfCoordinator_of_isNote rfl fun _ => rfl) hne
    | rest hv => exact absurd (Trace.about_isOfCoordinator_congr hv) hne
  refine ⟨hbefore, (hm.listens hbefore).resolve_right ?_⟩
  rintro ⟨first, rfl⟩
  exact hne (Trace.about_isOfCoordinator_congr
    (about_finish first r Event.isOfTeardown_of_isOfSupervisor))

/-! ### What every move keeps -/

/-- Every move keeps the teardown in accord with the supervisor. -/
lemma Reporting.move (h : Reporting app r) (hs : Staffed app r) (hm : Move app r r') :
    Reporting app r' := by
  cases hm with
  | launch hc =>
      obtain ⟨signals, listener, seen, heq, -⟩ := launch_eq app r
      rw [heq]
      simp only [Reporting, hc] at h
      exact h
  | skim hc he hok =>
      simp only [Reporting, hc] at h ⊢
      exact h
  | fail hc he hf =>
      simp only [Reporting, hc] at h
      exact h
  | trigger prefers hc hd =>
      obtain ⟨signals, seen, heq, -⟩ := observeSignal_eq prefers r
      rw [heq]
      simp only [Reporting, hc] at h
      exact h
  | collect hc =>
      simp only [Reporting, hc] at h
      exact h
  | judge hc he hp =>
      simp only [Reporting, hc] at h
      rw [h]
      simp [Reporting, Teardown.begin_, Teardown.empty, Teardown.tally, Teardown.awaited]
  | coordinate hc hm =>
      rcases hc with ⟨first, hc⟩ | hc
      · simp only [Reporting, hc] at h ⊢
        exact hm.tally_eq h
      · rw [Staffed, hc] at hs
        exact hs.elim
  | @finish first hc ho =>
      obtain ⟨signals, heq⟩ := finish_eq first r
      rw [heq]
      simp only [Reporting, hc] at h
      exact (Teardown.tally_of_isOver ho).symm.trans h
  | spawnEntry he ht => exact h
  | reportExit he ht => exact h
  | entry he ht hr hp => exact h
  | @teardown number task polled w ht hr hp =>
      have hset : ∀ t : Teardown, t.tasks[number]? = some task →
          ({ t with tasks := t.tasks.set number { task with task := polled } } : Teardown).tally
            = t.tally := fun t _ => by rw [Teardown.tally, Teardown.isSome_awaited_set]; rfl
      have hnot : r.teardown ≠ .empty := by
        intro hempty
        rw [hempty] at ht
        cases ht
      unfold Reporting at h ⊢
      split at h
      · rename_i first hc
        simp only [hc]
        exact (hset _ ht).trans h
      · rename_i first hc
        simp only [hc]
        exact h
      · exact absurd h hnot
  | job fires hr => exact h
  | deliver hw => exact h
  | tick hq hp hn => exact h

/-- No move leads back to the time before the launch. -/
lemma Move.idle_of_idle (hm : Move app r r') (h : r'.control = .idle) : r.control = .idle := by
  cases hm.supervisorSide with
  | launch hc hr => exact hc
  | fail exit exits culprit hc he hf hr => simp [hr, beginDrain] at h
  | trigger prefers hc hd hr => simp [hr, beginDrain] at h
  | collect first drained hc hr => simp [hr] at h
  | judge first drained hc he hp hr => simp [hr] at h
  | finish first hc ho hr =>
      obtain ⟨signals, heq⟩ := finish_eq first r
      simp [hr, heq] at h
  | stay hc hphase hv hnow => exact hc.symm.trans h
  | tick instant hq hp hn hr => rwa [hr] at h

namespace Orderly

lemma initial (app : Application) (signals : Signals) (wallClock : Nat → Timestamp) :
    Orderly app (.initial app signals wallClock) where
  staffed := ⟨rfl, now_initial app signals wallClock⟩
  reporting := rfl
  listener_iff := by simp [Run.initial, Control.listens]
  unbegun := fun _ =>
    ⟨about_initial signals wallClock Event.isOfEntries_of_isNote fun _ _ => rfl,
      about_initial signals wallClock Event.isOfCoordinator_of_isNote fun _ _ => rfl⟩

/-- A launched run has a listener if signals end it. -/
lemma listener_launch (h : Orderly app r) (hc : r.control = .idle) :
    (r.launch app).listener.isSome = true ↔ app.trigger = .signals := by
  have hnone : r.listener.isSome ≠ true := by
    rw [Ne, h.listener_iff, hc]
    simp [Control.listens]
  rw [Run.launch, installListener]
  split
  · rename_i ht
    exact iff_of_true rfl ht
  · rename_i ht
    exact iff_of_false hnone ht

/-- **Every move keeps a run in order.** -/
theorem move (h : Orderly app r) (hm : Move app r r') : Orderly app r' := by
  refine ⟨h.staffed.move hm, h.reporting.move h.staffed hm, ?_, fun hidle => ?_⟩
  · rcases hm.listener_cases with ⟨hc, rfl⟩ | ⟨first, hc, rfl⟩ | ⟨hl, hlistens⟩
    · rw [h.listener_launch hc]
      exact (and_iff_left rfl).symm
    · obtain ⟨signals, heq⟩ := finish_eq first r
      rw [heq]
      simp [Control.listens]
    · rw [hl, hlistens]
      exact h.listener_iff
  · have hc := hm.idle_of_idle hidle
    obtain ⟨hentries, hcoordinator⟩ := h.unbegun hc
    have hquiet : ¬ (r.control.listens = true ∧ r'.control.listens = true) := by
      simp [hc, Control.listens]
    refine ⟨(by_contra fun hne => ?_), by_contra fun hne => ?_⟩
    · exact hquiet (hm.listens_of_entryTrace h.staffed fun heq => hne (heq.trans hentries))
    · exact hquiet (hm.listens_of_coordinator h.staffed fun heq => hne (heq.trans hcoordinator))

/-- Time passes for a run that has been launched. -/
lemma atInstant (h : Orderly app r) (hc : r.control ≠ .idle) (instant : Nat) :
    Orderly app (r.atInstant instant) :=
  ⟨h.staffed.of_eq rfl rfl (.inr hc), h.reporting, h.listener_iff, h.unbegun⟩

end Orderly

end Run

end ServiceSupervisor
