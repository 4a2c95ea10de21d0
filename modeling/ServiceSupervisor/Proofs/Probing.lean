import Mathlib.Data.ENat.Lattice
import ServiceSupervisor.Probe
import ServiceSupervisor.Proofs.InMotion

/-!
What becomes of a call of a probe.

Three things race in a call of the entry routine: the answer of the target, the end of the connect
timeout, and the cancellation.  The first of them decides, and a connection that has been made in
time leaves the cancellation alone to wait for.  No time passes between a call and its first poll,
so a call whose token is cancelled before it begins is cancelled at the instant at which it is made.

* `Probe.limit`, `Probe.fault?`, `Probe.await_eq`: a probe waits for so long, and then something is
  wrong or it stays up;
* `Usage.Call.Probes`: where a call stands, and whether it has dialled;
* `Usage.Probing`, `Usage.probing_of_steps`: so all calls stand, whatever is done with the probe;
* `Usage.Call.answeredAt`, `Usage.Call.lateAt`, `Usage.Call.cancelledAt`: the three instants;
* `Usage.Gives`: a call returns in one way, at one instant;
* `Usage.first_decides`: so each call does, by what comes first.
-/

namespace ServiceSupervisor

/-- The call of an entry routine at a place has begun to dial. -/
def World.HasDialled (w : World) (target : String) (place : Nat) : Prop :=
  ∃ x ∈ w.trace, x.event = .noted (.entry place) 0 (.probe (.dialled target))

instance (w : World) (target : String) (place : Nat) : Decidable (w.HasDialled target place) :=
  inferInstanceAs (Decidable (∃ x ∈ w.trace, _))

@[simp] lemma World.hasDialled_emit {w : World} {event : Event} {target : String} {place : Nat} :
    (w.emit event).HasDialled target place ↔
      event = .noted (.entry place) 0 (.probe (.dialled target)) ∨ w.HasDialled target place := by
  simp [HasDialled]

lemma World.hasDialled_emitAll {w : World} {events : List Event} {target : String} {place : Nat} :
    (w.emitAll events).HasDialled target place ↔
      .noted (.entry place) 0 (.probe (.dialled target)) ∈ events ∨ w.HasDialled target place := by
  simp [HasDialled, emitAll_eq, or_and_right, exists_or]

/-! ### The wait for an answer -/

namespace Probe

/-- How long a probe waits for an answer: as long as it takes, up to the timeout. -/
def limit (p : Probe) (answer : Answer) : Duration :=
  match answer.after? with
  | some after => if after.millis ≤ p.connectTimeout.millis then after else p.connectTimeout
  | none => p.connectTimeout

/-- What is wrong when the wait is over, if anything is. -/
def fault? (p : Probe) : Answer → Option Failure
  | .accepts after =>
    if after.millis ≤ p.connectTimeout.millis then none else some (p.dialFailure p.timeoutCause)
  | .fails after cause =>
    if after.millis ≤ p.connectTimeout.millis then some (p.dialFailure cause)
    else some (p.dialFailure p.timeoutCause)
  | .silent => some (p.dialFailure p.timeoutCause)

/-- What a probe does then. -/
def concludes (p : Probe) : Option Failure → Routine
  | none => p.stayUp
  | some failure => .stop (.failed failure)

/-- The task that is left then. -/
def concluded : Option Failure → Task
  | none => .awaiting .done
  | some failure => .ended (.failed failure)

variable {p : Probe} {answer : Answer}

lemma await_eq :
    p.await answer = unlessCancelled (p.limit answer) (p.concludes (p.fault? answer)) := by
  cases answer with
  | accepts after =>
      rw [await, limit, fault?, Answer.after?]
      dsimp only
      split <;> rfl
  | fails after cause =>
      rw [await, limit, fault?, Answer.after?]
      dsimp only
      split <;> rfl
  | silent => rfl

section Polls

variable (p answer) (actor : Actor) {w : World}

/-- A probe that is cancelled already ends well and does nothing else. -/
lemma poll_entry_of_cancelled (h : w.cancelled = true) :
    ((Task.unbegun (p.entry answer)).poll actor 0 w).1 = .ended .finished ∧
      ∀ place, ((Task.unbegun (p.entry answer)).poll actor 0 w).2.HasDialled p.target place ↔
        w.HasDialled p.target place := by
  simp [Task.poll, entry, Routine.exec, Routine.done, h]

/-- What a probe does when its wait is over is not another dial. -/
lemma exec_concludes (h : w.cancelled = false) (fault : Option Failure) :
    ((p.concludes fault).exec actor 0 w).1 = concluded fault ∧
      ∀ place, ((p.concludes fault).exec actor 0 w).2.HasDialled p.target place ↔
        w.HasDialled p.target place := by
  cases fault with
  | none => simp [concludes, concluded, stayUp, Routine.exec, h]
  | some failure => simp [concludes, concluded, Routine.exec]

/-- A probe that is not cancelled dials, and then it waits; if there is nothing to wait for it goes
on at once. -/
lemma poll_entry (h : w.cancelled = false) :
    ((Task.unbegun (p.entry answer)).poll actor 0 w).1
        = (if (p.limit answer).millis = 0 then concluded (p.fault? answer)
          else .racing (w.now + (p.limit answer).millis) (p.concludes (p.fault? answer)) .done) ∧
      ∀ place, ((Task.unbegun (p.entry answer)).poll actor 0 w).2.HasDialled p.target place ↔
        actor = .entry place ∨ w.HasDialled p.target place := by
  have hcancelled : (w.emit (.noted actor 0 (.probe (.dialled p.target)))).cancelled = false := h
  obtain ⟨htask, hdialled⟩ := exec_concludes p actor hcancelled (p.fault? answer)
  simp only [Task.poll, entry, Routine.exec, h, await_eq, unlessCancelled, hcancelled,
    Bool.false_eq_true, if_false]
  split
  · exact ⟨htask, fun place => by simp [hdialled]⟩
  · exact ⟨rfl, fun place => by simp⟩

/-- When the wait is over a probe goes on. -/
lemma poll_racing {until_ : Nat} (h : w.cancelled = false) (hle : until_ ≤ w.now)
    (fault : Option Failure) :
    ((Task.racing until_ (p.concludes fault) .done).poll actor 0 w).1 = concluded fault ∧
      ∀ place, ((Task.racing until_ (p.concludes fault) .done).poll actor 0 w).2.HasDialled
        p.target place ↔ w.HasDialled p.target place := by
  rw [Task.poll, if_neg (Bool.eq_false_iff.mp h), if_pos hle]
  exact exec_concludes p actor h fault

end Polls

end Probe

namespace Usage

/-! ### The calls -/

/-- Where a call of a probe stands, given whether it has dialled. -/
inductive Call.Probes (p : Probe) (network : Network) (now : Nat) (dialled : Prop) : Call → Prop
  | unbegun {operation : Operation} {cancelled : Option Nat} (hdialled : ¬dialled)
      (hcancelled : cancelled = none ∨ cancelled = some now) :
      Probes p network now dialled
        ⟨operation, now, cancelled, .unbegun (operation.routine (p.component network)), none⟩
  | spared {made : Nat} (hdialled : ¬dialled) (hmade : made ≤ now) :
      Probes p network now dialled
        ⟨.run, made, some made, .ended .finished, some ⟨made, .finished⟩⟩
  | waiting {made : Nat} {cancelled : Option Nat} (hdialled : dialled) (hmade : made ≤ now)
      (hnow : now ≤ made + (p.limit (network.dial p.target)).millis)
      (hcancelled : cancelled = none ∨ cancelled = some now) :
      Probes p network now dialled
        ⟨.run, made, cancelled, .racing (made + (p.limit (network.dial p.target)).millis)
          (p.concludes (p.fault? (network.dial p.target))) .done, none⟩
  | connected {made : Nat} {cancelled : Option Nat} (hdialled : dialled) (hmade : made ≤ now)
      (hfault : p.fault? (network.dial p.target) = none)
      (hcancelled : cancelled = none ∨ cancelled = some now) :
      Probes p network now dialled ⟨.run, made, cancelled, .awaiting .done, none⟩
  | finished {made time : Nat} (hdialled : dialled) (hmade : made ≤ time) (htime : time ≤ now)
      (hwait : p.fault? (network.dial p.target) = none ∨
        time ≤ made + (p.limit (network.dial p.target)).millis) :
      Probes p network now dialled
        ⟨.run, made, some time, .ended .finished, some ⟨time, .finished⟩⟩
  | failed {made time : Nat} {cancelled : Option Nat} {failure : Failure} (hdialled : dialled)
      (hlimit : time = made + (p.limit (network.dial p.target)).millis) (htime : time ≤ now)
      (hfault : p.fault? (network.dial p.target) = some failure)
      (hcancelled : ∀ instant, cancelled = some instant → time ≤ instant) :
      Probes p network now dialled
        ⟨.run, made, cancelled, .ended (.failed failure), some ⟨time, .failed failure⟩⟩
  | tornDown {deadline : Duration} {made : Nat} {cancelled : Option Nat} :
      Probes p network now dialled
        ⟨.tearDown deadline, made, cancelled, .ended .finished, some ⟨made, .finished⟩⟩

namespace Call.Probes

variable {p : Probe} {network : Network} {now : Nat} {dialled : Prop} {c : Call}

/-- The token of a call may be cancelled at any time. -/
lemma cancel (h : c.Probes p network now dialled) :
    (c.cancel now).Probes p network now dialled := by
  have hnow : ∀ {cancelled : Option Nat}, cancelled = none ∨ cancelled = some now →
      (cancelled <|> some now) = none ∨ (cancelled <|> some now) = some now := by
    rintro _ (rfl | rfl) <;> exact .inr rfl
  cases h with
  | unbegun hdialled hcancelled => exact .unbegun hdialled (hnow hcancelled)
  | spared hdialled hmade => exact .spared hdialled hmade
  | waiting hdialled hmade hwait hcancelled => exact .waiting hdialled hmade hwait (hnow hcancelled)
  | connected hdialled hmade hfault hcancelled =>
      exact .connected hdialled hmade hfault (hnow hcancelled)
  | finished hdialled hmade htime hwait => exact .finished hdialled hmade htime hwait
  | @failed made time cancelled failure hdialled hlimit htime hfault hcancelled =>
      refine .failed hdialled hlimit htime hfault fun instant hinstant => ?_
      cases cancelled with
      | none => exact Option.some.inj hinstant ▸ htime
      | some first => exact hcancelled instant hinstant
  | tornDown => exact .tornDown

/-- Time passes for a call that cannot go on, up to the instant for which it waits. -/
lemma pass {w : World} {span : Nat} (h : c.Probes p network w.now dialled)
    (hr : c.task.ready { w with cancelled := c.cancelled.isSome } 0 = false)
    (hwake : ∀ wake, c.task.wake = some wake → w.now + span ≤ wake) :
    c.Probes p network (w.now + span) dialled := by
  have hlater := Nat.le_add_right w.now span
  cases h with
  | unbegun hdialled hcancelled => cases hr
  | spared hdialled hmade => exact .spared hdialled (Nat.le_trans hmade hlater)
  | waiting hdialled hmade hwait hcancelled =>
      rcases hcancelled with rfl | rfl
      · exact .waiting hdialled (Nat.le_trans hmade hlater) (hwake _ rfl) (.inl rfl)
      · cases hr
  | connected hdialled hmade hfault hcancelled =>
      rcases hcancelled with rfl | rfl
      · exact .connected hdialled (Nat.le_trans hmade hlater) hfault (.inl rfl)
      · cases hr
  | finished hdialled hmade htime hwait =>
      exact .finished hdialled hmade (Nat.le_trans htime hlater) hwait
  | failed hdialled hlimit htime hfault hcancelled =>
      exact .failed hdialled hlimit (Nat.le_trans htime hlater) hfault hcancelled
  | tornDown => exact .tornDown

lemma congr {dialled' : Prop} (h : c.Probes p network now dialled) (hiff : dialled' ↔ dialled) :
    c.Probes p network now dialled' := by
  rwa [propext hiff]

/-- When its wait is over a call fails or has only its cancellation to wait for. -/
lemma of_concluded {made : Nat} (hdialled : dialled)
    (hlimit : now = made + (p.limit (network.dial p.target)).millis) :
    Probes p network now dialled
      ⟨.run, made, none, Probe.concluded (p.fault? (network.dial p.target)),
        (Probe.concluded (p.fault? (network.dial p.target))).ending?.map (⟨now, ·⟩)⟩ := by
  have hmade : made ≤ now := hlimit ▸ Nat.le_add_right _ _
  cases hfault : p.fault? (network.dial p.target) with
  | none => exact .connected hdialled hmade hfault (.inl rfl)
  | some failure => exact .failed hdialled hlimit (Nat.le_refl now) hfault nofun

/-- **A call of a probe goes on as the probe prescribes**, and dials for itself alone. -/
theorem poll {u : Usage} {place : Nat}
    (h : c.Probes p network u.world.now (u.world.HasDialled p.target place))
    (hr : u.callReady c = true) :
    (u.polled place c).Probes p network u.world.now
        ((u.pollCall place c).world.HasDialled p.target place) ∧
      ∀ i ≠ place, (u.pollCall place c).world.HasDialled p.target i ↔
        u.world.HasDialled p.target i := by
  -- It is enough to know the task after the poll, and which calls have dialled then.
  suffices hpoll : ∃ (task : Task) (dialled : Nat → Prop),
      ((c.task.poll (c.operation.actor place) 0 (u.under c)).1 = task ∧
        ∀ i, (c.task.poll (c.operation.actor place) 0 (u.under c)).2.HasDialled p.target i ↔
          dialled i) ∧
      Probes p network u.world.now (dialled place)
        { c with task, returned := task.ending?.map (⟨u.world.now, ·⟩) } ∧
      ∀ i ≠ place, dialled i ↔ u.world.HasDialled p.target i by
    obtain ⟨_, dialled, ⟨rfl, hdialled⟩, hprobes, hothers⟩ := hpoll
    exact ⟨hprobes.congr (hdialled place), fun i hi => (hdialled i).trans (hothers i hi)⟩
  cases h with
  | @unbegun operation cancelled hdialled hcancelled =>
      cases operation with
      | run =>
          rcases hcancelled with rfl | rfl
          · refine ⟨_, _, Probe.poll_entry p _ (.entry place) rfl, ?_, fun i hi =>
              or_iff_right fun hactor => hi (Actor.entry.inj hactor).symm⟩
            split
            · rename_i hzero
              exact of_concluded (.inl rfl) (by rw [hzero]; rfl)
            · exact .waiting (.inl rfl) (Nat.le_refl _) (Nat.le_add_right _ _) (.inl rfl)
          · exact ⟨_, _, Probe.poll_entry_of_cancelled p _ (.entry place) rfl,
              .spared hdialled (Nat.le_refl _), fun _ _ => .rfl⟩
      | tearDown deadline =>
          exact ⟨_, _, ⟨rfl, fun i => World.hasDialled_emit⟩, .tornDown,
            fun i _ => or_iff_right nofun⟩
  | spared hdialled hmade => cases hr
  | @waiting made cancelled hdialled hmade hnow hcancelled =>
      rcases hcancelled with rfl | rfl
      · have hle : made + (p.limit (network.dial p.target)).millis ≤ u.world.now :=
          of_decide_eq_true hr
        exact ⟨_, _, Probe.poll_racing p (.entry place) (w := { u.world with cancelled := false })
          rfl hle _, of_concluded hdialled (Nat.le_antisymm hnow hle), fun _ _ => .rfl⟩
      · exact ⟨.ended .finished, _, ⟨rfl, fun _ => .rfl⟩,
          .finished hdialled hmade (Nat.le_refl _) (.inr hnow), fun _ _ => .rfl⟩
  | @connected made cancelled hdialled hmade hfault hcancelled =>
      rcases hcancelled with rfl | rfl
      · cases hr
      · exact ⟨.ended .finished, _, ⟨rfl, fun _ => .rfl⟩,
          .finished hdialled hmade (Nat.le_refl _) (.inl hfault), fun _ _ => .rfl⟩
  | finished hdialled hmade htime hwait => cases hr
  | failed hdialled hlimit htime hfault hcancelled => cases hr
  | tornDown => cases hr

end Call.Probes

/-! ### The probe in use -/

variable {p : Probe} {network : Network} {u u' : Usage} {place : Nat} {c : Call}

/-- All calls of a probe stand so, and nobody has dialled but for a call. -/
structure Probing (p : Probe) (network : Network) (u : Usage) : Prop where
  /-- Where each call stands. -/
  calls : ∀ {place : Nat} {c : Call}, u.calls[place]? = some c →
    c.Probes p network u.world.now (u.world.HasDialled p.target place)
  /-- A call that has not been made has not dialled. -/
  unmade : ∀ place, u.calls.length ≤ place → ¬u.world.HasDialled p.target place

/-- The loops of recurring jobs do not dial. -/
lemma hasDialled_pollLoop {number : Nat} {fires : Bool} {l : JobLoop} {target : String} :
    (u.pollLoop number fires l).world.HasDialled target place ↔
      u.world.HasDialled target place := by
  rw [pollLoop, World.pollLoop, World.hasDialled_emitAll]
  exact or_iff_right fun hmem => by simp at hmem

namespace Probing

/-- A probe that has not been used has not been called. -/
lemma start (p : Probe) (network : Network) (wallClock : Nat → Timestamp) :
    Probing p network (.start (p.component network) wallClock) := by
  refine ⟨nofun, fun place _ hdialled => ?_⟩
  rcases World.hasDialled_emitAll.mp hdialled with hmem | ⟨x, hx, -⟩
  · simp [World.registrationEvents] at hmem
  · cases hx

/-- **One step of a probe in use leaves its calls as they may stand.** -/
theorem step (h : Probing p network u) {label : Label}
    (hu : Step (p.component network) u label u') : Probing p network u' := by
  cases hu with
  | call operation =>
      have hlength : (u.call (p.component network) operation).calls.length
          = u.calls.length + 1 := List.length_append
      refine ⟨fun {i c} hc => ?_, fun i hi => h.unmade i (by omega)⟩
      by_cases hi : i < u.calls.length
      · rw [call, List.getElem?_append_left hi] at hc
        exact h.calls hc
      · rcases calls_call hc with hold | rfl
        · exact h.calls hold
        · exact .unbegun (h.unmade i (Nat.le_of_not_lt hi)) (.inl rfl)
  | cancel i =>
      refine ⟨fun hc => ?_, fun j hj => h.unmade j (by simpa [Usage.cancel] using hj)⟩
      rcases calls_cancel hc with hold | ⟨c, hold, rfl⟩
      · exact h.calls hold
      · exact (h.calls hold).cancel
  | @poll i c hc hr =>
      obtain ⟨hpolled, hothers⟩ := (h.calls hc).poll hr
      have hnow := now_pollCall (u := u) i c
      refine ⟨fun {j c'} hc' => ?_, fun j hj => ?_⟩
      · rw [hnow]
        by_cases hi : i = j
        · subst hi
          rw [getElem?_pollCall_self hc] at hc'
          exact Option.some.inj hc' ▸ hpolled
        · rw [getElem?_pollCall_ne hi] at hc'
          exact (h.calls hc').congr (hothers j (Ne.symm hi))
      · rw [calls_pollCall, List.length_set] at hj
        have hi := (List.getElem?_eq_some_iff.mp hc).1
        rw [hothers j (by omega)]
        exact h.unmade j hj
  | @loop number l fires hl hr =>
      have hnow : (u.pollLoop number fires l).world.now = u.world.now :=
        (u.world.pollLoop_ripples 0 number fires).now_eq
      refine ⟨fun hc => ?_, fun j hj => ?_⟩
      · rw [hnow]
        exact (h.calls hc).congr hasDialled_pollLoop
      · rw [hasDialled_pollLoop]
        exact h.unmade j hj
  | @pass span hr =>
      obtain ⟨hquiet, hwakes, -⟩ := rests_iff.mp hr
      have hready := (isQuiet_iff.mp hquiet).1
      refine ⟨fun {i c} hc => ?_, h.unmade⟩
      have hmem := List.mem_of_getElem? hc
      exact (h.calls hc).pass (hready c hmem) (hwakes c hmem)

end Probing

/-! ### Three instants -/

namespace Call

/-- The instant at which the answer is there, if it ever is. -/
def answeredAt (answer : Answer) (c : Call) : ℕ∞ :=
  match answer.after? with
  | some after => ((c.made + after.millis : ℕ) : ℕ∞)
  | none => ⊤

/-- The instant at which the timeout is over. -/
def lateAt (p : Probe) (c : Call) : ℕ∞ := ((c.made + p.connectTimeout.millis : ℕ) : ℕ∞)

/-- The instant at which the token has been cancelled, if it has. -/
def cancelledAt (c : Call) : ℕ∞ :=
  match c.cancelled with
  | some instant => (instant : ℕ∞)
  | none => ⊤

/-- The dial fails before the timeout is over and the token is cancelled. -/
def FailsFirst (p : Probe) (answer : Answer) (c : Call) : Prop :=
  (∃ after cause, answer = .fails after cause) ∧ c.answeredAt answer < c.lateAt p ∧
    c.answeredAt answer < c.cancelledAt

/-- The timeout is over before the answer is there and the token is cancelled. -/
def LateFirst (p : Probe) (answer : Answer) (c : Call) : Prop :=
  c.lateAt p < c.answeredAt answer ∧ c.lateAt p < c.cancelledAt

/-- No two of the three happen at one instant. -/
def Apart (p : Probe) (answer : Answer) (c : Call) : Prop :=
  c.answeredAt answer ≠ c.lateAt p ∧ c.lateAt p ≠ c.cancelledAt ∧
    (c.answeredAt answer = c.cancelledAt → c.cancelledAt = ⊤)

variable {answer : Answer}

section After

variable {after : Duration} (hafter : answer.after? = some after)

include hafter

lemma answeredAt_lt_lateAt_iff :
    c.answeredAt answer < c.lateAt p ↔ after.millis < p.connectTimeout.millis := by
  simp [answeredAt, lateAt, hafter]

lemma lateAt_lt_answeredAt_iff :
    c.lateAt p < c.answeredAt answer ↔ p.connectTimeout.millis < after.millis := by
  simp [answeredAt, lateAt, hafter]

end After

/-- The wait is over when the answer is there or the timeout is over. -/
lemma coe_limit (p : Probe) (answer : Answer) (c : Call) :
    ((c.made + (p.limit answer).millis : ℕ) : ℕ∞) = min (c.answeredAt answer) (c.lateAt p) := by
  rw [answeredAt, lateAt, Probe.limit]
  cases answer.after? with
  | none => simp
  | some after =>
      dsimp only
      split
      · rw [min_eq_left (Nat.cast_le.mpr (by omega))]
      · rw [min_eq_right (Nat.cast_le.mpr (by omega))]

lemma add_limit_of_fails {after : Duration} {cause : String}
    (h : c.answeredAt (.fails after cause) < c.lateAt p) :
    c.made + (p.limit (.fails after cause)).millis = c.made + after.millis :=
  Nat.cast_inj.mp ((coe_limit p _ c).trans (min_eq_left h.le))

lemma add_limit_of_late (h : c.lateAt p < c.answeredAt answer) :
    c.made + (p.limit answer).millis = c.made + p.connectTimeout.millis :=
  Nat.cast_inj.mp ((coe_limit p answer c).trans (min_eq_right h.le))

lemma fault?_of_fails {after : Duration} {cause : String}
    (h : c.answeredAt (.fails after cause) < c.lateAt p) :
    p.fault? (.fails after cause) = some (p.dialFailure cause) :=
  if_pos ((answeredAt_lt_lateAt_iff rfl).mp h).le

lemma fault?_of_accepts {after : Duration} (h : c.answeredAt (.accepts after) < c.lateAt p) :
    p.fault? (.accepts after) = none :=
  if_pos ((answeredAt_lt_lateAt_iff rfl).mp h).le

lemma fault?_of_late (h : c.lateAt p < c.answeredAt answer) :
    p.fault? answer = some (p.dialFailure p.timeoutCause) := by
  cases answer with
  | silent => rfl
  | accepts after => exact if_neg (Nat.not_le_of_lt ((lateAt_lt_answeredAt_iff rfl).mp h))
  | fails after cause => exact if_neg (Nat.not_le_of_lt ((lateAt_lt_answeredAt_iff rfl).mp h))

lemma lt_of_lt_cancelledAt {time instant : Nat} (h : (time : ℕ∞) < c.cancelledAt)
    (hcancelled : c.cancelled = some instant) : time < instant := by
  rw [cancelledAt, hcancelled] at h
  exact Nat.cast_lt.mp h

lemma lt_of_cancelledAt_lt {time instant : Nat} (h : c.cancelledAt < (time : ℕ∞))
    (hcancelled : c.cancelled = some instant) : instant < time := by
  rw [cancelledAt, hcancelled] at h
  exact Nat.cast_lt.mp h

/-- When neither the dial nor the timeout fails a call first, it is cancelled before its wait is
over or has nothing else to wait for. -/
lemma cancelled_or_connected (hapart : c.Apart p answer) (hfails : ¬c.FailsFirst p answer)
    (hlate : ¬c.LateFirst p answer) :
    c.cancelledAt < ((c.made + (p.limit answer).millis : ℕ) : ℕ∞) ∨ p.fault? answer = none := by
  obtain ⟨hne, hne_late, hne_answered⟩ := hapart
  rw [coe_limit]
  rcases lt_or_gt_of_ne hne with hlt | hgt
  · rw [min_eq_left (le_of_lt hlt)]
    cases answer with
    | silent => exact absurd hlt not_top_lt
    | accepts after => exact .inr (fault?_of_accepts hlt)
    | fails after cause =>
        refine .inl (lt_of_not_ge fun hle => hfails ⟨⟨after, cause, rfl⟩, hlt, ?_⟩)
        refine lt_of_le_of_ne hle fun heq => ne_top_of_lt hlt ?_
        rw [heq, hne_answered heq]
  · rw [min_eq_right (le_of_lt hgt)]
    exact .inl (lt_of_not_ge fun hle => hlate ⟨hgt, lt_of_le_of_ne hle hne_late⟩)

end Call

/-- A call returns in one way, at one instant. -/
structure Gives (u : Usage) (c : Call) (ret : Return) : Prop where
  /-- It returns in no other way, and not before. -/
  only : ∀ ret', c.returned = some ret' → ret' = ret ∧ ret.time ≤ u.world.now
  /-- It returns at that instant. -/
  returns : ret.time < u.world.now ∨ ret.time = u.world.now ∧ u.isQuiet = true →
    c.returned = some ret

namespace Gives

variable {ret : Return}

/-- A call that has not returned is not late if it can go on when its instant comes. -/
lemma of_ready (hc : c ∈ u.calls) (hnone : c.returned = none) (hle : u.world.now ≤ ret.time)
    (hready : u.world.now = ret.time → u.callReady c = true) : u.Gives c ret := by
  refine ⟨fun ret' hret => ?_, fun hpast => ?_⟩
  · rw [hnone] at hret
    cases hret
  · rcases hpast with hlt | ⟨heq, hquiet⟩
    · exact absurd hle (Nat.not_le_of_lt hlt)
    · have hstill := (isQuiet_iff.mp hquiet).1 c hc
      rw [hready heq.symm] at hstill
      cases hstill

lemma of_returned (hret : c.returned = some ret) (htime : ret.time ≤ u.world.now) :
    u.Gives c ret :=
  ⟨fun _ hret' => ⟨Option.some.inj (hret'.symm.trans hret), htime⟩, fun _ => hret⟩

end Gives

namespace Call.Probes

section Returns

variable {dialled : Prop} (h : c.Probes p network u.world.now dialled) (hc : c ∈ u.calls)
  (hop : c.operation = .run)

include h hop

include hc in
/-- A call that is not cancelled before its wait is over fails if something is wrong then. -/
lemma gives_failed {failure : Failure}
    (hfault : p.fault? (network.dial p.target) = some failure)
    (hcancelled : ∀ instant, c.cancelled = some instant →
      c.made + (p.limit (network.dial p.target)).millis < instant) :
    u.Gives c ⟨c.made + (p.limit (network.dial p.target)).millis, .failed failure⟩ := by
  cases h with
  | unbegun hdialled hcancelled' => exact Gives.of_ready hc rfl (Nat.le_add_right _ _) fun _ => rfl
  | spared hdialled hmade =>
      exact absurd (hcancelled _ rfl) (Nat.not_lt_of_le (Nat.le_add_right _ _))
  | waiting hdialled hmade hnow hcancelled' =>
      exact Gives.of_ready hc rfl hnow fun heq =>
        Bool.or_eq_true_iff.mpr (.inr (decide_eq_true (Nat.le_of_eq heq.symm)))
  | connected hdialled hmade hfault' hcancelled' =>
      rw [hfault'] at hfault
      cases hfault
  | finished hdialled hmade htime hwait =>
      rcases hwait with hfault' | hle
      · rw [hfault'] at hfault
        cases hfault
      · exact absurd hle (Nat.not_le_of_lt (hcancelled _ rfl))
  | failed hdialled hlimit htime hfault' hcancelled' =>
      obtain rfl := Option.some.inj (hfault'.symm.trans hfault)
      exact Gives.of_returned (hlimit ▸ rfl) (hlimit ▸ htime)
  | tornDown => cases hop

include hc in
/-- A call that is cancelled before it has dialled or before its wait is over returns then, and so
does one that has nothing else to wait for. -/
lemma gives_finished {instant : Nat} (hcancelled : c.cancelled = some instant)
    (hwait : ¬dialled ∨ p.fault? (network.dial p.target) = none ∨
      instant < c.made + (p.limit (network.dial p.target)).millis) :
    u.Gives c ⟨instant, .finished⟩ := by
  have hnow : ∀ {cancelled : Option Nat}, cancelled = none ∨ cancelled = some u.world.now →
      cancelled = some instant → u.world.now = instant := by
    rintro _ (rfl | rfl) hsome
    · cases hsome
    · exact Option.some.inj hsome
  cases h with
  | unbegun hdialled hcancelled' =>
      exact Gives.of_ready hc rfl (Nat.le_of_eq (hnow hcancelled' hcancelled)) fun _ => rfl
  | spared hdialled hmade =>
      obtain rfl := Option.some.inj hcancelled
      exact Gives.of_returned rfl hmade
  | waiting hdialled hmade hnow' hcancelled' =>
      obtain rfl := hcancelled
      exact Gives.of_ready hc rfl (Nat.le_of_eq (hnow hcancelled' rfl)) fun _ => rfl
  | connected hdialled hmade hfault hcancelled' =>
      obtain rfl := hcancelled
      exact Gives.of_ready hc rfl (Nat.le_of_eq (hnow hcancelled' rfl)) fun _ => rfl
  | finished hdialled hmade htime hwait' =>
      obtain rfl := Option.some.inj hcancelled
      exact Gives.of_returned rfl htime
  | failed hdialled hlimit htime hfault hcancelled' =>
      rcases hwait with hnot | hnone | hlt
      · exact absurd hdialled hnot
      · rw [hnone] at hfault
        cases hfault
      · exact absurd (hcancelled' instant hcancelled) (Nat.not_le_of_lt (hlimit ▸ hlt))
  | tornDown => cases hop

include hc in
/-- A call whose dial fails first fails with the cause. -/
lemma gives_cause {after : Duration} {cause : String}
    (hanswer : network.dial p.target = .fails after cause)
    (hfirst : c.FailsFirst p (network.dial p.target)) :
    u.Gives c ⟨c.made + after.millis, .failed (p.dialFailure cause)⟩ := by
  obtain ⟨-, hlt, hfirst⟩ := hfirst
  rw [hanswer] at hlt hfirst
  have hlimit := add_limit_of_fails hlt
  have hfault := fault?_of_fails hlt
  rw [← hanswer] at hlimit hfault
  rw [← hlimit]
  refine h.gives_failed hc hop hfault fun instant hcancelled => ?_
  rw [hlimit]
  exact lt_of_lt_cancelledAt hfirst hcancelled

include hc in
/-- A call whose timeout is over first fails with that. -/
lemma gives_timeout (hfirst : c.LateFirst p (network.dial p.target)) :
    u.Gives c ⟨c.made + p.connectTimeout.millis, .failed (p.dialFailure p.timeoutCause)⟩ := by
  obtain ⟨hlt, hfirst⟩ := hfirst
  rw [← add_limit_of_late hlt]
  refine h.gives_failed hc hop (fault?_of_late hlt) fun instant hcancelled => ?_
  rw [add_limit_of_late hlt]
  exact lt_of_lt_cancelledAt hfirst hcancelled

/-- A call that has nothing but its cancellation to wait for waits. -/
lemma returned_eq_none (hcancelled : c.cancelled = none)
    (hfault : p.fault? (network.dial p.target) = none) : c.returned = none := by
  cases h with
  | unbegun | waiting | connected => rfl
  | spared | finished => cases hcancelled
  | failed hdialled hlimit htime hfault' =>
      rw [hfault] at hfault'
      cases hfault'
  | tornDown => cases hop

/-- A call that is cancelled before its wait is over does not fail, and neither does one that has
nothing else to wait for. -/
lemma ending_eq_finished
    (hwait : c.cancelledAt < ((c.made + (p.limit (network.dial p.target)).millis : ℕ) : ℕ∞) ∨
      p.fault? (network.dial p.target) = none) {ret : Return} (hret : c.returned = some ret) :
    ret.ending = .finished := by
  cases h with
  | unbegun | waiting | connected => cases hret
  | spared | finished =>
      cases hret
      rfl
  | @failed made time cancelled failure hdialled hlimit htime hfault hcancelled =>
      rcases hwait with hfirst | hnone
      · cases cancelled with
        | none => exact absurd hfirst not_top_lt
        | some instant =>
            have hlt := Call.lt_of_cancelledAt_lt hfirst rfl
            exact absurd (hcancelled instant rfl) (Nat.not_le_of_lt (hlimit ▸ hlt))
      · rw [hnone] at hfault
        cases hfault
  | tornDown => cases hop

/-- Only a cancellation makes a call return well. -/
lemma cancelled_of_finished {time : Nat} (hret : c.returned = some ⟨time, .finished⟩) :
    c.cancelled = some time := by
  cases h with
  | unbegun | waiting | connected | failed => cases hret
  | spared | finished =>
      cases hret
      rfl
  | tornDown => cases hop

/-- A call that has begun without a dial had been cancelled. -/
lemma spared_of_not_dialled (hbegun : c.task.isUnbegun = false) (hdialled : ¬dialled) :
    c.cancelled = some c.made ∧ c.returned = some ⟨c.made, .finished⟩ := by
  cases h with
  | unbegun => cases hbegun
  | spared => exact ⟨rfl, rfl⟩
  | waiting hdialled' | connected hdialled' | finished hdialled' | failed hdialled' =>
      exact absurd hdialled' hdialled
  | tornDown => cases hop

/-- A call that is cancelled before it begins does not dial. -/
lemma hasDialled_pollCall (hr : u.callReady c = true) (hcancelled : c.cancelled = some c.made)
    (hdialled : ¬dialled) :
    (u.pollCall place c).world.HasDialled p.target place ↔ u.world.HasDialled p.target place := by
  cases h with
  | @unbegun operation cancelled hdialled' hcancelled' =>
      obtain rfl : operation = .run := hop
      obtain rfl : cancelled = some u.world.now := hcancelled
      exact (Probe.poll_entry_of_cancelled p (network.dial p.target) (.entry place)
        (w := { u.world with cancelled := true }) rfl).2 place
  | spared | finished | failed | tornDown => cases hr
  | waiting hdialled' | connected hdialled' => exact absurd hdialled' hdialled

end Returns

/-- A call that has not begun and is cancelled was cancelled when it was made. -/
lemma cancelled_of_isUnbegun {now : Nat} {dialled : Prop} (h : c.Probes p network now dialled)
    (hunbegun : c.task.isUnbegun = true) (hsome : c.cancelled ≠ none) :
    c.cancelled = some c.made ∧ ¬dialled := by
  cases h with
  | unbegun hdialled hcancelled => exact ⟨hcancelled.resolve_left hsome, hdialled⟩
  | spared | waiting | connected | finished | failed | tornDown => cases hunbegun

end Call.Probes

/-! ### A call that is cancelled before it begins -/

/-- A call of the entry routine has been cancelled at the instant at which it was made, and has not
dialled. -/
def Spares (p : Probe) (u : Usage) (place made : Nat) : Prop :=
  ∃ c, u.calls[place]? = some c ∧ c.operation = .run ∧ c.made = made ∧ c.cancelled = some made ∧
    ¬u.world.HasDialled p.target place

/-- **It never dials**, whatever is done with the probe. -/
lemma Spares.step {label : Label} {made : Nat} (h : Spares p u place made)
    (hprobing : Probing p network u) (hu : Step (p.component network) u label u') :
    Spares p u' place made := by
  obtain ⟨c, hc, hop, hmade, hcancelled, hdialled⟩ := h
  cases hu with
  | call operation => exact ⟨c, getElem?_calls_call hc, hop, hmade, hcancelled, hdialled⟩
  | cancel i =>
      rcases getElem?_calls_cancel i hc with hcall | hcall
      · exact ⟨c, hcall, hop, hmade, hcancelled, hdialled⟩
      · refine ⟨_, hcall, hop, hmade, ?_, hdialled⟩
        rw [Call.cancel, hcancelled]
        rfl
  | @poll i c' hc' hr =>
      -- the call itself meets its cancellation first, and no other call leaves a mark in its place
      by_cases hi : i = place
      · subst hi
        obtain rfl := Option.some.inj (hc.symm.trans hc')
        refine ⟨_, getElem?_pollCall_self hc, hop, hmade, hcancelled, ?_⟩
        rwa [(hprobing.calls hc).hasDialled_pollCall hop hr (hmade ▸ hcancelled) hdialled]
      · refine ⟨c, ?_, hop, hmade, hcancelled, ?_⟩
        · rw [getElem?_pollCall_ne hi, hc]
        · rwa [((hprobing.calls hc').poll hr).2 place (Ne.symm hi)]
  | loop fires hl hr =>
      exact ⟨c, hc, hop, hmade, hcancelled, fun h => hdialled (hasDialled_pollLoop.mp h)⟩
  | pass hr => exact ⟨c, hc, hop, hmade, hcancelled, hdialled⟩

/-! ### The account -/

/-- What a call of the entry routine of a probe does, by what happens first. -/
structure DialAccount (p : Probe) (network : Network) (answer : Answer) (u : Usage) (place : Nat)
    (c : Call) : Prop where
  /-- Cancelled before it begins, it returns at once and never dials. -/
  spared : c.task.isUnbegun = true → c.cancelled ≠ none → ∀ labels u',
    u.steps? (p.component network) labels = some u' → ∃ c', u'.calls[place]? = some c' ∧
      ¬u'.world.HasDialled p.target place ∧ u'.Gives c' ⟨c.made, .finished⟩
  /-- Otherwise it dials as soon as it begins. -/
  dials : c.task.isUnbegun = false → ¬u.world.HasDialled p.target place →
    c.cancelled = some c.made ∧ c.returned = some ⟨c.made, .finished⟩
  /-- It fails with the cause when the dial fails, if that is first. -/
  fails : ∀ after cause, answer = .fails after cause → c.FailsFirst p answer →
    u.Gives c ⟨c.made + after.millis,
      .failed { root := "dial " ++ p.target ++ ": " ++ cause }⟩
  /-- It fails when the timeout is over, if that is first. -/
  times_out : c.LateFirst p answer →
    u.Gives c ⟨c.made + p.connectTimeout.millis,
      .failed { root := "dial " ++ p.target ++ ": "
        ++ ("timed out after " ++ toString p.connectTimeout.millis ++ "ms") }⟩
  /-- In all other cases it returns well when it is cancelled, and not before. -/
  otherwise : c.Apart p answer → ¬c.FailsFirst p answer → ¬c.LateFirst p answer →
    (∀ instant, c.cancelled = some instant → u.Gives c ⟨instant, .finished⟩) ∧
      (c.cancelled = none → c.returned = none)
  /-- Only a cancellation makes it return well. -/
  cancelled : ∀ time, c.returned = some ⟨time, .finished⟩ → c.cancelled = some time
  /-- Once a cancellation has come first no failure is reported. -/
  hidden : c.cancelledAt < c.answeredAt answer → c.cancelledAt < c.lateAt p →
    ∀ ret, c.returned = some ret → ret.ending = .finished
  /-- A connection that is made in time is never a failure. -/
  connected : ∀ after, answer = .accepts after → c.answeredAt answer < c.lateAt p →
    ∀ ret, c.returned = some ret → ret.ending = .finished

variable {wallClock : Nat → Timestamp} {labels : List Label}

/-- All calls of a probe stand so, whatever is done with it. -/
theorem probing_of_steps
    (hu : (start (p.component network) wallClock).steps? (p.component network) labels = some u) :
    Probing p network u :=
  steps_induction (fun h hstep => h.step hstep) (.start p network wallClock) hu

/-- **A call of a probe returns by what comes first**: the end of its dial, the end of its timeout
or its cancellation. -/
theorem first_decides (p : Probe) (network : Network) (wallClock : Nat → Timestamp)
    (labels : List Label) {u : Usage}
    (hu : (start (p.component network) wallClock).steps? (p.component network) labels = some u)
    {place : Nat} {c : Call} (hc : u.calls[place]? = some c) (hop : c.operation = .run) :
    DialAccount p network (network.dial p.target) u place c ∧
      ∀ span, ∃ u', GoesTo (p.component network) u u' ∧ u'.world.now = u.world.now + span ∧
        u'.isQuiet = true := by
  have hprobing := probing_of_steps hu
  have h := hprobing.calls hc
  have hmem := List.mem_of_getElem? hc
  refine ⟨⟨fun hunbegun hsome labels' u' hu' => ?_, h.spared_of_not_dialled hop,
    fun after cause hanswer hfirst => ?_, fun hfirst => ?_,
    fun hapart hfails hlate => ?_, fun time => h.cancelled_of_finished hop,
    fun hanswered hlate ret hret => ?_, fun after hanswer hlt ret hret => ?_⟩,
    fun span => goes_on (p.component network) u span⟩
  · obtain ⟨hcancelled, hdialled⟩ := h.cancelled_of_isUnbegun hunbegun hsome
    -- what spares the call is preserved only beside the invariant of all calls
    have hboth : Probing p network u' ∧ Spares p u' place c.made :=
      steps_induction (P := fun u => Probing p network u ∧ Spares p u place c.made)
        (fun h hstep => ⟨h.1.step hstep, h.2.step h.1 hstep⟩)
        ⟨hprobing, c, hc, hop, rfl, hcancelled, hdialled⟩ hu'
    obtain ⟨hprobing', c', hc', hop', hmade, hcancelled', hdialled'⟩ := hboth
    exact ⟨c', hc', hdialled', (hprobing'.calls hc').gives_finished (List.mem_of_getElem? hc')
      hop' hcancelled' (.inl hdialled')⟩
  · exact h.gives_cause hmem hop hanswer hfirst
  · exact h.gives_timeout hmem hop hfirst
  · rcases Call.cancelled_or_connected hapart hfails hlate with hfirst | hfault
    · refine ⟨fun instant hcancelled => h.gives_finished hmem hop hcancelled
        (.inr (.inr (Call.lt_of_cancelledAt_lt hfirst hcancelled))), fun hnone => ?_⟩
      rw [Call.cancelledAt, hnone] at hfirst
      exact absurd hfirst not_top_lt
    · exact ⟨fun instant hcancelled => h.gives_finished hmem hop hcancelled (.inr (.inl hfault)),
        fun hnone => h.returned_eq_none hop hnone hfault⟩
  · refine h.ending_eq_finished hop (.inl ?_) hret
    rw [Call.coe_limit]
    exact lt_min hanswered hlate
  · rw [hanswer] at hlt
    exact h.ending_eq_finished hop (.inr (hanswer ▸ Call.fault?_of_accepts hlt)) hret

/-! ### An example -/

/-- A probe of a database. -/
def database : Probe := ⟨"db", "10.0.0.7:5432", ⟨500⟩⟩

/-- A network that refuses a connection after a while. -/
def refusing : Network := { Network.isolated with
  connect := fun _ => .fails ⟨300⟩ (SystemError.message ⟨111⟩) }

/-- Three calls of the probe.  The first is cancelled before it begins, the second while it waits
for an answer, and the third not at all. -/
def threeCalls : List Label :=
  [.call .run, .call .run, .call .run, .cancel 0, .poll 0, .poll 1, .poll 2, .pass 100, .cancel 1,
    .poll 1, .pass 200, .poll 2]

/-- The first returns without a dial, the second when it is cancelled, and the third fails when it
is refused. -/
theorem account_of_database : ∃ u first second third,
    (start (database.component refusing) fun _ => 0).steps? (database.component refusing)
      threeCalls = some u ∧
    u.calls[0]? = some first ∧ first.returned = some ⟨0, .finished⟩ ∧
    u.calls[1]? = some second ∧ second.returned = some ⟨100, .finished⟩ ∧
    u.calls[2]? = some third ∧ third.returned = some ⟨300, .failed
      { root := "dial 10.0.0.7:5432: Connection refused (os error 111)" }⟩ ∧
    ¬u.world.HasDialled database.target 0 ∧ u.world.HasDialled database.target 1 ∧
    DialAccount database refusing (refusing.dial database.target) u 0 first ∧
    DialAccount database refusing (refusing.dial database.target) u 1 second ∧
    (DialAccount database refusing (refusing.dial database.target) u 2 third ∧
      ∀ span, ∃ u', GoesTo (database.component refusing) u u' ∧
        u'.world.now = u.world.now + span ∧ u'.isQuiet = true) :=
  ⟨_, _, _, _, rfl, rfl, rfl, rfl, rfl, rfl, rfl, by decide, by decide,
    (first_decides database refusing (fun _ => 0) threeCalls rfl rfl rfl).1,
    (first_decides database refusing (fun _ => 0) threeCalls rfl rfl rfl).1,
    first_decides database refusing (fun _ => 0) threeCalls rfl rfl rfl⟩

end Usage

end ServiceSupervisor
