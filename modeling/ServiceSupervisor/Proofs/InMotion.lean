import ServiceSupervisor.Proofs.Polls
import ServiceSupervisor.Proofs.Termination

/-!
Time goes on for a component in use.

At every instant only so much can go on: a call that is polled has less left to do, and a loop that
is polled has to wait.  Then nothing is ready, and what waits for an instant waits for a later one;
so the clock can move.

* `Usage.steps_induction`: what every step preserves holds after any number of steps;
* `Usage.GoesTo`: the tasks and the clock get there by themselves;
* `Usage.settles`: they get to a moment at which nothing can go on;
* `Usage.goes_on`: from every state they get past every instant, whatever the component does.
-/

namespace ServiceSupervisor

namespace Usage

variable {component : Component} {u u' u'' : Usage} {place : Nat} {c : Call}

/-! ### Runs -/

/-- What every step preserves holds after any number of steps. -/
lemma steps_induction {P : Usage → Prop}
    (hstep : ∀ {u label u'}, P u → Step component u label u' → P u') {labels : List Label}
    (h : P u) (hu : u.steps? component labels = some u') : P u' := by
  induction labels generalizing u with
  | nil =>
      obtain rfl := Option.some.inj hu
      exact h
  | cons label labels ih =>
      obtain ⟨next, hnext, hu⟩ := Option.bind_eq_some_iff.mp hu
      exact ih (hstep h (step?_eq_some_iff.mp hnext)) hu

/-- The tasks and the clock can take steps by themselves that lead there. -/
def GoesTo (component : Component) (u u' : Usage) : Prop :=
  ∃ labels : List Label, (∀ label ∈ labels, label.isOwn = true) ∧
    u.steps? component labels = some u'

namespace GoesTo

lemma refl (component : Component) (u : Usage) : GoesTo component u u := ⟨[], nofun, rfl⟩

lemma head {label : Label} (hown : label.isOwn = true) (hstep : Step component u label u')
    (h : GoesTo component u' u'') : GoesTo component u u'' := by
  obtain ⟨labels, howns, hu⟩ := h
  refine ⟨label :: labels, fun x hx => ?_, ?_⟩
  · rcases List.mem_cons.mp hx with rfl | hx
    · exact hown
    · exact howns x hx
  · rw [steps?, step?_eq_some_iff.mpr hstep]
    exact hu

lemma trans (h : GoesTo component u u') (h' : GoesTo component u' u'') :
    GoesTo component u u'' := by
  obtain ⟨labels, howns, hu⟩ := h
  induction labels generalizing u with
  | nil =>
      obtain rfl := Option.some.inj hu
      exact h'
  | cons label labels ih =>
      obtain ⟨next, hnext, hu⟩ := Option.bind_eq_some_iff.mp hu
      exact .head (howns label List.mem_cons_self) (step?_eq_some_iff.mp hnext)
        (ih (fun x hx => howns x (List.mem_cons_of_mem label hx)) hu)

end GoesTo

/-! ### What is left to do at an instant -/

/-- What is left for all calls to do. -/
def effort (u : Usage) : Nat := (u.calls.map (·.task.remaining)).sum

lemma effort_pollCall_lt (hc : u.calls[place]? = some c) (hr : u.callReady c = true) :
    (u.pollCall place c).effort < u.effort :=
  sum_map_set_lt (f := fun c : Call => c.task.remaining) hc
    (Task.remaining_poll_lt (c.operation.actor place) hr)

variable (place) (c) in
lemma now_pollCall : (u.pollCall place c).world.now = u.world.now :=
  (c.task.poll_spec (c.operation.actor place) 0 (u.under c)).2.now_eq

/-- A component that has loops has a scheduler for them. -/
lemma getElem?_schedulers {number : Nat} {l : JobLoop}
    (hl : u.scheduler.loops[number]? = some l) : u.world.schedulers[0]? = some u.scheduler := by
  rw [scheduler, World.scheduler] at hl ⊢
  cases hs : u.world.schedulers[0]? with
  | none =>
      rw [hs] at hl
      cases hl
  | some s => rfl

/-- Everything that can go on at an instant does, until nothing can.  A poll of a call leaves the
calls less to do, and a poll of a loop makes one loop fewer ready. -/
lemma settles (component : Component) (u : Usage) :
    ∃ u', GoesTo component u u' ∧ u'.world.now = u.world.now ∧ u'.isQuiet = true := by
  by_cases hcalls : ∃ (place : Nat) (c : Call), u.calls[place]? = some c ∧ u.callReady c = true
  · obtain ⟨place, c, hc, hr⟩ := hcalls
    have hlt := effort_pollCall_lt hc hr
    obtain ⟨u', hgoes, hnow, hquiet⟩ := settles component (u.pollCall place c)
    exact ⟨u', .head rfl (.poll hc hr) hgoes, hnow.trans (now_pollCall place c), hquiet⟩
  · by_cases hloops : ∃ (number : Nat) (l : JobLoop), u.scheduler.loops[number]? = some l ∧
        u.scheduler.loopReady u.world.now l = true
    · obtain ⟨number, l, hl, hr⟩ := hloops
      have hlt : (u.pollLoop number true l).world.busyLoops < u.world.busyLoops :=
        World.busyLoops_pollLoop_lt (getElem?_schedulers hl) hl hr true
      have heffort : (u.pollLoop number true l).effort = u.effort := rfl
      obtain ⟨u', hgoes, hnow, hquiet⟩ := settles component (u.pollLoop number true l)
      refine ⟨u', .head rfl (.loop true hl hr) hgoes, hnow.trans ?_, hquiet⟩
      exact (u.world.pollLoop_ripples 0 number true).now_eq
    · refine ⟨u, .refl component u, rfl, isQuiet_iff.mpr ⟨fun c hc => ?_, fun l hl => ?_⟩⟩
      · obtain ⟨place, hc⟩ := List.mem_iff_getElem?.mp hc
        exact Bool.eq_false_iff.mpr fun hr => hcalls ⟨place, c, hc, hr⟩
      · obtain ⟨number, hl⟩ := List.mem_iff_getElem?.mp hl
        exact Bool.eq_false_iff.mpr fun hr => hloops ⟨number, l, hl, hr⟩
termination_by (u.effort, u.world.busyLoops)
decreasing_by
  · exact Prod.Lex.left _ _ hlt
  · rw [heffort]
    exact Prod.Lex.right _ hlt

/-! ### Time -/

/-- At a quiet moment the clock can move. -/
lemma rests_one (hq : u.isQuiet = true) : u.rests 1 = true := by
  obtain ⟨hcalls, hloops⟩ := isQuiet_iff.mp hq
  have hcall : ∀ c ∈ u.calls, ∀ wake, c.task.wake = some wake → (u.under c).now < wake :=
    fun c hc wake hwake => Task.now_lt_wake (hcalls c hc) hwake
  exact rests_iff.mpr ⟨hq, hcall, fun l hl wake hwake =>
    Scheduler.now_lt_loopWake (hloops l hl) hwake⟩

/-- **From every state time goes on**, by steps that the tasks and the clock take by themselves. -/
theorem goes_on (component : Component) (u : Usage) (span : Nat) :
    ∃ u', GoesTo component u u' ∧ u'.world.now = u.world.now + span ∧ u'.isQuiet = true := by
  induction span with
  | zero => exact settles component u
  | succ span ih =>
      obtain ⟨rested, hgoes, hnow, hquiet⟩ := ih
      obtain ⟨u', hmore, hnow', hquiet'⟩ := settles component (rested.pass 1)
      refine ⟨u', hgoes.trans (.head rfl (.pass (rests_one hquiet)) hmore), ?_, hquiet'⟩
      rw [hnow', pass, hnow, Nat.add_assoc]

end Usage

end ServiceSupervisor
