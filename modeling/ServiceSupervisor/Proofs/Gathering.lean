import ServiceSupervisor.Proofs.Moves

/-!
One poll of the supervisor up to the end of the drain, and from there on.

Before the teardown a poll does two things.  The supervisor launches, takes exits, notices what
calls for the shutdown and goes on taking exits; and when no entry routine is left it reports the
failures and begins the teardown.

* `Run.gather`, `Run.conclude`: the two parts (`Run.supervise_eq`);
* `Run.gather_moves`, `Run.conclude_moves`: each as a sequence of moves;
* `Run.DrainOver`: the drain is over, and the second part tears down; until then it does nothing
  (`Run.supervise_cases`).
-/

namespace ServiceSupervisor

namespace Run

/-! ### The two parts of a poll -/

/-- The draining supervisor takes the exits there are. -/
def collect (r : Run) : Run :=
  match r.control with
  | .draining first drained =>
    { r with
      startup := { r.startup with exits := [] }
      control := .draining first (drained ++ r.startup.exits) }
  | _ => r

/-- The supervisor goes on waiting, or begins the drain because of what it has seen. -/
def sense (prefers : Signal) (sight : Sight) (r : Run) : Run :=
  match sight with
  | .nothing => { r with control := .waiting }
  | .failed culprit =>
    beginDrain (some culprit)
      { r with world := r.world.emit (.failureReported .beforeShutdown culprit) }
  | .triggered =>
    beginDrain none { r.observeSignal prefers with
      world := (r.observeSignal prefers).world.emit .shutdownRequested }

/-- The waiting supervisor looks at the trigger and the exits. -/
def attend (app : Application) (patience : Nat) (prefers : Signal) (r : Run) : Run :=
  let (sight, exits) := look (r.triggerDue app) patience r.startup.exits
  { r with startup := { r.startup with exits } }.sense prefers sight

/-- What a poll does up to the end of the drain. -/
def gather (app : Application) (patience : Nat) (prefers : Signal) (r : Run) : Run :=
  match r.control with
  | .idle => ((r.launch app).attend app patience prefers).collect
  | .waiting => (r.attend app patience prefers).collect
  | _ => r.collect

/-- What it does from there on. -/
def conclude (app : Application) (r : Run) : Run :=
  match r.control with
  | .draining first drained => r.drain app first drained
  | _ => r

/-- Whether the supervisor has the end of the drain before it. -/
def isGathering (r : Run) : Bool :=
  match r.control with
  | .idle | .waiting | .draining _ _ => true
  | _ => false

/-- Every entry routine has been reported, and the draining supervisor has taken every exit. -/
structure DrainOver (first : Option Culprit) (drained : List Exit) (r : Run) : Prop where
  control : r.control = .draining first drained
  exits : r.startup.exits = []
  reported : r.startup.allReported = true

variable {app : Application} {r : Run}

lemma control_of_isGathering (h : r.isGathering = true) :
    r.control = .idle ∨ r.control = .waiting ∨
      ∃ first drained, r.control = .draining first drained := by
  rw [isGathering] at h
  split at h
  · exact .inl ‹_›
  · exact .inr (.inl ‹_›)
  · exact .inr (.inr ⟨_, _, ‹_›⟩)
  · cases h

/-! ### A poll is its two parts -/

/-- To drain is to take the exits and to go on with none left. -/
lemma drain_eq {first : Option Culprit} {drained : List Exit}
    (hc : r.control = .draining first drained) :
    r.drain app first drained = r.collect.conclude app := by
  have hcollect : r.collect = { r with
      startup := { r.startup with exits := [] }
      control := .draining first (drained ++ r.startup.exits) } := by
    rw [collect, hc]
  rw [hcollect]
  show _ = drain app first (drained ++ r.startup.exits) _
  rw [drain, drain, List.append_nil]
  rfl

lemma shutDown_eq (first : Option Culprit) (r : Run) :
    r.shutDown app first = (beginDrain first r).collect.conclude app :=
  drain_eq (r := beginDrain first r) rfl

lemma react_eq (prefers : Signal) (sight : Sight) (r : Run) :
    r.react app prefers sight = (r.sense prefers sight).collect.conclude app := by
  cases sight with
  | nothing => rfl
  | failed culprit => exact shutDown_eq _ _
  | triggered => exact shutDown_eq _ _

/-- **A poll before the teardown** is what it does up to the end of the drain and what it does from
there on. -/
theorem supervise_eq (h : r.isGathering = true) (patience : Nat) (prefers : Signal) :
    r.supervise app patience prefers = (r.gather app patience prefers).conclude app := by
  rw [supervise, gather]
  rcases control_of_isGathering h with hc | hc | ⟨first, drained, hc⟩
  · simp only [hc]
    exact react_eq prefers _ _
  · simp only [hc]
    exact react_eq prefers _ _
  · simp only [hc]
    exact drain_eq hc

/-! ### Moves -/

variable (app)

lemma collect_moves (r : Run) : Moves app r r.collect := by
  rw [collect]
  split
  · exact .single (.collect ‹_›)
  · exact .refl

/-- The supervisor takes exits one by one, up to the first failure or to its look at the trigger. -/
lemma attend_moves (patience : Nat) (prefers : Signal) (r : Run) (hc : r.control = .waiting) :
    Moves app r (r.attend app patience prefers) := by
  generalize hex : r.startup.exits = exits
  induction exits generalizing r patience with
  | nil =>
      have hself : ({ r with startup := { r.startup with exits := [] } } : Run) = r := by
        rw [← hex]
      rw [attend, hex, look]
      by_cases hd : r.triggerDue app = true
      · simp only [hd, if_true, hself]
        exact .single (.trigger prefers hc hd)
      · have hwait : ({ r with
            startup := { r.startup with exits := [] }, control := .waiting } : Run) = r := by
          rw [← hex, ← hc]
        simp only [hd, if_false, sense, Bool.false_eq_true]
        rw [hwait]
  | cons exit exits ih =>
      have hself : ({ r with startup := { r.startup with exits := exit :: exits } } : Run) = r := by
        rw [← hex]
      rw [attend, hex, look]
      by_cases hd : (r.triggerDue app && patience == 0) = true
      · simp only [hd, if_true, hself]
        exact .single (.trigger prefers hc (Bool.and_eq_true _ _ ▸ hd).1)
      · cases hf : exit.culprit? with
        | some culprit =>
            simp only [hd, if_false, Bool.false_eq_true]
            exact .single (.fail hc hex hf)
        | none =>
            simp only [hd, if_false, Bool.false_eq_true]
            exact (ih (patience - 1) { r with startup := { r.startup with exits } } hc rfl).head
              (.skim hc hex hf)

/-- From there on it makes moves until it is parked. -/
lemma conclude_moves (h : r.isGathering = true) :
    Moves app r (r.conclude app) ∧ (r.conclude app).Parked := by
  rw [conclude]
  rcases control_of_isGathering h with hc | hc | ⟨first, drained, hc⟩
  · simp only [hc]
    exact ⟨.refl, by rw [Parked, hc]; trivial⟩
  · simp only [hc]
    exact ⟨.refl, by rw [Parked, hc]; trivial⟩
  · have hself : ({ r with control := .draining first drained } : Run) = r := by rw [← hc]
    obtain ⟨hmoves, hparked⟩ := drain_moves app first drained r
    simp only [hc]
    exact ⟨hself ▸ hmoves, hparked⟩

/-- What a poll does up to the end of the drain is a sequence of moves. -/
lemma gather_moves (patience : Nat) (prefers : Signal) (r : Run) :
    Moves app r (r.gather app patience prefers) := by
  rw [gather]
  split
  · exact ((attend_moves app patience prefers (r.launch app) rfl).head (.launch ‹_›)).trans
      (collect_moves app _)
  · exact (attend_moves app patience prefers r ‹_›).trans (collect_moves app _)
  · exact collect_moves app r

variable {app}

/-! ### The end of the drain -/

variable (app) in
/-- A supervisor that has taken the exits is waiting, or draining with none left. -/
lemma control_gather (h : r.isGathering = true) (patience : Nat) (prefers : Signal) :
    (r.gather app patience prefers).control = .waiting ∨ ∃ first drained,
      (r.gather app patience prefers).control = .draining first drained ∧
        (r.gather app patience prefers).startup.exits = [] := by
  have hcollect : ∀ q : Run, (q.control = .waiting ∨ ∃ first drained,
      q.control = .draining first drained) → q.collect.control = .waiting ∨ ∃ first drained,
        q.collect.control = .draining first drained ∧ q.collect.startup.exits = [] := by
    rintro q (hq | ⟨first, drained, hq⟩)
    · exact .inl (by rw [collect, hq]; exact hq)
    · exact .inr ⟨first, drained ++ q.startup.exits, by rw [collect, hq], by rw [collect, hq]⟩
  have hattend : ∀ q : Run, (q.attend app patience prefers).control = .waiting ∨
      ∃ first drained, (q.attend app patience prefers).control = .draining first drained := by
    intro q
    rw [attend]
    generalize look (q.triggerDue app) patience q.startup.exits = seen
    obtain ⟨sight, exits⟩ := seen
    cases sight with
    | nothing => exact .inl rfl
    | failed culprit => exact .inr ⟨_, _, rfl⟩
    | triggered => exact .inr ⟨_, _, rfl⟩
  rw [gather]
  rcases control_of_isGathering h with hc | hc | ⟨first, drained, hc⟩
  · simp only [hc]
    exact hcollect _ (hattend _)
  · simp only [hc]
    exact hcollect _ (hattend _)
  · simp only [hc]
    exact hcollect r (.inr ⟨first, drained, hc⟩)

variable (app) in
lemma isGathering_gather (h : r.isGathering = true) (patience : Nat) (prefers : Signal) :
    (r.gather app patience prefers).isGathering = true := by
  rw [isGathering]
  rcases control_gather app h patience prefers with hc | ⟨first, drained, hc, -⟩ <;> rw [hc]

variable (app) in
/-- **A poll before the teardown comes to the end of the drain, or all it does is gather.** -/
theorem supervise_cases (h : r.isGathering = true) (patience : Nat) (prefers : Signal) :
    (∃ first drained, DrainOver first drained (r.gather app patience prefers)) ∨
      r.supervise app patience prefers = r.gather app patience prefers ∧
        (r.supervise app patience prefers).isGathering = true := by
  rw [supervise_eq h]
  have hcontrol := control_gather app h patience prefers
  generalize r.gather app patience prefers = q at hcontrol ⊢
  rcases hcontrol with hc | ⟨first, drained, hc, hexits⟩
  · have hself : q.conclude app = q := by rw [conclude, hc]
    exact .inr ⟨hself, by rw [hself, isGathering, hc]⟩
  · by_cases hall : q.startup.allReported = true
    · exact .inl ⟨first, drained, hc, hexits, hall⟩
    · have hpending : q.startup.hasPending = true := by simp [Startup.hasPending, hall]
      have hstartup : ({ q.startup with exits := [] } : Startup) = q.startup := by rw [← hexits]
      have hself : q.conclude app = q := by
        rw [conclude, hc]
        show q.drain app first drained = q
        rw [drain, hexits, List.append_nil, hstartup, if_pos hpending, ← hc]
      exact .inr ⟨hself, by rw [hself, isGathering, hc]⟩

/-- At the end of the drain the failures are reported and the teardown begins. -/
lemma DrainOver.conclude_eq {first : Option Culprit} {drained : List Exit} {q : Run}
    (h : DrainOver first drained q) :
    q.conclude app = tearDown app (reportFailures first drained).1
      { q with
        world := q.world.emitAll (reportFailures first drained).2
        teardown := q.teardown.begin_ app.registry } := by
  have hstartup : ({ q.startup with exits := [] } : Startup) = q.startup := by rw [← h.exits]
  have hpending : q.startup.hasPending = false := by
    simp [Startup.hasPending, h.exits, h.reported]
  rw [conclude, h.control]
  show q.drain app first drained = _
  rw [drain, h.exits, List.append_nil, hstartup, if_neg (by simp [hpending])]
  rfl

variable (app) in
/-- A supervisor that tears down lets the coordinator go on, and then does so still, or has
returned. -/
lemma tearDown_spec (first : Option Culprit) (r : Run) :
    (r.tearDown app first).teardown
        = (r.teardown.proceed app.registry app.shutdownTimeout r.world).1 ∧
      (r.tearDown app first).world.now
        = (r.teardown.proceed app.registry app.shutdownTimeout r.world).2.now ∧
      ((r.tearDown app first).control = .stopping first ∨
        (r.tearDown app first).control = .returned first) := by
  rw [tearDown]
  generalize r.teardown.proceed app.registry app.shutdownTimeout r.world = after
  obtain ⟨t, w⟩ := after
  dsimp only
  split
  · obtain ⟨signals, heq⟩ := finish_eq first
      { r with teardown := t, world := w, control := .stopping first }
    rw [heq]
    exact ⟨rfl, rfl, .inr rfl⟩
  · exact ⟨rfl, rfl, .inl rfl⟩

/-- The end of the drain is behind a supervisor that tears down. -/
lemma isGathering_tearDown (first : Option Culprit) (r : Run) :
    (r.tearDown app first).isGathering = false := by
  rw [isGathering]
  obtain ⟨-, -, hc⟩ := tearDown_spec app first r
  rcases hc with hc | hc <;> rw [hc]

/-- At the end of the drain it is behind the supervisor. -/
lemma DrainOver.isGathering_conclude {first : Option Culprit} {drained : List Exit} {q : Run}
    (h : DrainOver first drained q) : (q.conclude app).isGathering = false := by
  rw [h.conclude_eq]
  exact isGathering_tearDown _ _

/-! ### Steps -/

/-- A step is a poll of the supervisor or it is not. -/
lemma Label.supervisor_or (label : Label) :
    (∃ patience prefers, label = .supervisor patience prefers) ∨
      ∀ patience prefers, label ≠ .supervisor patience prefers := by
  cases label <;> simp

/-- Only a poll of the supervisor changes what the supervisor does. -/
lemma control_of_step? {label : Label} {s : Run}
    (hl : ∀ patience prefers, label ≠ .supervisor patience prefers)
    (h : r.step? app label = some s) : s.control = r.control := by
  cases label with
  | supervisor patience prefers => exact absurd rfl (hl patience prefers)
  | deliver =>
      obtain ⟨-, h⟩ := Option.ite_none_left_eq_some.mp h
      obtain rfl := Option.some.inj h
      rfl
  | tick =>
      obtain ⟨-, h⟩ := Option.ite_none_right_eq_some.mp h
      obtain ⟨instant, -, rfl⟩ := Option.map_eq_some_iff.mp h
      rfl
  | _ =>
      obtain ⟨-, h⟩ := Option.ite_none_right_eq_some.mp h
      obtain rfl := Option.some.inj h
      rfl

/-- The end of the drain does not come twice. -/
lemma isGathering_of_step? {label : Label} {s : Run} (hs : s.isGathering = true)
    (h : r.step? app label = some s) : r.isGathering = true := by
  rcases label.supervisor_or with ⟨patience, prefers, rfl⟩ | hl
  · obtain ⟨-, h⟩ := Option.ite_none_right_eq_some.mp h
    obtain rfl := Option.some.inj h
    rw [supervise] at hs
    cases hc : r.control with
    | idle => rw [isGathering, hc]
    | waiting => rw [isGathering, hc]
    | draining first drained => rw [isGathering, hc]
    | stopping first => simp [hc, isGathering_tearDown] at hs
    | byHand => simp [hc, isGathering] at hs
    | returned first => simp [hc, isGathering] at hs
    | abandoned => simp [hc, isGathering] at hs
  · rwa [isGathering, control_of_step? hl h, ← isGathering] at hs

lemma isGathering_of_steps? {labels : List Label} {s : Run} (hs : s.isGathering = true)
    (h : r.steps? app labels = some s) : r.isGathering = true := by
  induction labels generalizing r with
  | nil =>
      obtain rfl := Option.some.inj h
      exact hs
  | cons label labels ih =>
      obtain ⟨next, hnext, hrest⟩ := Option.bind_eq_some_iff.mp h
      exact isGathering_of_step? (ih hrest) hnext

end Run

end ServiceSupervisor
