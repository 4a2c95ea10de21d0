import ServiceSupervisor.Proofs.Responses

/-!
The life of a server component under a supervisor.

A supervisor calls the teardown routine only when every call of the entry routine has ended, and
after that it does not call the entry routine any more.  Under that order one call listens and
starts the server task, its cancellation leaves the task to the first teardown, and until then the
server is ready and answers.

* `Http.ServerState.inOrder`: the rule for that order (`Http.ServerState.keeps`);
* `Http.ServerState.Standing`: how far the server is, as the first call of the entry routine and
  the teardowns tell;
* `Http.ServerState.Life`: what holds at any time; every step in order keeps it
  (`Http.ServerState.Life.step`);
* `Http.ServerState.Tally`: what the steps so far tell of the state after them, in any order;
* `Http.ServerState.Conduct`, `Http.ServerState.serves_until_teardown`: what a supervisor may rely
  on.
-/

namespace ServiceSupervisor.Http

/-- Whether a step is an attempt to listen. -/
def Label.listens : Label → Bool
  | .listen _ _ => true
  | _ => false

/-- Whether a step is an attempt to listen that succeeds. -/
def Label.binds : Label → Bool
  | .listen _ (.bound _) | .listen _ (.nameless _) => true
  | _ => false

/-- Whether a step is a call of the teardown routine. -/
def Label.tearsDown : Label → Bool
  | .teardown _ => true
  | _ => false

namespace ServerState

variable {server : Server} {s t : ServerState} {label : Label} {labels : List Label}

/-! ### Rules -/

/-- Whether each of several steps keeps a rule. -/
def keeps (server : Server) (rule : ServerState → Label → Bool) : ServerState → List Label → Bool
  | _, [] => true
  | s, label :: labels =>
    rule s label && (s.step? server label).all fun next => next.keeps server rule labels

/-- What every step that keeps a rule preserves holds after any of them. -/
lemma keeps_induction {rule : ServerState → Label → Bool} {P : ServerState → Prop}
    (hstep : ∀ {s label t}, P s → rule s label = true → Step server s label t → P t) (hs : P s)
    (h : s.steps? server labels = some t) (hrule : s.keeps server rule labels = true) : P t := by
  induction labels generalizing s with
  | nil => exact Option.some.inj h ▸ hs
  | cons label labels ih =>
      obtain ⟨next, hnext, h⟩ := Option.bind_eq_some_iff.mp h
      rw [keeps, hnext, Option.all_some, Bool.and_eq_true] at hrule
      exact ih (hstep hs hrule.1 (step_of_step? hnext)) h hrule.2

/-- The order of a supervisor: a teardown begins only when every call of the entry routine has
ended, and no such call begins after that.  And the server task does not end before it has been told
to stop. -/
def inOrder (s : ServerState) : Label → Bool
  | .run _ => s.teardowns.isEmpty
  | .teardown _ => s.runs.all (·.ending?.isSome)
  | .endTask _ => s.stopping
  | _ => true

/-! ### The stages of a server -/

/-- How far the server is. -/
inductive Standing (server : Server) (s : ServerState) : Prop
  /-- There is no server task, and there has been none. -/
  | down (hwaiting : s.stages[0]? ≠ some .waiting) (hleft : s.stages[0]? ≠ some (.ended .finished))
      (htask : s.task = .unspawned) (hready : s.ready = false) (hhandle : s.handle = false)
      (hover : ∀ call ∈ s.teardowns, call = .ended .finished)
  /-- The first call waits beside the server task. -/
  | serving (hstage : s.stages[0]? = some .waiting) (hbound : s.bound.isSome = true)
      (hclear : server.routes.clash? s.healthRoutes = none) (htask : s.task = .running)
      (hready : s.ready = true) (hhandle : s.handle = false) (hnone : s.teardowns = [])
  /-- It has left the server task to the first teardown. -/
  | left (hstage : s.stages[0]? = some (.ended .finished)) (hbound : s.bound.isSome = true)
      (hclear : server.routes.clash? s.healthRoutes = none) (htask : s.task = .running)
      (hready : s.ready = true) (hhandle : s.handle = true) (hnone : s.teardowns = [])
  /-- The first teardown has taken the server task.  It waits for its end, has seen it, or has
  given up; the others have found nothing to wait for. -/
  | stopping {first : TeardownCall} {later : List TeardownCall}
      (hstage : s.stages[0]? = some (.ended .finished)) (htask : s.task ≠ .unspawned)
      (hready : s.ready = false) (hhandle : s.handle = false) (htorn : s.teardowns = first :: later)
      (hfirst : ∀ ending, first = .ended ending → ending = .failed stopTimedOut ∨
        ∃ taskEnding, s.task = .ended taskEnding ∧ ending = stopEnding taskEnding)
      (hover : ∀ call ∈ later, call = .ended .finished)

/-- What holds of a server component at any time of its life under a supervisor. -/
structure Life (server : Server) (s : ServerState) : Prop where
  sole : Sole s
  standing : Standing server s
  stopping_iff : s.stopping = true ↔ s.teardowns ≠ []
  ended : s.teardowns ≠ [] → ∀ stage ∈ s.stages, ∃ ending, stage = .ended ending

namespace Standing

/-- Nothing happens to the server. -/
lemma of_same (h : Standing server s) (hstage : t.stages[0]? = s.stages[0]?)
    (hbound : t.bound = s.bound) (htask : t.task = s.task) (hready : t.ready = s.ready)
    (hhandle : t.handle = s.handle) (htorn : t.teardowns = s.teardowns) : Standing server t := by
  have hclash := clash?_healthRoutes server.routes t s
  cases h with
  | down hwaiting hleft htask' hready' hhandle' hover =>
      refine .down ?_ ?_ (htask.trans htask') (hready.trans hready') (hhandle.trans hhandle') ?_
      · rwa [hstage]
      · rwa [hstage]
      · rwa [htorn]
  | serving hstage' hbound' hclear htask' hready' hhandle' hnone =>
      exact .serving (hstage.trans hstage') (hbound ▸ hbound') (hclash.trans hclear)
        (htask.trans htask') (hready.trans hready') (hhandle.trans hhandle') (htorn.trans hnone)
  | left hstage' hbound' hclear htask' hready' hhandle' hnone =>
      exact .left (hstage.trans hstage') (hbound ▸ hbound') (hclash.trans hclear)
        (htask.trans htask') (hready.trans hready') (hhandle.trans hhandle') (htorn.trans hnone)
  | stopping hstage' htask' hready' hhandle' htorn' hfirst hover =>
      exact .stopping (hstage.trans hstage') (htask ▸ htask') (hready.trans hready')
        (hhandle.trans hhandle') (htorn.trans htorn') (htask ▸ hfirst) hover

end Standing

namespace Life

variable {number : Nat} {call : RunCall} {stage : RunStage}

lemma initial (server : Server) : Life server {} where
  sole := .initial
  standing := .down (by simp [stages]) (by simp [stages]) rfl rfl rfl (by simp)
  stopping_iff := by simp
  ended := fun h => absurd rfl h

/-- While a call is under way no teardown has begun. -/
lemma teardowns_eq_nil (h : Life server s) (hcall : s.runs[number]? = some call)
    (hopen : call.ending? = none) : s.teardowns = [] := by
  by_contra hne
  obtain ⟨ending, hstage⟩ := h.ended hne call.stage (List.mem_of_getElem? (getElem?_stages hcall))
  rw [RunCall.ending?, hstage] at hopen
  cases hopen

/-- Nothing happens to the server and the calls. -/
lemma of_same (h : Life server s) (hsole : Sole t) (hstages : t.stages = s.stages)
    (hbound : t.bound = s.bound) (htask : t.task = s.task) (hready : t.ready = s.ready)
    (hhandle : t.handle = s.handle) (htorn : t.teardowns = s.teardowns)
    (hstopping : t.stopping = s.stopping) : Life server t where
  sole := hsole
  standing := h.standing.of_same (by rw [hstages]) hbound htask hready hhandle htorn
  stopping_iff := by rw [hstopping, htorn, h.stopping_iff]
  ended := by rw [htorn, hstages]; exact h.ended

/-- The first call, which has not ended, goes on. -/
lemma advance (h : Life server s) (hsole : Sole t) (hcall : s.runs[number]? = some call)
    (hopen : call.ending? = none) (hstages : t.stages = s.stages.set number stage)
    (htorn : t.teardowns = s.teardowns) (hstopping : t.stopping = s.stopping)
    (hstanding : t.stages[0]? = some stage → t.teardowns = [] → Standing server t) :
    Life server t := by
  have hnone : t.teardowns = [] := htorn.trans (h.teardowns_eq_nil hcall hopen)
  have hfirst := h.sole.stage_of_set hcall hopen hstages
  refine ⟨hsole, hstanding hfirst hnone, ?_, fun hne => absurd hnone hne⟩
  rw [hstopping, htorn, h.stopping_iff]

/-- The call that has the routes ends without a server task. -/
lemma fail (h : Life server s) (hsole : Sole t) {cancelled : Bool} {ending : Ending}
    (hcall : s.runs[number]? = some ⟨.claimed, cancelled⟩) (hending : ending ≠ .finished)
    (hstages : t.stages = s.stages.set number (.ended ending)) (htask : t.task = s.task)
    (hready : t.ready = s.ready) (hhandle : t.handle = s.handle) (htorn : t.teardowns = s.teardowns)
    (hstopping : t.stopping = s.stopping) : Life server t := by
  have hdown := h.sole.down (.inr (h.sole.stage_of_call hcall rfl))
  refine h.advance hsole hcall rfl hstages htorn hstopping fun hfirst hnone => ?_
  exact .down (by simp [hfirst]) (by simpa [hfirst] using hending) (htask.trans hdown.task)
    (hready.trans hdown.ready) (hhandle.trans hdown.handle) (by simp [hnone])

/-- While the first call waits the server serves. -/
lemma serves_of_waiting (h : Life server s) {cancelled : Bool}
    (hcall : s.runs[number]? = some ⟨.waiting, cancelled⟩) : s.bound.isSome = true ∧
      server.routes.clash? s.healthRoutes = none ∧ s.task = .running ∧ s.ready = true := by
  have hstage := h.sole.stage_of_call hcall rfl
  cases h.standing with
  | serving _ hbound hclear htask hready => exact ⟨hbound, hclear, htask, hready⟩
  | down hwaiting => exact absurd hstage hwaiting
  | left hleft => simp [hleft] at hstage
  | stopping hleft => simp [hleft] at hstage

/-- A teardown begins when every call of the entry routine has ended. -/
lemma teardown (h : Life server s) {deadline : Duration}
    (hsole : Sole (s.beginTeardown deadline)) (hcalls : s.runs.all (·.ending?.isSome) = true) :
    Life server (s.beginTeardown deadline) := by
  have hended : ∀ stage ∈ s.stages, ∃ ending, stage = .ended ending := by
    intro stage hstage
    obtain ⟨call, hcall, rfl⟩ := List.mem_map.mp hstage
    have hsome := List.all_eq_true.mp hcalls call hcall
    rw [RunCall.ending?] at hsome
    split at hsome
    · exact ⟨_, ‹_›⟩
    · cases hsome
  refine ⟨hsole, ?_, iff_of_true rfl (List.concat_ne_nil _ _), fun _ => hended⟩
  cases h.standing with
  | down hwaiting hleft htask hready hhandle hover =>
      have htorn : (s.beginTeardown deadline).teardowns = s.teardowns ++ [.ended .finished] := by
        simp [beginTeardown, hhandle]
      refine .down hwaiting hleft htask rfl rfl fun call hcall => ?_
      rcases List.mem_append.mp (htorn ▸ hcall) with hcall | hcall
      · exact hover call hcall
      · exact List.mem_singleton.mp hcall
  | serving hstage =>
      obtain ⟨ending, hending⟩ := hended _ (List.mem_of_getElem? hstage)
      cases hending
  | left hstage hbound hclear htask hready hhandle hnone =>
      have htorn : (s.beginTeardown deadline).teardowns
          = [.waiting (s.now + deadline.millis)] := by simp [beginTeardown, hhandle, hnone]
      exact .stopping hstage (by simp [beginTeardown, htask]) rfl rfl htorn (by simp) (by simp)
  | @stopping first later hstage htask hready hhandle htorn hfirst hover =>
      have htorn : (s.beginTeardown deadline).teardowns
          = first :: (later ++ [.ended .finished]) := by simp [beginTeardown, hhandle, htorn]
      refine .stopping hstage htask rfl rfl htorn hfirst fun call hcall => ?_
      rcases List.mem_append.mp hcall with hcall | hcall
      · exact hover call hcall
      · exact List.mem_singleton.mp hcall

/-- A teardown goes on. -/
lemma answerTeardown (h : Life server s) (hsole : Sole t) {until_ : Nat} {ending : Ending}
    (hcall : s.teardowns[number]? = some (.waiting until_))
    (hsame : t = { s with teardowns := s.teardowns.set number (.ended ending) })
    (hending : ending = .failed stopTimedOut ∨
      ∃ taskEnding, s.task = .ended taskEnding ∧ ending = stopEnding taskEnding) :
    Life server t := by
  subst hsame
  have hmem := List.mem_of_getElem? hcall
  cases h.standing with
  | down hwaiting hleft htask hready hhandle hover => cases hover _ hmem
  | serving hstage hbound hclear htask hready hhandle hnone =>
      rw [hnone] at hmem
      cases hmem
  | left hstage hbound hclear htask hready hhandle hnone =>
      rw [hnone] at hmem
      cases hmem
  | stopping hstage htask hready hhandle htorn hfirst hover =>
      rw [htorn] at hcall
      cases number with
      | zero =>
          refine ⟨hsole, .stopping hstage htask hready hhandle (by rw [htorn]; rfl)
            (fun _ heq => TeardownCall.ended.inj heq ▸ hending) hover, ?_, ?_⟩
          · rw [h.stopping_iff, htorn]
            simp
          · exact fun _ => h.ended (by simp [htorn])
      | succ number => cases hover _ (List.mem_of_getElem? hcall)

/-- **Every step in order keeps the life of a server.** -/
lemma step (h : Life server s) (horder : s.inOrder label = true) (hstep : Step server s label t) :
    Life server t := by
  have hsole := h.sole.step hstep
  cases hstep with
  | claim cancelled hfree =>
      have hnone := h.sole.runs_eq_nil hfree
      have hdown := h.sole.down (.inl (by simp [stages, hnone]))
      have htorn : s.teardowns = [] := List.isEmpty_iff.mp horder
      refine ⟨hsole, .down ?_ ?_ hdown.task hdown.ready hdown.handle ?_, h.stopping_iff,
        fun hne => absurd htorn hne⟩
      · simp [stages, hnone]
      · simp [stages, hnone]
      · exact fun call hcall => absurd (htorn ▸ hcall) List.not_mem_nil
  | late cancelled hclaimed =>
      have hfirst := h.sole.stage_of_late hclaimed ⟨.ended (.failed alreadyStarted), cancelled⟩
      have htorn : s.teardowns = [] := List.isEmpty_iff.mp horder
      exact ⟨hsole, h.standing.of_same hfirst rfl rfl rfl rfl rfl, h.stopping_iff,
        fun hne => absurd htorn hne⟩
  | giveUp hcall hfail =>
      exact h.fail hsole hcall (by simp) (stages_setRun _ _) rfl rfl rfl rfl rfl
  | clash hcall hclash =>
      exact h.fail hsole hcall (by simp) (stages_setRun _ _) rfl rfl rfl rfl rfl
  | serve hcall hclear =>
      have hdown := h.sole.down (.inr (h.sole.stage_of_call hcall rfl))
      exact h.advance hsole hcall rfl (stages_setRun _ _) rfl rfl fun hfirst hnone =>
        .serving hfirst rfl (clash?_healthRoutes .. ▸ hclear) rfl rfl hdown.handle hnone
  | cancel number =>
      exact h.of_same hsole (stages_cancelRun number) rfl rfl rfl rfl rfl rfl
  | leave hcall hlive =>
      obtain ⟨hbound, hclear, htask, hready⟩ := h.serves_of_waiting hcall
      exact h.advance hsole hcall rfl (stages_setRun _ _) rfl rfl fun hfirst hnone =>
        .left hfirst hbound (clash?_healthRoutes .. ▸ hclear) htask hready rfl hnone
  | lose hcall hover hnot =>
      obtain ⟨-, -, htask, -⟩ := h.serves_of_waiting hcall
      simp [htask] at hover
  | teardown deadline => exact h.teardown hsole horder
  | stop hcall hover => exact h.answerTeardown hsole hcall rfl (.inr ⟨_, hover, rfl⟩)
  | expire hcall hlive hdue => exact h.answerTeardown hsole hcall rfl (.inl rfl)
  | endTask ending hrunning =>
      have hne := h.stopping_iff.mp horder
      refine ⟨hsole, ?_, h.stopping_iff, h.ended⟩
      cases h.standing with
      | down _ _ htask => simp [htask] at hrunning
      | serving _ _ _ _ _ _ hnone => exact absurd hnone hne
      | left _ _ _ _ _ _ hnone => exact absurd hnone hne
      | stopping hstage htask hready hhandle htorn hfirst hover =>
          refine .stopping hstage (by simp) hready hhandle htorn (fun ending heq => ?_) hover
          rcases hfirst ending heq with hlate | ⟨taskEnding, htask, -⟩
          · exact .inl hlate
          · simp [htask] at hrunning
  | _ => exact h.of_same hsole rfl rfl rfl rfl rfl rfl rfl

end Life

/-- **Under a supervisor a server component leads its life.** -/
theorem life_of_steps (h : steps? server {} labels = some s)
    (horder : keeps server inOrder {} labels = true) : Life server s :=
  keeps_induction (fun h horder hstep => h.step horder hstep) (.initial server) h horder

/-! ### What the steps so far tell -/

/-- Whether the first call has tried to listen. -/
def tried (s : ServerState) : Bool :=
  match s.stages[0]? with
  | none | some RunStage.claimed => false
  | _ => true

lemma tried_congr (h : t.stages[0]? = s.stages[0]?) : t.tried = s.tried := by
  rw [tried, tried, h]

/-- A call gets somewhere: the calls are those of before, but for it. -/
lemma mem_runs_setRun {number : Nat} {stage : RunStage} {call : RunCall}
    (h : call ∈ (s.setRun number stage).runs) :
    call ∈ s.runs ∨ ∃ old, s.runs[number]? = some old ∧ call = { old with stage } := by
  obtain ⟨place, hplace⟩ := List.mem_iff_getElem?.mp h
  rw [setRun, List.getElem?_modify, Option.map_eq_map, Option.map_eq_some_iff] at hplace
  obtain ⟨old, hold, rfl⟩ := hplace
  split
  · rename_i heq
    exact .inr ⟨old, heq ▸ hold, rfl⟩
  · exact .inl (List.mem_of_getElem? hold)

/-- What the steps so far tell of the state after them. -/
structure Tally (labels : List Label) (s : ServerState) : Prop where
  listens : labels.countP Label.listens = s.tried.toNat
  binds : s.bound.isSome = true → labels.any Label.binds = true
  tearsDown : labels.countP Label.tearsDown = s.teardowns.length
  cancelled : ∀ call ∈ s.runs, call.stage = .ended .finished → call.cancelled = true

namespace Tally

variable {number : Nat} {call : RunCall} {stage : RunStage}

lemma initial : Tally [] {} := ⟨rfl, by simp, rfl, by simp⟩

/-- The first call is as far as it was. -/
lemma of_same (h : Tally labels s) (hlistens : label.listens = false)
    (hstage : t.stages[0]? = s.stages[0]?) (hbound : t.bound = s.bound)
    (htorn : t.teardowns.length = s.teardowns.length + label.tearsDown.toNat)
    (hcancelled : ∀ call ∈ t.runs, call.stage = .ended .finished → call.cancelled = true) :
    Tally (labels ++ [label]) t where
  listens := by
    rw [List.countP_append, h.listens, tried_congr hstage]
    simp [hlistens]
  binds := fun hsome => by rw [List.any_append, h.binds (hbound ▸ hsome), Bool.true_or]
  tearsDown := by
    rw [List.countP_append, h.tearsDown, htorn]
    cases hdown : label.tearsDown <;> simp [hdown]
  cancelled := hcancelled

/-- The first call, which has not ended, goes on; it ends well only if it is cancelled. -/
lemma advance (h : Tally labels s) (hsole : Sole s) (hcall : s.runs[number]? = some call)
    (hopen : call.ending? = none) (hruns : t.runs = (s.setRun number stage).runs)
    (hbegun : stage ≠ .claimed) (hlistens : label.listens = decide (call.stage = .claimed))
    (hbinds : t.bound.isSome = true → s.bound.isSome = true ∨ label.binds = true)
    (htorn : t.teardowns = s.teardowns) (hdown : label.tearsDown = false)
    (hcancelled : stage = .ended .finished → call.cancelled = true) :
    Tally (labels ++ [label]) t := by
  have hstages : t.stages = s.stages.set number stage := by
    rw [← stages_setRun, stages, stages, hruns]
  have htried : t.tried = true := by
    rw [tried, hsole.stage_of_set hcall hopen hstages]
    cases stage <;> first | rfl | exact absurd rfl hbegun
  have hbefore : s.tried = !label.listens := by
    rw [tried, hsole.stage_of_call hcall hopen, hlistens]
    cases call.stage <;> rfl
  refine ⟨?_, fun hsome => ?_, ?_, fun other hother hended => ?_⟩
  · rw [List.countP_append, h.listens, htried, hbefore]
    cases hlabel : label.listens <;> simp [hlabel]
  · rw [List.any_append, Bool.or_eq_true]
    rcases hbinds hsome with hpast | hnow
    · exact .inl (h.binds hpast)
    · exact .inr (by simp [hnow])
  · rw [List.countP_append, h.tearsDown, htorn]
    simp [hdown]
  · rw [hruns] at hother
    rcases mem_runs_setRun hother with hold | ⟨old, hold, rfl⟩
    · exact h.cancelled other hold hended
    · obtain rfl := Option.some.inj (hcall.symm.trans hold)
      exact hcancelled hended

/-- **Every step keeps the tally.** -/
lemma step (h : Tally labels s) (hsole : Sole s) (hstep : Step server s label t) :
    Tally (labels ++ [label]) t := by
  cases hstep with
  | claim cancelled hfree =>
      have hnone := hsole.runs_eq_nil hfree
      refine ⟨?_, fun hsome => ?_, ?_, ?_⟩
      · rw [List.countP_append, h.listens]
        simp [tried, stages, hnone, Label.listens]
      · rw [List.any_append, h.binds hsome, Bool.true_or]
      · rw [List.countP_append, h.tearsDown]
        rfl
      · simp [hnone]
  | late cancelled hclaimed =>
      refine h.of_same rfl (hsole.stage_of_late hclaimed _) rfl rfl fun call hcall hended => ?_
      rcases List.mem_append.mp hcall with hcall | hcall
      · exact h.cancelled call hcall hended
      · obtain rfl := List.mem_singleton.mp hcall
        cases hended
  | giveUp hcall hfail =>
      exact h.advance hsole hcall rfl rfl (by simp) rfl .inl rfl rfl (by simp)
  | clash hcall hclash =>
      exact h.advance hsole hcall rfl rfl (by simp) rfl (fun _ => .inr rfl) rfl rfl (by simp)
  | serve hcall hclear =>
      exact h.advance hsole hcall rfl rfl (by simp) rfl (fun _ => .inr rfl) rfl rfl (by simp)
  | leave hcall hlive =>
      exact h.advance hsole hcall rfl rfl (by simp) rfl .inl rfl rfl fun _ => rfl
  | lose hcall hover hnot =>
      exact h.advance hsole hcall rfl rfl (by simp) rfl .inl rfl rfl (by simp)
  | cancel number =>
      refine h.of_same rfl (by rw [stages_cancelRun]) rfl rfl fun call hcall hended => ?_
      obtain ⟨place, hplace⟩ := List.mem_iff_getElem?.mp hcall
      rw [cancelRun, List.getElem?_modify, Option.map_eq_map, Option.map_eq_some_iff] at hplace
      obtain ⟨old, hold, rfl⟩ := hplace
      by_cases heq : number = place
      · rw [if_pos heq]
      · rw [if_neg heq] at hended ⊢
        exact h.cancelled old (List.mem_of_getElem? hold) hended
  | teardown deadline =>
      refine h.of_same rfl rfl rfl ?_ h.cancelled
      rw [beginTeardown, List.length_append]
      rfl
  | stop hcall hover => exact h.of_same rfl rfl rfl (List.length_set ..) h.cancelled
  | expire hcall hlive hdue => exact h.of_same rfl rfl rfl (List.length_set ..) h.cancelled
  | _ => exact h.of_same rfl rfl rfl rfl h.cancelled

end Tally

lemma tally_of_steps (h : steps? server {} labels = some s) : Tally labels s :=
  (steps_history (P := fun past s => Sole s ∧ Tally past s)
    (fun h hstep => ⟨h.1.step hstep, h.2.step h.1 hstep⟩) [] ⟨.initial, .initial⟩ h).2

/-! ### What a supervisor may rely on -/

/-- What a supervisor may rely on. -/
structure Conduct (server : Server) (labels : List Label) (s : ServerState) : Prop where
  /-- At most one call ever tries to listen. -/
  listens_once : labels.countP Label.listens ≤ 1
  /-- Once there is a listener a call that begins fails, and nothing else changes. -/
  later_fails : labels.any Label.binds = true → ∀ cancelled, s.step? server (.run cancelled)
    = some { s with runs :=
        s.runs ++ [⟨.ended (.failed { root := "http server already started" }), cancelled⟩] }
  /-- The server is ready as long as its task runs and no teardown has begun. -/
  ready_iff : s.ready = true ↔ s.task = .running ∧ s.teardowns = []
  /-- It is ready only when it listens. -/
  bound : s.ready = true → s.bound.isSome = true ∧ labels.any Label.binds = true
  /-- After a teardown has begun it is not ready any more. -/
  torn : labels.any Label.tearsDown = true → s.ready = false
  /-- A call ends well only if it is cancelled, and it leaves a server task that runs. -/
  finished : ∀ call ∈ s.runs, call.stage = .ended .finished → call.cancelled = true ∧
    (labels.any Label.tearsDown = false → s.task = .running ∧ s.handle = true ∧ s.ready = true)
  /-- The server task is kept from the end of that call until the first teardown. -/
  handle_iff : s.handle = true ↔
    s.teardowns = [] ∧ ∃ call ∈ s.runs, call.stage = .ended .finished
  /-- A ready server accepts every request, and it says that it is ready. -/
  accepts : s.ready = true → ∀ request : Request, (s.step? server (.accept request)).isSome = true ∧
    (request.method = "GET" → request.path = "/readyz" → s.courseOf server request
      = (Course.now (.ofStatus 200)).limited server.requestTimeout)
  /-- Every accepted request has a reply, due within the time that it may take, and that is a
  response, unless its handler panics with a volatile payload.  The request is answered with it when
  it is due, and not before. -/
  answers : ∀ number a, s.requests[number]? = some a → ∃ due reply,
    a.due? = some (due, reply) ∧ due ≤ a.arrival + server.requestTimeout.millis ∧
    (a.course.Volatile ∨ ∃ response, reply = .response response) ∧
    (a.answer = some (due, reply) ∧ due ≤ s.now ∨ a.answer = none ∧ s.now ≤ due ∧
      (due = s.now → s.step? server (.answer number) = some { s with
        requests := s.requests.set number { a with answer := some (s.now, reply) } }))

/-- The first call is the one that ends well. -/
lemma Sole.first_iff (h : Sole s) : s.stages[0]? = some (.ended .finished) ↔
    ∃ call ∈ s.runs, call.stage = .ended .finished := by
  refine ⟨fun hstage => ?_, fun ⟨call, hcall, hended⟩ => ?_⟩
  · rw [stages, List.getElem?_map, Option.map_eq_some_iff] at hstage
    obtain ⟨call, hcall, hended⟩ := hstage
    exact ⟨call, List.mem_of_getElem? hcall, hended⟩
  · obtain ⟨number, hnumber⟩ := List.mem_iff_getElem?.mp hcall
    have hstage := getElem?_stages hnumber
    rw [hended] at hstage
    cases number with
    | zero => exact hstage
    | succ number => cases h.later hstage

namespace Life

lemma ready_iff (h : Life server s) :
    s.ready = true ↔ s.task = .running ∧ s.teardowns = [] := by
  cases h.standing with
  | down hwaiting hleft htask hready => simp [htask, hready]
  | serving hstage hbound hclear htask hready hhandle hnone => simp [htask, hready, hnone]
  | left hstage hbound hclear htask hready hhandle hnone => simp [htask, hready, hnone]
  | stopping hstage htask hready hhandle htorn => simp [hready, htorn]

lemma handle_iff (h : Life server s) : s.handle = true ↔
    s.teardowns = [] ∧ ∃ call ∈ s.runs, call.stage = .ended .finished := by
  rw [← h.sole.first_iff]
  cases h.standing with
  | down hwaiting hleft htask hready hhandle => simp [hleft, hhandle]
  | serving hstage hbound hclear htask hready hhandle => simp [hstage, hhandle]
  | left hstage hbound hclear htask hready hhandle hnone => simp [hstage, hhandle, hnone]
  | stopping hstage htask hready hhandle htorn => simp [hhandle, htorn]

/-- Until the first teardown a call that has ended well leaves a server that serves. -/
lemma left_of_finished (h : Life server s) (hnone : s.teardowns = [])
    (hstage : s.stages[0]? = some (.ended .finished)) :
    s.task = .running ∧ s.handle = true ∧ s.ready = true := by
  cases h.standing with
  | left _ hbound hclear htask hready hhandle => exact ⟨htask, hhandle, hready⟩
  | down hwaiting hleft => exact absurd hstage hleft
  | serving hwaiting => simp [hwaiting] at hstage
  | stopping _ htask hready hhandle htorn => simp [htorn] at hnone

/-- A ready server listens, and its routes are clear of its own. -/
lemma listens_of_ready (h : Life server s) (hready : s.ready = true) :
    s.bound.isSome = true ∧ server.routes.clash? s.healthRoutes = none := by
  cases h.standing with
  | serving hstage hbound hclear => exact ⟨hbound, hclear⟩
  | left hstage hbound hclear => exact ⟨hbound, hclear⟩
  | down hwaiting hleft htask hnot => simp [hnot] at hready
  | stopping hstage htask hnot => simp [hnot] at hready

/-- A ready server accepts every request. -/
lemma accepts (h : Life server s) (hready : s.ready = true) (request : Request) :
    (s.step? server (.accept request)).isSome = true := by
  obtain ⟨htask, hnone⟩ := h.ready_iff.mp hready
  have hopen : s.stopping = false := by
    simpa [hnone] using h.stopping_iff
  simp [step?, accept, htask, hopen]

/-- A ready server says that it is ready. -/
lemma courseOf_readyz (h : Life server s) (hready : s.ready = true) {request : Request}
    (hmethod : request.method = "GET") (hpath : request.path = "/readyz") :
    s.courseOf server request = (Course.now (.ofStatus 200)).limited server.requestTimeout := by
  obtain ⟨-, hclear⟩ := h.listens_of_ready hready
  have hmem : ⟨"GET", "/readyz", fun _ => .now s.readiness⟩ ∈ s.healthRoutes.routes := by
    simp [healthRoutes]
  rw [courseOf, serve_health hclear hmem hmethod hpath, readiness, hready, if_pos rfl]

end Life

/-- **A server under a supervisor serves until its teardown**, whatever the order of its calls,
requests and tasks: one call listens, its cancellation leaves the server task to the first teardown,
and until that one the server is ready and answers every request. -/
theorem serves_until_teardown (server : Server) (labels : List Label) {s : ServerState}
    (hs : steps? server {} labels = some s) (horder : keeps server inOrder {} labels = true) :
    Conduct server labels s := by
  have hlife := life_of_steps hs horder
  have htally := tally_of_steps hs
  have htorn : labels.any Label.tearsDown = true ↔ s.teardowns ≠ [] := by
    rw [← List.length_pos_iff, ← htally.tearsDown, List.countP_pos_iff, List.any_eq_true]
  refine {
    listens_once := ?_
    later_fails := fun hbinds cancelled => ?_
    ready_iff := hlife.ready_iff
    bound := fun hready => ?_
    torn := fun hdown => ?_
    finished := fun call hcall hended => ⟨htally.cancelled call hcall hended, fun hdown => ?_⟩
    handle_iff := hlife.handle_iff
    accepts := fun hready request =>
      ⟨hlife.accepts hready request, hlife.courseOf_readyz hready⟩
    answers := fun number a ha => ?_ }
  · rw [htally.listens]
    exact Bool.toNat_le _
  · have hlistens : 0 < labels.countP Label.listens := by
      obtain ⟨label, hlabel, hbind⟩ := List.any_eq_true.mp hbinds
      refine List.countP_pos_iff.mpr ⟨label, hlabel, ?_⟩
      cases label <;> first | rfl | cases hbind
    rw [htally.listens] at hlistens
    have hsome : s.stages ≠ [] := by
      intro hnone
      simp [tried, hnone] at hlistens
    exact congrArg some (beginRun_of_claimed cancelled (hlife.sole.claimed_iff.mpr hsome))
  · obtain ⟨hbound, -⟩ := hlife.listens_of_ready hready
    exact ⟨hbound, htally.binds hbound⟩
  · exact Bool.eq_false_iff.mpr fun hready => htorn.mp hdown (hlife.ready_iff.mp hready).2
  · have hnone : s.teardowns = [] := by
      by_contra hne
      rw [htorn.mpr hne] at hdown
      cases hdown
    exact hlife.left_of_finished hnone (hlife.sole.first_iff.mpr ⟨call, hcall, hended⟩)
  · obtain ⟨-, due, reply, hdue, hle, hanswer⟩ :=
      attended_of_steps hs a (List.mem_of_getElem? ha)
    refine ⟨due, reply, hdue, hle, ?_, hanswer.imp_right fun ⟨hnone, hwaits⟩ => ?_⟩
    · cases reply with
      | response response => exact .inr ⟨response, rfl⟩
      | closed => exact .inl (a.volatile_of_due? hdue)
    · exact ⟨hnone, hwaits, fun hnow => step?_answer ha hdue hnone (Nat.le_of_eq hnow)⟩

/-- A life of a server: a second call fails, the cancellation of the first leaves the server task to
the teardown, and a request that comes between the two is answered. -/
def wholeLife : List Label :=
  [.run false, .listen 0 (.bound plainServer.address), .run false, .cancel 0, .wakeRun 0 true,
    .accept { target := "/readyz" }, .answer 0, .teardown (.ofSecs 10),
    .endTask .finished, .wakeTeardown 0]

/-- The server of `wholeLife` serves until its teardown. -/
theorem conduct_of_plainServer : ∃ s, steps? plainServer {} wholeLife = some s ∧
    s.requests.map Accepted.answer = [some (0, .response { status := 200 })] ∧
    s.teardowns = [.ended .finished] ∧ keeps plainServer inOrder {} wholeLife = true ∧
    Conduct plainServer wholeLife s :=
  ⟨_, rfl, rfl, rfl, rfl, serves_until_teardown plainServer wholeLife rfl rfl⟩

end ServerState

end ServiceSupervisor.Http
