import Mathlib.Tactic.Lemma
import ServiceSupervisor.Http.Server

/-!
One step of a server component, and what holds of one whatever is done with it.

* `Http.ServerState.Step`: what a step does (`Http.ServerState.step_of_step?`);
* `Http.ServerState.steps_history`, `Http.ServerState.steps_induction`: what every step keeps holds
  after any of them;
* `Http.ServerState.Sole`: only the first call of the entry routine takes the routes, and every
  later one fails at once (`Http.ServerState.sole_of_steps`);
* `Http.ServerState.Down`: the server does not listen, and there is no server task.
-/

namespace ServiceSupervisor.Http

/-- How an attempt to listen that comes to nothing ends its call. -/
def Listening.failure? (address : SocketAddress) : Listening → Option Failure
  | .bound _ => none
  | .refused fault => some (ServerState.listenFailure address fault)
  | .nameless fault => some { root := fault.message }

namespace ServerState

variable {server : Server} {s t u : ServerState} {label : Label} {labels : List Label}

/-! ### The calls of the entry routine -/

/-- How far each call of the entry routine has got. -/
def stages (s : ServerState) : List RunStage := s.runs.map RunCall.stage

lemma getElem?_stages {number : Nat} {call : RunCall} (h : s.runs[number]? = some call) :
    s.stages[number]? = some call.stage := by
  rw [stages, List.getElem?_map, h, Option.map_some]

@[simp] lemma stages_setRun (number : Nat) (stage : RunStage) :
    (s.setRun number stage).stages = s.stages.set number stage := by
  refine List.ext_getElem? fun i => ?_
  simp only [stages, setRun, List.getElem?_map, List.getElem?_modify, List.getElem?_set,
    List.length_map]
  by_cases h : number = i
  · by_cases hi : i < s.runs.length <;> simp [h, hi]
  · simp [h]

/-- A cancellation does not make a call go on. -/
@[simp] lemma stages_cancelRun (number : Nat) : (s.cancelRun number).stages = s.stages := by
  refine List.ext_getElem? fun i => ?_
  simp only [stages, cancelRun, List.getElem?_map, List.getElem?_modify]
  by_cases h : number = i <;> cases s.runs[i]? <;> simp [h]

/-! ### Steps -/

/-- What one step does. -/
inductive Step (server : Server) (s : ServerState) : Label → ServerState → Prop
  /-- The first call takes the routes. -/
  | claim (cancelled : Bool) (hfree : s.claimed = false) :
      Step server s (.run cancelled)
        { s with claimed := true, runs := s.runs ++ [⟨.claimed, cancelled⟩] }
  /-- A later one fails. -/
  | late (cancelled : Bool) (hclaimed : s.claimed = true) :
      Step server s (.run cancelled)
        { s with runs := s.runs ++ [⟨.ended (.failed alreadyStarted), cancelled⟩] }
  /-- An attempt to listen comes to nothing. -/
  | giveUp {number : Nat} {outcome : Listening} {cancelled : Bool} {failure : Failure}
      (hcall : s.runs[number]? = some ⟨.claimed, cancelled⟩)
      (hfail : outcome.failure? server.address = some failure) :
      Step server s (.listen number outcome) (s.setRun number (.ended (.failed failure)))
  /-- The server listens, but a route of the application is a health route as well. -/
  | clash {number : Nat} {address : SocketAddress} {cancelled : Bool} {route : String × String}
      (hcall : s.runs[number]? = some ⟨.claimed, cancelled⟩)
      (hclash : server.routes.clash? s.healthRoutes = some route) :
      Step server s (.listen number (.bound address))
        ({ s with bound := some address }.setRun number
          (.ended (.panicked (some (clashText route)))))
  /-- The server listens and starts its task. -/
  | serve {number : Nat} {address : SocketAddress} {cancelled : Bool}
      (hcall : s.runs[number]? = some ⟨.claimed, cancelled⟩)
      (hclear : server.routes.clash? s.healthRoutes = none) :
      Step server s (.listen number (.bound address))
        ({ s with bound := some address, ready := true, started := s.now, task := .running }.setRun
          number .waiting)
  | cancel (number : Nat) : Step server s (.cancel number) (s.cancelRun number)
  /-- A cancelled call keeps the server task for the teardown. -/
  | leave {number : Nat} {prefers : Bool} (hcall : s.runs[number]? = some ⟨.waiting, true⟩)
      (hlive : s.task.ending? = none ∨ prefers = true) :
      Step server s (.wakeRun number prefers)
        ({ s with handle := true }.setRun number (.ended .finished))
  /-- A call finds that the server task has ended. -/
  | lose {number : Nat} {prefers cancelled : Bool} {ending : Ending}
      (hcall : s.runs[number]? = some ⟨.waiting, cancelled⟩) (hover : s.task = .ended ending)
      (hnot : (cancelled && prefers) = false) :
      Step server s (.wakeRun number prefers)
        ({ s with ready := false }.setRun number (.ended (.failed (unexpectedEnd ending))))
  | teardown (deadline : Duration) : Step server s (.teardown deadline) (s.beginTeardown deadline)
  /-- A teardown sees the end of the server task. -/
  | stop {number until_ : Nat} {ending : Ending}
      (hcall : s.teardowns[number]? = some (.waiting until_)) (hover : s.task = .ended ending) :
      Step server s (.wakeTeardown number)
        { s with teardowns := s.teardowns.set number (.ended (stopEnding ending)) }
  /-- The time of a teardown is over before the server task has ended. -/
  | expire {number until_ : Nat} (hcall : s.teardowns[number]? = some (.waiting until_))
      (hlive : s.task.ending? = none) (hdue : until_ ≤ s.now) :
      Step server s (.wakeTeardown number)
        { s with teardowns := s.teardowns.set number (.ended (.failed stopTimedOut)) }
  | accept (request : Request) (hrunning : s.task = .running) (hopen : s.stopping = false) :
      Step server s (.accept request)
        { s with requests := s.requests ++ [⟨request, s.now, s.courseOf server request, none⟩] }
  | answer {number due : Nat} {accepted : Accepted} {reply : Reply}
      (hat : s.requests[number]? = some accepted) (hdue : accepted.due? = some (due, reply))
      (hnone : accepted.answer = none) (hnow : due ≤ s.now) :
      Step server s (.answer number)
        { s with
          requests := s.requests.set number { accepted with answer := some (s.now, reply) } }
  | endTask (ending : Ending) (hrunning : s.task = .running) :
      Step server s (.endTask ending) { s with task := .ended ending }
  | pass {span : Duration} (hrest : ∀ wake ∈ s.wakes, s.now + span.millis ≤ wake) :
      Step server s (.pass span) { s with now := s.now + span.millis }

lemma ServerTask.ending?_eq_some {task : ServerTask} {ending : Ending}
    (h : task.ending? = some ending) : task = .ended ending := by
  cases task <;> cases h
  rfl

lemma beginRun_of_claimed (cancelled : Bool) (h : s.claimed = true) : s.beginRun cancelled
    = { s with runs := s.runs ++ [⟨.ended (.failed alreadyStarted), cancelled⟩] } := by
  rw [beginRun, if_pos h, ← h]

lemma beginRun_of_free (cancelled : Bool) (h : s.claimed = false) : s.beginRun cancelled
    = { s with claimed := true, runs := s.runs ++ [⟨.claimed, cancelled⟩] } := by
  rw [beginRun, if_neg (by simp [h])]

/-- A call that tries to listen ends, or it starts the server task. -/
lemma step_listen {number : Nat} {cancelled : Bool} (outcome : Listening)
    (hcall : s.runs[number]? = some ⟨.claimed, cancelled⟩) :
    Step server s (.listen number outcome) (s.listen server number outcome) := by
  cases outcome with
  | bound address =>
      rw [listen]
      dsimp only
      split
      · exact .clash hcall ‹_›
      · exact .serve hcall ‹_›
  | refused fault => exact .giveUp hcall rfl
  | nameless fault => exact .giveUp hcall rfl

lemma step_wakeRun {number : Nat} {prefers : Bool} (h : s.wakeRun number prefers = some t) :
    Step server s (.wakeRun number prefers) t := by
  rw [wakeRun] at h
  split at h
  · rename_i cancelled hcall
    split at h
    · rename_i hlive
      obtain ⟨hcancelled, h⟩ := Option.ite_none_right_eq_some.mp h
      obtain rfl := Option.some.inj h
      exact .leave (hcancelled ▸ hcall) (.inl hlive)
    · rename_i ending hover
      split at h
      · rename_i hboth
        obtain ⟨hcancelled, hprefers⟩ := Bool.and_eq_true_iff.mp hboth
        obtain rfl := Option.some.inj h
        exact .leave (hcancelled ▸ hcall) (.inr hprefers)
      · rename_i hnot
        obtain rfl := Option.some.inj h
        exact .lose hcall (ServerTask.ending?_eq_some hover) (by simpa using hnot)
  · cases h

lemma step_wakeTeardown {number : Nat} (h : s.wakeTeardown number = some t) :
    Step server s (.wakeTeardown number) t := by
  rw [wakeTeardown] at h
  split at h
  · rename_i until_ hcall
    split at h
    · rename_i ending hover
      obtain rfl := Option.some.inj h
      exact .stop hcall (ServerTask.ending?_eq_some hover)
    · rename_i hlive
      obtain ⟨hdue, h⟩ := Option.ite_none_right_eq_some.mp h
      obtain rfl := Option.some.inj h
      exact .expire hcall hlive hdue
  · cases h

/-- **A step of a server does what `Step` says.** -/
theorem step_of_step? (h : s.step? server label = some t) : Step server s label t := by
  cases label with
  | run cancelled =>
      obtain rfl := Option.some.inj h
      cases hclaimed : s.claimed with
      | false =>
          rw [beginRun_of_free cancelled hclaimed]
          exact .claim cancelled hclaimed
      | true =>
          rw [beginRun_of_claimed cancelled hclaimed]
          exact .late cancelled hclaimed
  | listen number outcome =>
      rw [step?] at h
      split at h
      · obtain rfl := Option.some.inj h
        exact step_listen outcome ‹_›
      · cases h
  | cancel number =>
      obtain rfl := Option.some.inj h
      exact .cancel number
  | wakeRun number prefers => exact step_wakeRun h
  | teardown deadline =>
      obtain rfl := Option.some.inj h
      exact .teardown deadline
  | wakeTeardown number => exact step_wakeTeardown h
  | accept request =>
      obtain ⟨⟨hrunning, hopen⟩, h⟩ := Option.ite_none_right_eq_some.mp h
      obtain rfl := Option.some.inj h
      exact .accept request hrunning (by simpa using hopen)
  | answer number =>
      obtain ⟨accepted, hat, h⟩ := Option.bind_eq_some_iff.mp h
      obtain ⟨⟨due, reply⟩, hdue, h⟩ := Option.bind_eq_some_iff.mp h
      obtain ⟨⟨hnone, hnow⟩, h⟩ := Option.ite_none_right_eq_some.mp h
      obtain rfl := Option.some.inj h
      exact .answer hat hdue (Option.isNone_iff_eq_none.mp hnone) hnow
  | endTask ending =>
      obtain ⟨hrunning, h⟩ := Option.ite_none_right_eq_some.mp h
      obtain rfl := Option.some.inj h
      exact .endTask ending hrunning
  | pass span =>
      obtain ⟨hrest, h⟩ := Option.ite_none_right_eq_some.mp h
      obtain rfl := Option.some.inj h
      exact .pass (by simpa using hrest)

/-! ### Any steps -/

/-- What every step keeps, as a fact about the steps so far as well, holds after any of them. -/
lemma steps_history {P : List Label → ServerState → Prop}
    (hstep : ∀ {past s label t}, P past s → Step server s label t → P (past ++ [label]) t)
    (past : List Label) (hs : P past s) (h : s.steps? server labels = some t) :
    P (past ++ labels) t := by
  induction labels generalizing past s with
  | nil =>
      rw [List.append_nil]
      exact Option.some.inj h ▸ hs
  | cons label labels ih =>
      obtain ⟨next, hnext, h⟩ := Option.bind_eq_some_iff.mp h
      rw [List.append_cons]
      exact ih _ (hstep hs (step_of_step? hnext)) h

/-- What every step keeps holds after any of them. -/
lemma steps_induction {P : ServerState → Prop}
    (hstep : ∀ {s label t}, P s → Step server s label t → P t) (hs : P s)
    (h : s.steps? server labels = some t) : P t :=
  steps_history (P := fun _ s => P s) (fun h hs => hstep h hs) [] hs h

/-- The server does not listen, and there is no server task. -/
structure Down (s : ServerState) : Prop where
  bound : s.bound = none
  task : s.task = .unspawned
  ready : s.ready = false
  handle : s.handle = false

/-- Only the first call takes the routes. -/
structure Sole (s : ServerState) : Prop where
  claimed_iff : s.claimed = true ↔ s.stages ≠ []
  later : ∀ {number : Nat} {stage : RunStage}, s.stages[number + 1]? = some stage →
    stage = .ended (.failed alreadyStarted)
  first : s.stages[0]? ≠ some (.ended (.failed alreadyStarted))
  down : s.stages[0]? = none ∨ s.stages[0]? = some .claimed → s.Down

/-! ### Failures that are not the one of a later call -/

/-- The report of a system error ends in a bracket. -/
lemma systemError_ne_alreadyStarted (fault : SystemError) :
    ({ root := fault.message } : Failure) ≠ alreadyStarted := by
  intro h
  have hlast := congrArg (fun f : Failure => f.root.toList.getLast?) h
  simp only [SystemError.message, String.toList_append] at hlast
  rw [List.getLast?_append] at hlast
  cases hlast

/-- An attempt to listen that comes to nothing is not reported as a call that comes too late. -/
lemma failure_ne_alreadyStarted {outcome : Listening} {address : SocketAddress} {failure : Failure}
    (h : outcome.failure? address = some failure) : failure ≠ alreadyStarted := by
  cases outcome with
  | bound address => cases h
  | refused fault =>
      obtain rfl := Option.some.inj h
      simp [listenFailure, alreadyStarted]
  | nameless fault =>
      obtain rfl := Option.some.inj h
      exact systemError_ne_alreadyStarted fault

/-- Nor is the end of the server task. -/
lemma unexpectedEnd_ne_alreadyStarted (ending : Ending) :
    unexpectedEnd ending ≠ alreadyStarted := by
  cases ending with
  | finished => decide
  | failed failure => simp [unexpectedEnd, Failure.wrap, alreadyStarted]
  | panicked payload =>
      -- The two texts begin with different letters.
      intro h
      have hhead : ("HTTP server task failed: " ++ describePanic payload).toList.head? = some 'h' :=
        congrArg (fun f : Failure => f.root.toList.head?) h
      have hpanic : "HTTP server task failed: ".toList.head? = some 'H' := rfl
      rw [String.toList_append, List.head?_append, hpanic, Option.some_or] at hhead
      exact absurd (Option.some.inj hhead) (by decide)

/-! ### Only one call takes the routes -/

namespace Down

lemma of_same (h : s.Down) (hbound : t.bound = s.bound) (htask : t.task = s.task)
    (hready : t.ready = s.ready) (hhandle : t.handle = s.handle) : t.Down :=
  ⟨hbound.trans h.bound, htask.trans h.task, hready.trans h.ready, hhandle.trans h.handle⟩

end Down

namespace Sole

variable {number : Nat} {call : RunCall} {stage : RunStage}

lemma initial : Sole {} where
  claimed_iff := by simp [stages]
  later := by simp [stages]
  first := by simp [stages]
  down := fun _ => ⟨rfl, rfl, rfl, rfl⟩

/-- A call that has not ended is the first. -/
lemma number_eq_zero (h : Sole s) (hcall : s.runs[number]? = some call)
    (hopen : call.ending? = none) : number = 0 := by
  cases number with
  | zero => rfl
  | succ n =>
      rw [RunCall.ending?, h.later (getElem?_stages hcall)] at hopen
      cases hopen

/-- So its stage is that of the first. -/
lemma stage_of_call (h : Sole s) (hcall : s.runs[number]? = some call)
    (hopen : call.ending? = none) : s.stages[0]? = some call.stage :=
  h.number_eq_zero hcall hopen ▸ getElem?_stages hcall

/-- And the stage that it gets to is that of the first. -/
lemma stage_of_set (h : Sole s) (hcall : s.runs[number]? = some call)
    (hopen : call.ending? = none) (hstages : t.stages = s.stages.set number stage) :
    t.stages[0]? = some stage := by
  obtain ⟨hlength, -⟩ := List.getElem?_eq_some_iff.mp (h.stage_of_call hcall hopen)
  rw [hstages, h.number_eq_zero hcall hopen, List.getElem?_set_self hlength]

/-- While the routes are there no call has begun. -/
lemma runs_eq_nil (h : Sole s) (hfree : s.claimed = false) : s.runs = [] := by
  simpa [hfree, stages] using h.claimed_iff

/-- Once they are taken another call is not the first. -/
lemma stage_of_late (h : Sole s) (hclaimed : s.claimed = true) (call : RunCall) :
    (stages { s with runs := s.runs ++ [call] })[0]? = s.stages[0]? := by
  rw [stages, List.map_append]
  exact List.getElem?_append_left (List.length_pos_iff.mpr (h.claimed_iff.mp hclaimed))

lemma claimed_of_call (h : Sole s) (hcall : s.runs[number]? = some call) : s.claimed = true := by
  refine h.claimed_iff.mpr fun hnone => ?_
  have hstage := getElem?_stages hcall
  rw [hnone] at hstage
  cases hstage

/-- Nothing is decided about the calls. -/
lemma of_same (h : Sole s) (hstages : t.stages = s.stages) (hclaimed : t.claimed = s.claimed)
    (hdown : s.Down → t.Down) : Sole t where
  claimed_iff := by rw [hclaimed, hstages, h.claimed_iff]
  later := by rw [hstages]; exact h.later
  first := by rw [hstages]; exact h.first
  down := by rw [hstages]; exact fun hstage => hdown (h.down hstage)

/-- The first call, which has not ended, goes on. -/
lemma advance (h : Sole s) (hcall : s.runs[number]? = some call) (hopen : call.ending? = none)
    (hstages : t.stages = s.stages.set number stage) (hclaimed : t.claimed = s.claimed)
    (hlate : stage ≠ .ended (.failed alreadyStarted)) (hbegun : stage ≠ .claimed) : Sole t := by
  have hfirst := h.stage_of_set hcall hopen hstages
  obtain rfl := h.number_eq_zero hcall hopen
  refine ⟨?_, fun hlater => ?_, ?_, ?_⟩
  · rw [hclaimed, h.claimed_iff, hstages, Ne, Ne, List.set_eq_nil_iff]
  · rw [hstages, List.getElem?_set_ne (Nat.zero_ne_add_one _)] at hlater
    exact h.later hlater
  · rw [hfirst]
    exact fun heq => hlate (Option.some.inj heq)
  · rw [hfirst]
    rintro (heq | heq)
    · cases heq
    · exact absurd (Option.some.inj heq) hbegun

/-- **Every step keeps the first call alone with the routes.** -/
lemma step (h : Sole s) (hstep : Step server s label t) : Sole t := by
  cases hstep with
  | claim cancelled hfree =>
      have hnone := h.runs_eq_nil hfree
      have hdown := h.down (.inl (by simp [stages, hnone]))
      refine ⟨?_, ?_, ?_, fun _ => hdown.of_same rfl rfl rfl rfl⟩ <;> simp [stages, hnone]
  | late cancelled hclaimed =>
      have hstages : stages { s with
            runs := s.runs ++ [⟨.ended (.failed alreadyStarted), cancelled⟩] }
          = s.stages ++ [.ended (.failed alreadyStarted)] := by simp [stages]
      have hfirst := h.stage_of_late hclaimed ⟨.ended (.failed alreadyStarted), cancelled⟩
      refine ⟨?_, fun {number stage} hlater => ?_, ?_, ?_⟩
      · exact iff_of_true hclaimed (by rw [hstages]; exact List.concat_ne_nil _ _)
      · rw [hstages, List.getElem?_append] at hlater
        split at hlater
        · exact h.later hlater
        · exact List.mem_singleton.mp (List.mem_of_getElem? hlater)
      · rw [hfirst]
        exact h.first
      · rw [hfirst]
        exact fun hstage => (h.down hstage).of_same rfl rfl rfl rfl
  | giveUp hcall hfail =>
      refine h.advance hcall rfl (stages_setRun _ _) rfl ?_ nofun
      simpa using failure_ne_alreadyStarted hfail
  | clash hcall hclash => exact h.advance hcall rfl (stages_setRun _ _) rfl nofun nofun
  | serve hcall hclear => exact h.advance hcall rfl (stages_setRun _ _) rfl nofun nofun
  | cancel number =>
      exact h.of_same (stages_cancelRun _) rfl fun hdown => hdown.of_same rfl rfl rfl rfl
  | leave hcall hlive => exact h.advance hcall rfl (stages_setRun _ _) rfl nofun nofun
  | @lose number prefers cancelled ending hcall hover hnot =>
      refine h.advance hcall rfl (stages_setRun _ _) rfl ?_ nofun
      simpa using unexpectedEnd_ne_alreadyStarted ending
  | teardown deadline => exact h.of_same rfl rfl fun hdown => ⟨hdown.bound, hdown.task, rfl, rfl⟩
  | endTask ending hrunning =>
      refine h.of_same rfl rfl fun hdown => ?_
      rw [hdown.task] at hrunning
      cases hrunning
  | _ => exact h.of_same rfl rfl fun hdown => hdown.of_same rfl rfl rfl rfl

end Sole

/-- **Only the first call of the entry routine takes the routes**, whatever is done. -/
theorem sole_of_steps (h : steps? server {} labels = some s) : Sole s :=
  steps_induction (fun h hstep => h.step hstep) .initial h

/-- A server of its own routes alone. -/
def plainServer : Server := { address := .v4 [127, 0, 0, 1] 8080 }

end ServerState

end ServiceSupervisor.Http
