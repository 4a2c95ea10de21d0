import ServiceSupervisor.Proofs.ServerLife

/-!
What a teardown that ends well tells of the server.

The first teardown takes the server task and waits for its end.  Every later one finds no task to
wait for and ends well at once, also while the first one still waits or after it has given up.  So
only the first tells that the server is at rest.

* `Http.ServerState.AtRest`: nothing is served any more, and nothing will be;
* `Http.ServerState.graceful`: the rule of a graceful shutdown, under which the server task ends
  when every request is answered (`Http.ServerState.quiet_of_steps`);
* `Http.ServerState.teardown_ends_well`: what holds when a teardown has ended well.
-/

namespace ServiceSupervisor.Http

namespace ServerState

variable {server : Server} {s t : ServerState} {label : Label} {labels : List Label}

/-- Nothing is served any more, and nothing will be. -/
structure AtRest (server : Server) (s : ServerState) : Prop where
  task : s.task ≠ .running
  answered : s.allAnswered = true
  closed : ∀ request, s.step? server (.accept request) = none

/-- Whenever the server task does not run, every request is answered. -/
def Quiet (s : ServerState) : Prop := s.task ≠ .running → s.allAnswered = true

/-- An answer leaves no more requests open than there were. -/
lemma allAnswered_set {number : Nat} {a : Accepted} (h : s.allAnswered = true)
    (ha : a.answer.isSome = true) :
    allAnswered { s with requests := s.requests.set number a } = true := by
  refine List.all_eq_true.mpr fun other hother => ?_
  rcases List.mem_or_eq_of_mem_set hother with hother | rfl
  · exact List.all_eq_true.mp h other hother
  · exact ha

/-- The rule of a graceful shutdown: the server task ends well, when it has been told to stop and
every request is answered. -/
def graceful (s : ServerState) : Label → Bool
  | .endTask ending => ending = .finished && s.stopping && s.allAnswered
  | _ => true

/-- **Every step of a graceful shutdown leaves a server quiet.** -/
lemma Quiet.step (h : Quiet s) (hrule : s.graceful label = true) (hstep : Step server s label t) :
    Quiet t := by
  cases hstep with
  | serve hcall hclear => exact fun hnot => absurd rfl hnot
  | accept request hrunning hopen => exact fun hnot => absurd hrunning hnot
  | answer hat hdue hnone hnow => exact fun hnot => allAnswered_set (h hnot) rfl
  | endTask ending hrunning => exact fun _ => (Bool.and_eq_true_iff.mp hrule).2
  | _ => exact h

lemma quiet_of_steps (h : steps? server {} labels = some s)
    (hrule : keeps server graceful {} labels = true) : Quiet s :=
  keeps_induction (fun h hrule hstep => h.step hrule hstep) (fun _ => rfl) h hrule

/-- A quiet server without a task that runs is at rest. -/
lemma Quiet.atRest (h : Quiet s) (htask : s.task ≠ .running) : AtRest server s :=
  ⟨htask, h htask, fun request => by simp [step?, accept, htask]⟩

namespace Life

/-- Once a teardown has begun, another one ends well at once and changes nothing. -/
lemma step?_teardown (h : Life server s) (htorn : s.teardowns ≠ []) (deadline : Duration) :
    s.step? server (.teardown deadline)
      = some { s with teardowns := s.teardowns ++ [.ended .finished] } := by
  have hready : s.ready = false :=
    Bool.eq_false_iff.mpr fun hready => htorn (h.ready_iff.mp hready).2
  have hhandle : s.handle = false :=
    Bool.eq_false_iff.mpr fun hhandle => htorn (h.handle_iff.mp hhandle).1
  have hstopping := h.stopping_iff.mpr htorn
  simp [step?, beginTeardown, hready, hhandle, hstopping]

/-- While the server task runs, the first teardown has not ended well: it waits, or it has given
up. -/
lemma first_of_running (h : Life server s) (htask : s.task = .running) (htorn : s.teardowns ≠ []) :
    ∃ first, s.teardowns[0]? = some first ∧
      ((∃ until_, first = .waiting until_) ∨ first = .ended (.failed stopTimedOut)) := by
  cases h.standing with
  | down _ _ hdown => simp [hdown] at htask
  | serving _ _ _ _ _ _ hnone => exact absurd hnone htorn
  | left _ _ _ _ _ _ hnone => exact absurd hnone htorn
  | @stopping first later _ _ _ _ hfirsts hfirst _ =>
      refine ⟨first, by rw [hfirsts]; rfl, ?_⟩
      cases first with
      | waiting until_ => exact .inl ⟨until_, rfl⟩
      | ended ending =>
          rcases hfirst ending rfl with rfl | ⟨taskEnding, hended, -⟩
          · exact .inr rfl
          · simp [htask] at hended

end Life

/-- **When a teardown has ended well**, the server is at rest, unless the call is not the first one
and the first still waits for the server task or has given it up: then the task may run on.  For
every call after the first ends well at once and changes nothing, whatever the server does. -/
theorem teardown_ends_well (server : Server) (labels : List Label) {s : ServerState}
    (hs : steps? server {} labels = some s) (horder : keeps server inOrder {} labels = true)
    (hgraceful : keeps server graceful {} labels = true) :
    (∀ number, s.teardowns[number]? = some (.ended .finished) → AtRest server s ∨
      0 < number ∧ s.task = .running ∧ ∃ first, s.teardowns[0]? = some first ∧
        ((∃ until_, first = .waiting until_) ∨
          first = .ended (.failed { root := "HTTP server shutdown timed out" }))) ∧
    (s.teardowns ≠ [] → ∀ deadline, s.step? server (.teardown deadline)
      = some { s with teardowns := s.teardowns ++ [.ended .finished] }) := by
  have hlife := life_of_steps hs horder
  refine ⟨fun number hended => ?_, hlife.step?_teardown⟩
  by_cases htask : s.task = .running
  · obtain ⟨first, hfirst, hopen⟩ :=
      hlife.first_of_running htask (List.ne_nil_of_mem (List.mem_of_getElem? hended))
    refine .inr ⟨Nat.pos_of_ne_zero ?_, htask, first, hfirst, hopen⟩
    rintro rfl
    obtain rfl := Option.some.inj (hfirst.symm.trans hended)
    rcases hopen with ⟨until_, heq⟩ | heq <;> cases heq
  · exact .inl ((quiet_of_steps hs hgraceful).atRest htask)

/-- A server with a route that never answers. -/
def stuckServer : Server :=
  { plainServer with routes := { routes := [⟨"GET", "/stuck", fun _ => .hangs⟩] } }

/-- A request to that route, the cancellation of the server, and a teardown that gives up. -/
def givenUp : List Label :=
  [.run false, .listen 0 (.bound plainServer.address), .accept { target := "/stuck" }, .cancel 0,
    .wakeRun 0 true, .teardown .zero, .wakeTeardown 0]

/-- A second teardown of that server ends well while its task runs and a request is open. -/
theorem stuckServer_ends_well : ∃ s t, steps? stuckServer {} givenUp = some s ∧
    s.step? stuckServer (.teardown (.ofSecs 10)) = some t ∧
    t.teardowns = [.ended (.failed { root := "HTTP server shutdown timed out" }),
      .ended .finished] ∧
    t.task = .running ∧ t.allAnswered = false :=
  ⟨_, _, rfl, (teardown_ends_well stuckServer givenUp rfl rfl rfl).2 nofun _, rfl, rfl, rfl⟩

end ServerState

end ServiceSupervisor.Http
