import ServiceSupervisor.Proofs.ServerSteps

/-!
When a call of a server's entry routine is reported as one that comes too late.

The first call takes the routes before it tries to listen, and it does not give them back when that
comes to nothing.  So every call but the first fails as if a server had been started, also when
none has been.

* `Http.ServerState.Lost`: there is no server, and no call can start one any more; that lasts
  (`Http.ServerState.Lost.step`);
* `Http.ServerState.fails_as_started_iff`: which calls fail so, and what a failed start leaves.
-/

namespace ServiceSupervisor.Http

namespace ServerState

variable {server : Server} {s t : ServerState} {label : Label}

/-- There is no server, and no call can start one any more: the routes are gone, and every call that
has begun has ended. -/
structure Lost (s : ServerState) : Prop where
  claimed : s.claimed = true
  down : s.Down
  ended : ∀ stage ∈ s.stages, ∃ ending, stage = .ended ending

namespace Lost

lemma ending?_ne_none (h : Lost s) {number : Nat} {call : RunCall}
    (hcall : s.runs[number]? = some call) : call.ending? ≠ none := by
  obtain ⟨ending, hstage⟩ := h.ended call.stage (List.mem_of_getElem? (getElem?_stages hcall))
  simp [RunCall.ending?, hstage]

lemma of_same (h : Lost s) (hclaimed : t.claimed = s.claimed) (hdown : t.Down)
    (hstages : t.stages = s.stages) : Lost t :=
  ⟨hclaimed.trans h.claimed, hdown, by rw [hstages]; exact h.ended⟩

/-- **Whatever is done, no server is started any more.** -/
lemma step (h : Lost s) (hstep : Step server s label t) : Lost t := by
  have hdown := h.down
  cases hstep with
  | claim cancelled hfree => exact absurd h.claimed (by simp [hfree])
  | late cancelled hclaimed =>
      refine ⟨hclaimed, hdown.of_same rfl rfl rfl rfl, fun stage hstage => ?_⟩
      rw [stages, List.map_append] at hstage
      rcases List.mem_append.mp hstage with hstage | hstage
      · exact h.ended stage hstage
      · exact ⟨_, List.mem_singleton.mp hstage⟩
  | giveUp hcall hfail => exact absurd rfl (h.ending?_ne_none hcall)
  | clash hcall hclash => exact absurd rfl (h.ending?_ne_none hcall)
  | serve hcall hclear => exact absurd rfl (h.ending?_ne_none hcall)
  | leave hcall hlive => exact absurd rfl (h.ending?_ne_none hcall)
  | lose hcall hover hnot => exact absurd rfl (h.ending?_ne_none hcall)
  | cancel number => exact h.of_same rfl (hdown.of_same rfl rfl rfl rfl) (stages_cancelRun number)
  | teardown deadline => exact h.of_same rfl ⟨hdown.bound, hdown.task, rfl, rfl⟩ rfl
  | endTask ending hrunning =>
      rw [hdown.task] at hrunning
      cases hrunning
  | _ => exact h.of_same rfl (hdown.of_same rfl rfl rfl rfl) rfl

/-- No call tries to listen. -/
lemma step?_listen (h : Lost s) (number : Nat) (outcome : Listening) :
    s.step? server (.listen number outcome) = none := by
  rw [step?]
  split
  · exact absurd rfl (h.ending?_ne_none ‹_›)
  · rfl

end Lost

/-- Once a listener has been refused there is no server, and there will be none. -/
lemma Sole.lost_of_refused {number : Nat} {fault : SystemError} (h : Sole s)
    (hr : s.step? server (.listen number (.refused fault)) = some t) :
    t = s.setRun number (.ended (.failed (listenFailure server.address fault))) ∧ Lost t := by
  rw [step?] at hr
  split at hr
  case h_2 => cases hr
  case h_1 cancelled hcall =>
    obtain rfl := Option.some.inj hr
    have hdown := h.down (.inr (h.stage_of_call hcall rfl))
    have hfirst := h.stage_of_set hcall rfl
      (stages_setRun (s := s) number (.ended (.failed (listenFailure server.address fault))))
    refine ⟨rfl, h.claimed_of_call hcall, hdown.of_same rfl rfl rfl rfl, fun stage hstage => ?_⟩
    obtain ⟨place, hplace⟩ := List.mem_iff_getElem?.mp hstage
    cases place with
    | zero => exact ⟨_, Option.some.inj (hplace.symm.trans hfirst)⟩
    | succ place =>
        obtain rfl := h.number_eq_zero hcall rfl
        rw [listen, stages_setRun, List.getElem?_set_ne (Nat.zero_ne_add_one _)] at hplace
        exact ⟨_, h.later hplace⟩

/-- **A call of the entry routine fails as one that comes too late if and only if another one has
begun before it**, whatever has become of that one.  A call that cannot listen ends with its own
failure and changes nothing else; but the routes remain taken.  So from then on there is no server,
no call tries to listen again, and every one fails as if a server had been started. -/
theorem fails_as_started_iff (server : Server) (labels : List Label) {s : ServerState}
    (hs : steps? server {} labels = some s) :
    (∀ number call, s.runs[number]? = some call →
      (call.stage = .ended (.failed { root := "http server already started" }) ↔ 0 < number)) ∧
    ∀ number fault r, s.step? server (.listen number (.refused fault)) = some r →
      r = s.setRun number (.ended (.failed
        { root := fault.message
          contexts := ["HTTP server listen error on " ++ server.address.render] })) ∧
      ∀ later t, r.steps? server later = some t →
        t.claimed = true ∧ t.Down ∧
        (∀ number outcome, t.step? server (.listen number outcome) = none) ∧
        ∀ cancelled, t.step? server (.run cancelled) = some { t with
          runs := t.runs ++
            [⟨.ended (.failed { root := "http server already started" }), cancelled⟩] } := by
  have hsole := sole_of_steps hs
  refine ⟨fun number call hcall => ?_, fun number fault r hr => ?_⟩
  · have hstage := getElem?_stages hcall
    cases number with
    | zero =>
        exact iff_of_false (fun heq => hsole.first (hstage.trans (congrArg some heq)))
          (Nat.lt_irrefl 0)
    | succ number => exact iff_of_true (hsole.later hstage) (Nat.succ_pos number)
  · obtain ⟨heq, hlost⟩ := hsole.lost_of_refused hr
    refine ⟨heq, fun later t ht => ?_⟩
    have hlost := steps_induction (fun h hstep => h.step hstep) hlost ht
    exact ⟨hlost.claimed, hlost.down, hlost.step?_listen,
      fun cancelled => congrArg some (beginRun_of_claimed cancelled hlost.claimed)⟩

/-- Where something else listens, a second call fails as if the first one had started a server. -/
theorem failedStart_of_plainServer : ∃ s r t,
    steps? plainServer {} [.run false] = some s ∧
    s.step? plainServer (.listen 0 (.refused .addressInUse)) = some r ∧
    r.steps? plainServer [.run false] = some t ∧
    t.stages = [
      .ended (.failed
        { root := "Address already in use (os error 98)"
          contexts := ["HTTP server listen error on 127.0.0.1:8080"] }),
      .ended (.failed { root := "http server already started" })] ∧
    t.claimed = true ∧ t.Down ∧
    (∀ number outcome, t.step? plainServer (.listen number outcome) = none) ∧
    ∀ cancelled, t.step? plainServer (.run cancelled) = some { t with
      runs := t.runs ++
        [⟨.ended (.failed { root := "http server already started" }), cancelled⟩] } :=
  ⟨_, _, _, rfl, rfl, rfl, by decide, ((fails_as_started_iff plainServer [.run false] rfl).2 0
    .addressInUse _ rfl).2 [.run false] _ rfl⟩

end ServerState

end ServiceSupervisor.Http
