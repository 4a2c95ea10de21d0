import Mathlib.Data.List.Induction
import ServiceSupervisor.Proofs.Responses

/-!
What becomes of each request, whatever the others do.

* `Http.ServerState.Arrived`: the state in which an accepted request came;
* `Http.ServerState.exists_answered`: a request that waits for its reply can get it, whatever
  else the server waits for: nothing is due that does not get one thing less to wait for
  (`Http.ServerState.remaining`);
* `Http.Label.only`, `Http.ServerState.only`: the steps, and the state, without the requests that
  are not kept.  What is left of possible steps is possible and leads to what is left of the state
  (`Http.ServerState.steps?_only`), so no request depends on another, and nothing else depends on
  any;
* `Http.ServerState.requests_handled`: the theorem on requests.
-/

namespace ServiceSupervisor.Http

/-! ### Parts of a list -/

section Kept

variable {α : Type} {keep : Nat → Bool}

/-- The elements of a list whose places are kept. -/
def kept : (Nat → Bool) → List α → List α
  | _, [] => []
  | keep, a :: l =>
    if keep 0 then a :: kept (fun place => keep (place + 1)) l
    else kept (fun place => keep (place + 1)) l

/-- The place among those that are kept. -/
def rank (keep : Nat → Bool) (place : Nat) : Nat := (List.range place).countP keep

lemma rank_succ (keep : Nat → Bool) (place : Nat) : rank keep (place + 1)
    = rank (fun place => keep (place + 1)) place + if keep 0 then 1 else 0 := by
  rw [rank, List.range_succ_eq_map, List.countP_cons, List.countP_map]
  rfl

lemma kept_concat (keep : Nat → Bool) (l : List α) (a : α) :
    kept keep (l ++ [a]) = kept keep l ++ if keep l.length then [a] else [] := by
  induction l generalizing keep with
  | nil => rfl
  | cons b l ih =>
      rw [List.cons_append, kept, kept, ih, List.length_cons]
      split <;> rfl

lemma getElem?_kept {place : Nat} (l : List α) (hkeep : keep place = true) :
    (kept keep l)[rank keep place]? = l[place]? := by
  induction l generalizing keep place with
  | nil => rfl
  | cons a l ih =>
      rw [kept]
      cases place with
      | zero => rw [if_pos hkeep]; rfl
      | succ place =>
          rw [rank_succ, List.getElem?_cons_succ,
            ← @ih (fun place => keep (place + 1)) place hkeep]
          split <;> rfl

lemma kept_set {place : Nat} (l : List α) (a : α) (hkeep : keep place = true) :
    kept keep (l.set place a) = (kept keep l).set (rank keep place) a := by
  induction l generalizing keep place with
  | nil => rfl
  | cons b l ih =>
      cases place with
      | zero =>
          rw [List.set_cons_zero, kept, kept, if_pos hkeep, if_pos hkeep]
          rfl
      | succ place =>
          rw [List.set_cons_succ, kept, kept, @ih (fun place => keep (place + 1)) place hkeep,
            rank_succ]
          split <;> rfl

/-- A place that is not kept does not matter. -/
lemma kept_set_of_not {place : Nat} (l : List α) (a : α) (hkeep : keep place = false) :
    kept keep (l.set place a) = kept keep l := by
  induction l generalizing keep place with
  | nil => rfl
  | cons b l ih =>
      cases place with
      | zero => rw [List.set_cons_zero, kept, kept, hkeep]; rfl
      | succ place =>
          rw [List.set_cons_succ, kept, kept, @ih (fun place => keep (place + 1)) place hkeep]

lemma kept_subset (keep : Nat → Bool) (l : List α) : kept keep l ⊆ l := by
  induction l generalizing keep with
  | nil => exact List.Subset.refl []
  | cons a l ih =>
      rw [kept]
      split
      · exact List.cons_subset_cons a (ih _)
      · exact List.subset_cons_of_subset a (ih _)

lemma kept_none (l : List α) : kept (fun _ => false) l = [] := by
  induction l with
  | nil => rfl
  | cons a l ih => exact ih

end Kept

/-! ### Steps without some requests -/

namespace Label

/-- Whether a step is one of a request. -/
def ofRequest : Label → Bool
  | .accept _ | .answer _ => true
  | _ => false

/-- What is left of a step when only some requests are kept and so many have come before. -/
def only (keep : Nat → Bool) (count : Nat) : Label → List Label
  | .accept request => if keep count then [.accept request] else []
  | .answer number => if keep number then [.answer (rank keep number)] else []
  | label => [label]

/-- How many requests have come after a step. -/
def countAfter (count : Nat) : Label → Nat
  | .accept _ => count + 1
  | _ => count

end Label

/-- What is left of several steps. -/
def onlySteps (keep : Nat → Bool) : Nat → List Label → List Label
  | _, [] => []
  | count, label :: labels =>
    label.only keep count ++ onlySteps keep (label.countAfter count) labels

lemma onlySteps_none (count : Nat) (labels : List Label) :
    onlySteps (fun _ => false) count labels = labels.filter (!·.ofRequest) := by
  induction labels generalizing count with
  | nil => rfl
  | cons label labels ih =>
      rw [onlySteps, ih]
      cases label <;> rfl

namespace ServerState

variable {server : Server} {s t : ServerState} {label : Label} {labels : List Label}

/-- What is left of a server when only some requests are kept. -/
def only (keep : Nat → Bool) (s : ServerState) : ServerState :=
  { s with requests := kept keep s.requests }

lemma steps?_append (s : ServerState) (labels more : List Label) :
    s.steps? server (labels ++ more) = (s.steps? server labels).bind (·.steps? server more) := by
  induction labels generalizing s with
  | nil => rfl
  | cons label labels ih =>
      rw [List.cons_append, steps?, steps?]
      cases s.step? server label with
      | none => rfl
      | some next => exact ih next

lemma steps?_singleton (s : ServerState) (label : Label) :
    s.steps? server [label] = s.step? server label := by
  rw [steps?]
  cases s.step? server label <;> rfl

/-- What is done besides the requests does not look at them. -/
lemma step?_requests (s : ServerState) (requests : List Accepted) (hlabel : label.ofRequest = false)
    (hpass : ∀ span, label ≠ .pass span) :
    step? server { s with requests } label
      = (s.step? server label).map fun t => { t with requests } := by
  cases label with
  | run | cancel | teardown => rfl
  | listen number outcome =>
      simp only [step?]
      split
      · cases outcome with
        | bound address =>
            have hhealth : healthRoutes { s with requests, bound := some address }
                = healthRoutes { s with bound := some address } := rfl
            simp only [listen, Option.map_some, hhealth]
            split <;> rfl
        | refused | nameless => rfl
      · rfl
  | wakeRun number prefers =>
      simp only [step?, wakeRun]
      split
      · split
        · split <;> rfl
        · split <;> rfl
      · rfl
  | wakeTeardown number =>
      simp only [step?, wakeTeardown]
      split
      · split
        · rfl
        · split <;> rfl
      · rfl
  | accept | answer => cases hlabel
  | endTask ending =>
      simp only [step?, endTask]
      split <;> rfl
  | pass span => exact absurd rfl (hpass span)

/-- Nor does it change them. -/
lemma requests_of_step (hlabel : label.ofRequest = false) (h : Step server s label t) :
    t.requests = s.requests := by
  cases h with
  | accept | answer => cases hlabel
  | _ => rfl

lemma wakes_only_subset (keep : Nat → Bool) (s : ServerState) : (s.only keep).wakes ⊆ s.wakes := by
  refine List.append_subset.mpr ⟨fun wake hwake => ?_, List.subset_append_right _ _⟩
  obtain ⟨a, ha, hdue⟩ := List.mem_filterMap.mp hwake
  exact List.mem_append_left _ (List.mem_filterMap.mpr ⟨a, kept_subset keep s.requests ha, hdue⟩)

/-- What is left of a step besides the requests is the step. -/
lemma only_of_not_ofRequest (keep : Nat → Bool) (count : Nat) (hlabel : label.ofRequest = false) :
    label.only keep count = [label] ∧ label.countAfter count = count := by
  cases label with
  | accept | answer => cases hlabel
  | _ => exact ⟨rfl, rfl⟩

/-- It is as possible without some of the requests: time may pass even further. -/
lemma step?_only_of_not_ofRequest (keep : Nat → Bool) (hlabel : label.ofRequest = false)
    (h : s.step? server label = some t) :
    (s.only keep).step? server label = some (t.only keep) := by
  have hrequests := requests_of_step hlabel (step_of_step? h)
  by_cases hpass : ∃ span, label = .pass span
  · obtain ⟨span, rfl⟩ := hpass
    obtain ⟨hrest, h⟩ := Option.ite_none_right_eq_some.mp h
    obtain rfl := Option.some.inj h
    refine if_pos (List.all_eq_true.mpr fun wake hwake => ?_)
    exact List.all_eq_true.mp hrest wake (wakes_only_subset keep s hwake)
  · rw [only, step?_requests s _ hlabel fun span heq => hpass ⟨span, heq⟩, h, only, hrequests]
    rfl

/-- **What is left of a step is possible and leads to what is left of the state.** -/
lemma step?_only (keep : Nat → Bool) (h : s.step? server label = some t) :
    (s.only keep).steps? server (label.only keep s.requests.length) = some (t.only keep) ∧
      t.requests.length = label.countAfter s.requests.length := by
  cases hlabel : label.ofRequest with
  | false =>
      obtain ⟨honly, hcount⟩ := only_of_not_ofRequest keep s.requests.length hlabel
      rw [honly, hcount, steps?_singleton, requests_of_step hlabel (step_of_step? h)]
      exact ⟨step?_only_of_not_ofRequest keep hlabel h, rfl⟩
  | true =>
      cases step_of_step? h with
      | accept request hrunning hopen =>
          refine ⟨?_, List.length_append⟩
          rw [Label.only, only, only, kept_concat]
          split
          · rw [steps?_singleton]
            exact if_pos ⟨hrunning, by simp [hopen]⟩
          · rw [List.append_nil]
            rfl
      | @answer number due accepted reply hat hdue hnone hnow =>
          refine ⟨?_, List.length_set⟩
          rw [Label.only, only, only]
          split
          · rename_i hkeep
            rw [steps?_singleton, kept_set _ _ hkeep]
            exact step?_answer (s := s.only keep) ((getElem?_kept s.requests hkeep).trans hat) hdue
              hnone hnow
          · rename_i hkeep
            rw [kept_set_of_not _ _ (Bool.eq_false_iff.mpr hkeep)]
            rfl
      | _ => cases hlabel

/-- **What is left of possible steps is possible and leads to what is left of the state.** -/
theorem steps?_only (keep : Nat → Bool) (h : s.steps? server labels = some t) :
    (s.only keep).steps? server (onlySteps keep s.requests.length labels)
      = some (t.only keep) := by
  induction labels generalizing s with
  | nil => exact congrArg (fun u => some (only keep u)) (Option.some.inj h)
  | cons label labels ih =>
      obtain ⟨next, hnext, h⟩ := Option.bind_eq_some_iff.mp h
      obtain ⟨hfirst, hcount⟩ := step?_only keep hnext
      rw [onlySteps, steps?_append, hfirst, Option.bind_some, ← hcount]
      exact ih h

/-! ### Arrivals -/

/-- An accepted request came in this state, in the course of these steps. -/
structure Arrived (server : Server) (labels : List Label) (number : Nat) (a : Accepted)
    (t : ServerState) : Prop where
  /-- The state is that before the step that accepted it. -/
  reached : ∃ past later, labels = past ++ .accept a.request :: later ∧
    steps? server {} past = some t
  /-- It was the next request. -/
  next : number = t.requests.length
  /-- The server was up. -/
  up : t.task = .running ∧ t.stopping = false
  /-- The instant of the arrival is that of the state. -/
  arrival_eq : a.arrival = t.now
  /-- The course is that of its handler then, within the time it has. -/
  course_eq : a.course = t.courseOf server a.request

/-- It has done so also when more is done. -/
lemma Arrived.concat {number : Nat} {a : Accepted} (h : Arrived server labels number a t)
    (label : Label) : Arrived server (labels ++ [label]) number a t where
  reached := by
    obtain ⟨past, later, rfl, hpast⟩ := h.reached
    exact ⟨past, later ++ [label], by simp, hpast⟩
  next := h.next
  up := h.up
  arrival_eq := h.arrival_eq
  course_eq := h.course_eq

/-- An answer changes nothing about the arrival. -/
lemma Arrived.answered {number : Nat} {a : Accepted} (h : Arrived server labels number a t)
    (answer : Option (Nat × Reply)) : Arrived server labels number { a with answer } t :=
  ⟨h.reached, h.next, h.up, h.arrival_eq, h.course_eq⟩

/-- **Every accepted request came while the server was up**, and was given the course of its handler
at that time. -/
theorem exists_arrived (h : steps? server {} labels = some s) {number : Nat} {a : Accepted}
    (ha : s.requests[number]? = some a) : ∃ t, Arrived server labels number a t := by
  induction labels using List.reverseRecOn generalizing s a with
  | nil =>
      obtain rfl := Option.some.inj h
      cases ha
  | append_singleton labels label ih =>
      rw [steps?_append] at h
      obtain ⟨u, hu, h⟩ := Option.bind_eq_some_iff.mp h
      rw [steps?_singleton] at h
      have hold : ∀ {b : Accepted}, u.requests[number]? = some b →
          ∃ t, Arrived server (labels ++ [label]) number b t := fun hb =>
        (ih hu hb).imp fun t ht => ht.concat label
      cases hlabel : label.ofRequest with
      | false =>
          rw [requests_of_step hlabel (step_of_step? h)] at ha
          exact hold ha
      | true =>
          cases step_of_step? h with
          | accept request hrunning hopen =>
              rw [List.getElem?_append] at ha
              split at ha
              · exact hold ha
              · rename_i hlength
                have hzero : number - u.requests.length = 0 :=
                  Nat.lt_one_iff.mp (List.getElem?_eq_some_iff.mp ha).1
                rw [hzero] at ha
                obtain rfl := Option.some.inj ha
                exact ⟨u, ⟨labels, [], rfl, hu⟩, by omega, ⟨hrunning, hopen⟩, rfl, rfl⟩
          | @answer answered due accepted reply hat hdue hnone hnow =>
              rw [List.getElem?_set] at ha
              split at ha
              · rename_i heq
                subst heq
                obtain ⟨-, ha⟩ := Option.ite_none_right_eq_some.mp ha
                obtain rfl := Option.some.inj ha
                exact (hold hat).imp fun t ht => ht.answered _
              · exact hold ha
          | _ => cases hlabel

/-! ### Answers -/

/-- Nothing that the server waits for is overdue. -/
def Punctual (s : ServerState) : Prop := ∀ wake ∈ s.wakes, s.now ≤ wake

lemma mem_wakes_iff {wake : Nat} : wake ∈ s.wakes ↔
    (∃ a ∈ s.requests, a.answer = none ∧ ∃ reply, a.due? = some (wake, reply)) ∨
      .waiting wake ∈ s.teardowns := by
  rw [wakes, List.mem_append, List.mem_filterMap, List.mem_filterMap]
  refine or_congr (exists_congr fun a => and_congr_right fun _ => ?_) ?_
  · cases a.answer <;> simp
  · constructor
    · rintro ⟨call, hcall, heq⟩
      cases call <;> cases heq
      exact hcall
    · exact fun hcall => ⟨_, hcall, rfl⟩

/-- **Every step keeps the server punctual.** -/
lemma Punctual.step (h : Punctual s) (hstep : Step server s label t) : Punctual t := by
  intro wake hwake
  rcases mem_wakes_iff.mp hwake with ⟨a, ha, hnone, reply, hdue⟩ | hcall
  · have hold : a ∈ s.requests → s.now ≤ wake := fun ha =>
      h wake (mem_wakes_iff.mpr (.inl ⟨a, ha, hnone, reply, hdue⟩))
    cases hstep with
    | accept request hrunning hopen =>
        rcases List.mem_append.mp ha with ha | ha
        · exact hold ha
        · obtain rfl := List.mem_singleton.mp ha
          obtain ⟨_, -, heq⟩ := Option.map_eq_some_iff.mp hdue
          obtain ⟨rfl, -⟩ := Prod.mk.inj heq
          exact Nat.le_add_right _ _
    | answer hat hdue' hnone' hnow =>
        rcases List.mem_or_eq_of_mem_set ha with ha | rfl
        · exact hold ha
        · cases hnone
    | pass hrest => exact hrest wake (mem_wakes_iff.mpr (.inl ⟨a, ha, hnone, reply, hdue⟩))
    | _ => exact hold ha
  · have hold : .waiting wake ∈ s.teardowns → s.now ≤ wake := fun hcall =>
      h wake (mem_wakes_iff.mpr (.inr hcall))
    cases hstep with
    | teardown deadline =>
        rcases List.mem_append.mp hcall with hcall | hcall
        · exact hold hcall
        · have heq := List.mem_singleton.mp hcall
          split at heq
          · obtain rfl := TeardownCall.waiting.inj heq
            exact Nat.le_add_right _ _
          · cases heq
    | stop hat hover =>
        exact hold ((List.mem_or_eq_of_mem_set hcall).resolve_right nofun)
    | expire hat hlive hdue =>
        exact hold ((List.mem_or_eq_of_mem_set hcall).resolve_right nofun)
    | pass hrest => exact hrest wake (mem_wakes_iff.mpr (.inr hcall))
    | _ => exact hold hcall

lemma punctual_of_steps (h : steps? server {} labels = some s) : Punctual s :=
  steps_induction (fun h hstep => h.step hstep) (fun _ hwake => absurd hwake List.not_mem_nil) h

/-- How many things the server waits for. -/
def remaining (s : ServerState) : Nat :=
  s.requests.countP (·.answer.isNone) + s.teardowns.countP (·.ending?.isNone)

/-- What is set to something that does not count counts no more. -/
lemma countP_set_lt {α : Type} {p : α → Bool} {l : List α} {place : Nat} {a b : α}
    (hat : l[place]? = some b) (hb : p b = true) (ha : p a = false) :
    (l.set place a).countP p < l.countP p := by
  obtain ⟨hplace, hget⟩ := List.getElem?_eq_some_iff.mp hat
  have hpos : 0 < l.countP p := List.countP_pos_iff.mpr ⟨b, List.mem_of_getElem? hat, hb⟩
  rw [List.countP_set hplace, hget, if_pos hb, ha]
  exact Nat.sub_lt hpos Nat.one_pos

/-- A teardown whose time is over can go on, since the server task has ended or it has not. -/
lemma step?_wakeTeardown (server : Server) {number until_ : Nat}
    (hcall : s.teardowns[number]? = some (.waiting until_)) (hdue : until_ ≤ s.now) :
    ∃ ending, s.step? server (.wakeTeardown number)
      = some { s with teardowns := s.teardowns.set number (.ended ending) } := by
  rw [step?, wakeTeardown, hcall]
  dsimp only
  cases s.task.ending? with
  | none => exact ⟨_, if_pos hdue⟩
  | some ending => exact ⟨_, rfl⟩

/-- What is due can be done, and then there is one thing less to wait for; a request that is due at
another time still waits. -/
lemma exists_step_of_due (server : Server) {number due wake : Nat} {a : Accepted}
    {reply : Reply} (ha : s.requests[number]? = some a)
    (hdue : a.due? = some (due, reply)) (hwake : wake ∈ s.wakes) (hnow : wake = s.now)
    (hne : wake ≠ due) : ∃ label t, s.step? server label = some t ∧ t.remaining < s.remaining ∧
      t.requests[number]? = some a := by
  rcases mem_wakes_iff.mp hwake with ⟨b, hb, hnone, reply', hdue'⟩ | hcall
  · obtain ⟨other, hother⟩ := List.getElem?_of_mem hb
    refine ⟨.answer other, _, step?_answer hother hdue' hnone (Nat.le_of_eq hnow), ?_, ?_⟩
    · exact Nat.add_lt_add_right (countP_set_lt hother (by simp [hnone]) rfl) _
    · have hplace : other ≠ number := by
        rintro rfl
        obtain rfl := Option.some.inj (hother.symm.trans ha)
        exact hne (Prod.mk.inj (Option.some.inj (hdue'.symm.trans hdue))).1
      exact (List.getElem?_set_ne hplace).trans ha
  · obtain ⟨call, hcall⟩ := List.getElem?_of_mem hcall
    obtain ⟨ending, hstep⟩ := step?_wakeTeardown server hcall (Nat.le_of_eq hnow)
    exact ⟨.wakeTeardown call, _, hstep, Nat.add_lt_add_left (countP_set_lt hcall rfl rfl) _, ha⟩

/-- Time can pass until something is due. -/
lemma exists_pass (server : Server) {wake : Nat} (hle : s.now ≤ wake)
    (hfirst : ∀ other ∈ s.wakes, wake ≤ other) : ∃ span t, s.step? server (.pass span) = some t ∧
      t.now = wake ∧ t.requests = s.requests ∧ t.wakes = s.wakes ∧ t.remaining = s.remaining := by
  have hnow : s.now + (wake - s.now) = wake := Nat.add_sub_cancel' hle
  refine ⟨⟨wake - s.now⟩, { s with now := wake }, ?_, rfl, rfl, rfl, rfl⟩
  rw [step?, hnow]
  exact if_pos (by simpa using hfirst)

/-- **A request that waits for its reply can get it**, whatever else the server waits for. -/
theorem exists_answered (server : Server) (hs : Punctual s) {number due : Nat} {a : Accepted}
    {reply : Reply} (ha : s.requests[number]? = some a) (hnone : a.answer = none)
    (hdue : a.due? = some (due, reply)) : ∃ more t, s.steps? server more = some t ∧
      t.requests[number]? = some { a with answer := some (due, reply) } := by
  induction hcount : s.remaining using Nat.strongRecOn generalizing s with
  | ind count ih =>
    have hmem : due ∈ s.wakes :=
      mem_wakes_iff.mpr (.inl ⟨a, List.mem_of_getElem? ha, hnone, reply, hdue⟩)
    -- What is due first is the request itself, or something that can be done before it.
    obtain ⟨wake, hmin⟩ := Option.isSome_iff_exists.mp (List.isSome_min?_of_mem hmem)
    obtain ⟨hwake, hfirst⟩ := List.min?_eq_some_iff.mp hmin
    obtain ⟨span, u, hpass, hnow, hrequests, hwakes, hremaining⟩ :=
      exists_pass server (hs wake hwake) hfirst
    rw [← hrequests] at ha
    rw [← hwakes] at hwake
    by_cases heq : wake = due
    · have hanswer : u.step? server (.answer number) = _ :=
        step?_answer ha hdue hnone (Nat.le_of_eq (heq.symm.trans hnow.symm))
      have hboth : s.steps? server [.pass span, .answer number]
          = u.step? server (.answer number) := by
        rw [steps?, hpass, Option.bind_eq_bind, Option.bind_some, steps?_singleton]
      refine ⟨_, _, hboth.trans hanswer, ?_⟩
      rw [hnow, heq]
      exact List.getElem?_set_self (List.getElem?_eq_some_iff.mp ha).1
    · obtain ⟨label, t, hstep, hless, hkept⟩ :=
        exists_step_of_due server ha hdue hwake hnow.symm heq
      obtain ⟨more, v, hmore, hv⟩ := ih t.remaining (hcount ▸ hremaining ▸ hless)
        ((hs.step (step_of_step? hpass)).step (step_of_step? hstep)) hkept rfl
      refine ⟨.pass span :: label :: more, v, ?_, hv⟩
      rw [steps?, hpass, Option.bind_eq_bind, Option.bind_some, steps?, hstep]
      exact hmore

/-! ### The theorem on requests -/

/-- A request gets a reply at an instant: it has got it then, or it waits, the instant is not over,
and it can still get it then. -/
def Gets (server : Server) (s : ServerState) (number : Nat) (a : Accepted) (due : Nat)
    (reply : Reply) : Prop :=
  a.answer = some (due, reply) ∧ due ≤ s.now ∨
    a.answer = none ∧ s.now ≤ due ∧ ∃ more t, s.steps? server more = some t ∧
      t.requests[number]? = some { a with answer := some (due, reply) }

/-- What becomes of a request that came in the state `t`. -/
structure Handled (server : Server) (s t : ServerState) (number : Nat) (a : Accepted) : Prop where
  /-- A handler that answers in time gives the response. -/
  own : ∀ after response,
    (server.routes.merge t.healthRoutes).serve a.request = .answers after response →
    after.millis < server.requestTimeout.millis →
    s.Gets server number a (t.now + after.millis) (.response response)
  /-- The panic of one that panics in time is logged, with its text if it has one. -/
  logged : ∀ after payload,
    (server.routes.merge t.healthRoutes).serve a.request = .panics after payload →
    after.millis < server.requestTimeout.millis →
    a.course.panicText? = some (payload.text?.getD "unknown panic")
  /-- The response is status 500 then, unless the payload is volatile. -/
  panicked : ∀ after payload,
    (server.routes.merge t.healthRoutes).serve a.request = .panics after payload →
    after.millis < server.requestTimeout.millis → (∀ residue, payload ≠ .volatile residue) →
    s.Gets server number a (t.now + after.millis) (.response { status := 500 })
  /-- If it is, the connection is closed at that instant without a response. -/
  lost : ∀ after residue,
    (server.routes.merge t.healthRoutes).serve a.request = .panics after (.volatile residue) →
    after.millis < server.requestTimeout.millis →
    s.Gets server number a (t.now + after.millis) .closed
  /-- Any other is cut off with status 408 when the time of the request is over, and does not panic
  after it. -/
  late : (∀ after response,
      (server.routes.merge t.healthRoutes).serve a.request = .answers after response →
      server.requestTimeout.millis ≤ after.millis) →
    (∀ after payload,
      (server.routes.merge t.healthRoutes).serve a.request = .panics after payload →
      server.requestTimeout.millis ≤ after.millis) →
    s.Gets server number a (t.now + server.requestTimeout.millis) (.response { status := 408 }) ∧
      a.course.panicText? = none

/-- A request gets its reply when it is due. -/
lemma gets_of_due (h : steps? server {} labels = some s) {number due : Nat} {a : Accepted}
    {reply : Reply} (ha : s.requests[number]? = some a) (hdue : a.due? = some (due, reply)) :
    s.Gets server number a due reply := by
  obtain ⟨due', reply', hdue', -, hanswer⟩ :=
    (attended_of_steps h a (List.mem_of_getElem? ha)).answered
  obtain ⟨rfl, rfl⟩ := Prod.mk.inj (Option.some.inj (hdue.symm.trans hdue'))
  refine hanswer.imp_right fun ⟨hnone, hnow⟩ => ⟨hnone, hnow, ?_⟩
  exact exists_answered server (punctual_of_steps h) ha hnone hdue

/-- A request that came gets the reply that the course of its handler leads to. -/
lemma Arrived.gets (h : steps? server {} labels = some s) {number : Nat} {a : Accepted}
    (ha : s.requests[number]? = some a) (harrived : Arrived server labels number a t)
    {after : Duration} {reply : Reply}
    (hcourse : (t.courseOf server a.request).reply? = some (after, reply)) :
    s.Gets server number a (t.now + after.millis) reply := by
  refine gets_of_due h ha ?_
  rw [Accepted.due?, harrived.course_eq, hcourse, harrived.arrival_eq]
  rfl

/-- A handler that panics in time panics as it would without a limit. -/
lemma courseOf_panics {request : Request} {after : Duration} {payload : Payload}
    (hserve : (server.routes.merge t.healthRoutes).serve request = .panics after payload)
    (hafter : after.millis < server.requestTimeout.millis) :
    t.courseOf server request = .panics after payload := by
  rw [courseOf, hserve, Course.limited, if_pos hafter]

lemma Arrived.handled (h : steps? server {} labels = some s) {number : Nat} {a : Accepted}
    (ha : s.requests[number]? = some a) (harrived : Arrived server labels number a t) :
    Handled server s t number a where
  own := fun after response hserve hafter => by
    refine harrived.gets h ha ?_
    rw [courseOf, hserve, Course.limited, if_pos hafter]
    rfl
  logged := fun after payload hserve hafter => by
    rw [harrived.course_eq, courseOf_panics hserve hafter]
    rfl
  panicked := fun after payload hserve hafter hquiet => by
    refine harrived.gets h ha ?_
    rw [courseOf_panics hserve hafter]
    cases payload with
    | volatile residue => exact absurd rfl (hquiet residue)
    | text content => rfl
    | value => rfl
  lost := fun after residue hserve hafter =>
    harrived.gets h ha (by rw [courseOf_panics hserve hafter]; rfl)
  late := fun hanswers hpanics => by
    have hcourse : t.courseOf server a.request = .answers server.requestTimeout .timedOut := by
      rw [courseOf]
      cases hserve : (server.routes.merge t.healthRoutes).serve a.request with
      | answers after response => exact if_neg (Nat.not_lt.mpr (hanswers after response hserve))
      | panics after payload => exact if_neg (Nat.not_lt.mpr (hpanics after payload hserve))
      | hangs => rfl
    refine ⟨harrived.gets h ha (by rw [hcourse]; rfl), ?_⟩
    rw [harrived.course_eq, hcourse]
    rfl

/-- **What becomes of the requests.**  Whatever is done with a server, and however its requests
overlap: each accepted one, for a route of the application or a health route, came while the server
was up, and gets the response of its handler if that comes in time, status 500 if the handler panics
in time, and otherwise status 408 at the end of its time; but if the handler panics with a volatile
payload the recovery panics as well, and the connection is closed without a response.  No request
depends on others: without any of them the same steps are possible, and lead to the same state of
all that is left.  And without any request at all the server task, the readiness and the calls are
the same. -/
theorem requests_handled (server : Server) (labels : List Label) {s : ServerState}
    (h : steps? server {} labels = some s) :
    (∀ number a, s.requests[number]? = some a →
      ∃ t, Arrived server labels number a t ∧ Handled server s t number a) ∧
    (∀ keep, steps? server {} (onlySteps keep 0 labels) = some (s.only keep)) ∧
    steps? server {} (labels.filter (!·.ofRequest)) = some { s with requests := [] } := by
  refine ⟨fun number a ha => ?_, fun keep => steps?_only keep h, ?_⟩
  · obtain ⟨t, harrived⟩ := exists_arrived h ha
    exact ⟨t, harrived, harrived.handled h ha⟩
  · have hnone := steps?_only (fun _ => false) h
    rw [onlySteps_none] at hnone
    refine hnone.trans ?_
    rw [only, kept_none]

/-- A server whose handlers answer, panic in time, panic with a volatile payload, panic too late,
and hang. -/
def mixedServer : Server :=
  { plainServer with
    requestTimeout := ⟨100⟩
    routes := { routes := [⟨"GET", "/fast", fun _ => .answers ⟨10⟩ (.text 200 "fast")⟩,
      ⟨"GET", "/panic", fun _ => .panics ⟨20⟩ (.text "boom")⟩,
      ⟨"GET", "/volatile", fun _ => .panics ⟨20⟩ (.volatile .value)⟩,
      ⟨"GET", "/late", fun _ => .panics ⟨500⟩ .value⟩, ⟨"GET", "/stuck", fun _ => .hangs⟩] } }

/-- Overlapping requests to all of them and to a health route. -/
def mixedRequests : List Label :=
  [.run false, .listen 0 (.bound plainServer.address), .accept { target := "/stuck" },
    .accept { target := "/panic" }, .pass ⟨5⟩, .accept { target := "/fast" },
    .accept { target := "/late" }, .accept { target := "/volatile" }, .pass ⟨10⟩, .answer 2,
    .accept { target := "/readyz" }, .answer 5, .pass ⟨5⟩, .answer 1, .pass ⟨5⟩, .answer 4,
    .pass ⟨75⟩, .answer 0, .pass ⟨5⟩, .answer 3]

/-- Each of those requests gets its own reply, and the panics in time are the only ones logged. -/
theorem mixedServer_handles : ∃ s, steps? mixedServer {} mixedRequests = some s ∧
    s.requests.map (·.answer) = [some (100, .response { status := 408 }),
      some (20, .response { status := 500 }), some (15, .response (.text 200 "fast")),
      some (105, .response { status := 408 }), some (25, .closed),
      some (15, .response { status := 200 })] ∧
    s.panicLog = ["boom", "unknown panic"] ∧
    steps? mixedServer {} (mixedRequests.filter (!·.ofRequest))
      = some { s with requests := [] } :=
  ⟨_, rfl, rfl, rfl, (requests_handled mixedServer mixedRequests rfl).2.2⟩

/-- A handler that panics with a volatile payload, twenty milliseconds after its request and well
within the time that it may take, does not answer with status 500. -/
theorem volatile_unanswered : ∃ s, steps? mixedServer {} [.run false,
      .listen 0 (.bound plainServer.address), .accept { target := "/volatile" }, .pass ⟨20⟩,
      .answer 0] = some s ∧ s.task = .running ∧
    s.requests.map (·.answer) = [some (20, .closed)] ∧
    s.requests.map (·.answer) ≠ [some (20, .response { status := 500 })] :=
  ⟨_, rfl, rfl, rfl, nofun⟩

end ServerState

end ServiceSupervisor.Http
