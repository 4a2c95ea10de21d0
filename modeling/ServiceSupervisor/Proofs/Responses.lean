import Mathlib.Data.List.Nodup
import ServiceSupervisor.Proofs.ServerSteps

/-!
What becomes of a request.

* `Http.Routes.serve_of_words`: a request for a path without parameters goes to the route of that
  path and method, whatever other routes there are;
* `Http.ServerState.serve_health`: so the health routes are reached beside any routes of an
  application that do not clash with them;
* `Http.Course.exists_reply`: within the time it has every request ends in a reply, which is a
  response unless the payload of a panic is volatile (`Http.Course.Volatile`);
* `Http.Accepted.Fits`: an accepted request is answered when its reply is due.  That holds of every
  request at any time (`Http.ServerState.attended_of_steps`).
-/

namespace ServiceSupervisor.Http

/-! ### Paths -/

lemma splitAtSlashes_ne_nil (cs : List Char) : splitAtSlashes cs ≠ [] := by
  induction cs with
  | nil => exact List.cons_ne_nil _ _
  | cons c cs ih =>
      rw [splitAtSlashes]
      split
      · exact List.cons_ne_nil _ _
      · obtain ⟨piece, pieces, hsplit⟩ := List.exists_cons_of_ne_nil ih
        rw [hsplit]
        exact List.cons_ne_nil _ _

/-- The pieces of a text with slashes between them are the text. -/
lemma intercalate_splitAtSlashes (cs : List Char) :
    ['/'].intercalate (splitAtSlashes cs) = cs := by
  induction cs with
  | nil => rfl
  | cons c cs ih =>
      obtain ⟨piece, pieces, hsplit⟩ := List.exists_cons_of_ne_nil (splitAtSlashes_ne_nil cs)
      rw [hsplit] at ih
      rw [splitAtSlashes, hsplit]
      split
      · rename_i hslash
        rw [hslash, List.intercalate, List.intersperse_cons_cons, List.flatten_cons,
          List.flatten_cons]
        exact congrArg ('/' :: ·) ih
      · cases pieces with
        | nil => simpa [List.intercalate] using ih
        | cons next pieces => simpa [List.intercalate] using ih

lemma splitAtSlashes_injective : Function.Injective splitAtSlashes :=
  Function.LeftInverse.injective intercalate_splitAtSlashes

lemma partsOf_injective : Function.Injective partsOf := by
  intro path path' h
  have hpieces := (List.map_inj_right fun _ _ heq => String.ofList_injective heq).mp h
  exact String.toList_injective (splitAtSlashes_injective hpieces)

/-- A segment that is a word is that part of the path. -/
lemma Segment.eq_of_ofText {part text : String} (h : Segment.ofText part = .word text) :
    part = text := by
  rw [ofText] at h
  split at h <;> cases h
  rfl

namespace Pattern

variable {parts : List String} {p : Pattern}

/-- The pattern of words alone. -/
def ofWords (parts : List String) : Pattern := parts.map .word

lemma fits_ofWords (parts : List String) : (ofWords parts).fits parts = true := by
  induction parts with
  | nil => rfl
  | cons part parts ih => simpa [ofWords, fits] using ih

/-- Words come before every other pattern that fits the same path. -/
lemma precedes_of_fits (h : p.fits parts = true) : (ofWords parts).precedes p = true := by
  induction parts generalizing p with
  | nil =>
      cases p with
      | nil => rfl
      | cons segment p => cases segment <;> simp [fits] at h
  | cons part parts ih =>
      cases p with
      | nil => cases h
      | cons segment p =>
          cases segment with
          | word text =>
              exact ih (Bool.and_eq_true_iff.mp h).2
          | parameter => rfl
          | rest => rfl

/-- No other pattern that fits the same path comes before words. -/
lemma eq_ofWords (h : p.fits parts = true) (hbefore : p.precedes (ofWords parts) = true) :
    p = ofWords parts := by
  induction parts generalizing p with
  | nil =>
      cases p with
      | nil => rfl
      | cons segment p => cases segment <;> simp [fits] at h
  | cons part parts ih =>
      cases p with
      | nil => cases h
      | cons segment p =>
          cases segment with
          | word text =>
              obtain ⟨htext, hrest⟩ := Bool.and_eq_true_iff.mp h
              rw [ih hrest hbefore, of_decide_eq_true htext]
              rfl
          | parameter => cases hbefore
          | rest => cases hbefore

/-- Only the text with these words as its parts stands for a pattern of words. -/
lemma eq_of_ofText_eq_ofWords {path path' : String} (h : ofText path = ofWords (partsOf path')) :
    path = path' := by
  refine partsOf_injective (List.ext_getElem? fun i => ?_)
  have hi := congrArg (·[i]?) h
  simp only [ofText, ofWords, List.getElem?_map] at hi
  cases hpart : (partsOf path)[i]? <;> cases htext : (partsOf path')[i]? <;>
    rw [hpart, htext] at hi
  · cases hi
  · cases hi
  · rw [Segment.eq_of_ofText (Option.some.inj hi)]

end Pattern

/-! ### Courses -/

/-- The handler panics, and the disposal of the payload panics as well. -/
def Course.Volatile (course : Course) : Prop :=
  ∃ after residue, course = .panics after (.volatile residue)

/-- A client gets no response only if the payload of a panic is volatile. -/
lemma Course.volatile_of_closed {course : Course} {after : Duration}
    (h : course.reply? = some (after, .closed)) : course.Volatile := by
  cases course with
  | answers after' response => simp [reply?] at h
  | panics after' payload =>
      cases payload with
      | volatile residue => exact ⟨after', residue, rfl⟩
      | text text => simp [reply?, recover, Payload.residue?] at h
      | value => simp [reply?, recover, Payload.residue?] at h
  | hangs => cases h

/-- **Within the time it has every request ends in a reply.** -/
theorem Course.exists_reply (limit : Duration) (course : Course) :
    ∃ after reply, (course.limited limit).reply? = some (after, reply) ∧
      after.millis ≤ limit.millis := by
  cases course with
  | answers after response =>
      rw [limited]
      split
      · exact ⟨after, .response response, rfl, Nat.le_of_lt ‹_›⟩
      · exact ⟨limit, .response .timedOut, rfl, Nat.le_refl _⟩
  | panics after payload =>
      rw [limited]
      split
      · exact ⟨after, (recover payload).2, rfl, Nat.le_of_lt ‹_›⟩
      · exact ⟨limit, .response .timedOut, rfl, Nat.le_refl _⟩
  | hangs => exact ⟨limit, .response .timedOut, rfl, Nat.le_refl _⟩

/-! ### Routes -/

namespace Routes

variable {r : Routes} {route other : Route} {request : Request}

/-- Whether routes clash shows in their methods and paths. -/
lemma clash?_eq (r more : Routes) : r.clash? more
    = (more.routes.map fun added => (added.method, added.path)).find? fun key =>
      r.routes.any fun route => route.method = key.1 && route.path = key.2 := by
  rw [clash?, List.find?_map]
  rfl

lemma mem_routesFor_iff {path : String} : other ∈ r.routesFor path ↔
    (other ∈ r.routes ∧ (Pattern.ofText other.path).fits (partsOf path) = true) ∧
      ∀ rival ∈ r.routes, (Pattern.ofText rival.path).fits (partsOf path) = true →
        (Pattern.ofText other.path).precedes (Pattern.ofText rival.path) = true := by
  simp only [routesFor, List.mem_filter, List.all_eq_true, and_imp]

/-- A route of words alone is one for its path. -/
lemma mem_routesFor (hmem : route ∈ r.routes)
    (hwords : Pattern.ofText route.path = .ofWords (partsOf route.path)) :
    route ∈ r.routesFor route.path := by
  rw [mem_routesFor_iff, hwords]
  exact ⟨⟨hmem, Pattern.fits_ofWords _⟩, fun rival _ hfits => Pattern.precedes_of_fits hfits⟩

/-- And there are no others for it than those of the same path. -/
lemma path_eq_of_mem_routesFor (hmem : route ∈ r.routes)
    (hwords : Pattern.ofText route.path = .ofWords (partsOf route.path))
    (hother : other ∈ r.routesFor route.path) : other.path = route.path := by
  obtain ⟨⟨-, hfits⟩, hbefore⟩ := mem_routesFor_iff.mp hother
  have hprecedes := hbefore route hmem (hwords ▸ Pattern.fits_ofWords _)
  rw [hwords] at hprecedes
  exact Pattern.eq_of_ofText_eq_ofWords (Pattern.eq_ofWords hfits hprecedes)

/-- **A request for a path without parameters goes to the route of that path and method**, whatever
other routes there are. -/
theorem serve_of_words (hmem : route ∈ r.routes)
    (hwords : Pattern.ofText route.path = .ofWords (partsOf route.path))
    (hmethod : request.method = route.method) (hpath : request.path = route.path)
    (hsole : ∀ other ∈ r.routes, other.method = route.method → other.path = route.path →
      other.handler = route.handler) :
    r.serve request = route.handler request := by
  have hroute := mem_routesFor hmem hwords
  have hfound : ((r.routesFor route.path).find? (·.method = request.method)).isSome = true :=
    List.find?_isSome.mpr ⟨route, hroute, by simp [hmethod]⟩
  obtain ⟨chosen, hchosen⟩ := Option.isSome_iff_exists.mp hfound
  have hsame : chosen.handler = route.handler := by
    have hin := List.mem_of_find?_eq_some hchosen
    have hits : chosen.method = request.method := by simpa using List.find?_some hchosen
    exact hsole chosen (mem_routesFor_iff.mp hin).1.1 (hits.trans hmethod)
      (path_eq_of_mem_routesFor hmem hwords hin)
  rw [serve, hpath]
  split
  · rename_i hnone
    rw [hnone] at hroute
    cases hroute
  · rw [hchosen, ← hsame]

end Routes

namespace ServerState

variable {server : Server} {s t : ServerState} {label : Label} {labels : List Label}

/-- The paths of the health routes. -/
def healthPaths : List String := ["/healthz", "/readyz", "/health"]

lemma map_path_healthRoutes (s : ServerState) :
    s.healthRoutes.routes.map Route.path = healthPaths := rfl

lemma words_of_mem_healthPaths :
    ∀ path ∈ healthPaths, Pattern.ofText path = .ofWords (partsOf path) := by
  decide

/-- The health routes have the same paths and methods at any time. -/
lemma clash?_healthRoutes (routes : Routes) (s t : ServerState) :
    routes.clash? s.healthRoutes = routes.clash? t.healthRoutes := by
  rw [Routes.clash?_eq, Routes.clash?_eq]
  rfl

/-- No route of the application is a health route as well. -/
lemma not_healthRoute_of_clash? {routes : Routes} (h : routes.clash? s.healthRoutes = none)
    {route health : Route} (hroute : route ∈ routes.routes)
    (hhealth : health ∈ s.healthRoutes.routes) :
    ¬(route.method = health.method ∧ route.path = health.path) := by
  intro hsame
  have hnone := List.find?_eq_none.mp (Option.map_eq_none_iff.mp h) health hhealth
  simp only [List.any_eq_true, Bool.and_eq_true, decide_eq_true_eq, not_exists, not_and] at hnone
  exact hnone route hroute hsame.1 hsame.2

/-- **The health routes are reached beside any routes of an application** that do not clash with
them. -/
theorem serve_health {routes : Routes} (h : routes.clash? s.healthRoutes = none) {health : Route}
    (hhealth : health ∈ s.healthRoutes.routes) {request : Request}
    (hmethod : request.method = health.method) (hpath : request.path = health.path) :
    (routes.merge s.healthRoutes).serve request = health.handler request := by
  have hwords := words_of_mem_healthPaths health.path
    (map_path_healthRoutes s ▸ List.mem_map_of_mem hhealth)
  refine Routes.serve_of_words (List.mem_append_right _ hhealth) hwords hmethod hpath ?_
  intro other hother hsame hpaths
  rcases List.mem_append.mp hother with happ | hown
  · exact absurd ⟨hsame, hpaths⟩ (not_healthRoute_of_clash? h happ hhealth)
  · have hnodup : (s.healthRoutes.routes.map Route.path).Nodup := by
      rw [map_path_healthRoutes]
      decide
    rw [List.inj_on_of_nodup_map hnodup hown hhealth hpaths]

end ServerState

/-! ### Accepted requests -/

/-- A connection is due to be closed only if the payload of a panic is volatile. -/
lemma Accepted.volatile_of_due? (a : Accepted) {due : Nat} (h : a.due? = some (due, .closed)) :
    a.course.Volatile := by
  obtain ⟨⟨after, reply⟩, hreply, heq⟩ := Option.map_eq_some_iff.mp h
  obtain ⟨-, rfl⟩ := Prod.mk.inj heq
  exact Course.volatile_of_closed hreply

/-- Where an accepted request stands: it is answered when its reply is due, which is within the time
that a request may take. -/
structure Accepted.Fits (limit : Duration) (now : Nat) (a : Accepted) : Prop where
  limited : ∃ course, a.course = Course.limited limit course
  answered : ∃ due reply, a.due? = some (due, reply) ∧ due ≤ a.arrival + limit.millis ∧
    (a.answer = some (due, reply) ∧ due ≤ now ∨ a.answer = none ∧ now ≤ due)

namespace Accepted.Fits

variable {limit : Duration} {now due : Nat} {a : Accepted} {reply : Reply}

/-- A request that has just come is to be answered. -/
lemma accept (limit : Duration) (request : Request) (now : Nat) (course : Course) :
    Fits limit now ⟨request, now, course.limited limit, none⟩ := by
  obtain ⟨after, reply, hreply, hafter⟩ := course.exists_reply limit
  refine ⟨⟨course, rfl⟩, now + after.millis, reply, ?_, Nat.add_le_add_left hafter now,
    .inr ⟨rfl, Nat.le_add_right _ _⟩⟩
  rw [due?, hreply]
  rfl

/-- A request is answered in time. -/
lemma answer (h : a.Fits limit now) (hdue : a.due? = some (due, reply)) (hnone : a.answer = none)
    (hnow : due ≤ now) : Fits limit now { a with answer := some (now, reply) } := by
  obtain ⟨hlimited, due', reply', hdue', hle, hanswer⟩ := h
  obtain ⟨rfl, rfl⟩ := Prod.mk.inj (Option.some.inj (hdue.symm.trans hdue'))
  have hwaits : now ≤ due := by
    rcases hanswer with ⟨hsome, -⟩ | ⟨-, hle⟩
    · rw [hnone] at hsome
      cases hsome
    · exact hle
  obtain rfl := Nat.le_antisymm hnow hwaits
  exact ⟨hlimited, due, reply, hdue, hle, .inl ⟨rfl, Nat.le_refl _⟩⟩

/-- Time passes, but not beyond the instant at which a request is due. -/
lemma pass (h : a.Fits limit now) {later : Nat} (hle : now ≤ later)
    (hwake : ∀ due reply, a.answer = none → a.due? = some (due, reply) → later ≤ due) :
    a.Fits limit later := by
  obtain ⟨hlimited, due, reply, hdue, hlimit, hanswer⟩ := h
  refine ⟨hlimited, due, reply, hdue, hlimit, ?_⟩
  rcases hanswer with ⟨hsome, hpast⟩ | ⟨hnone, -⟩
  · exact .inl ⟨hsome, Nat.le_trans hpast hle⟩
  · exact .inr ⟨hnone, hwake due reply hnone hdue⟩

end Accepted.Fits

namespace ServerState

variable {server : Server} {s t : ServerState} {label : Label} {labels : List Label}

/-- Every accepted request is answered when its reply is due. -/
def Attended (server : Server) (s : ServerState) : Prop :=
  ∀ a ∈ s.requests, a.Fits server.requestTimeout s.now

/-- An unanswered request is one of the things that time waits for. -/
lemma mem_wakes {a : Accepted} {due : Nat} {reply : Reply} (ha : a ∈ s.requests)
    (hnone : a.answer = none) (hdue : a.due? = some (due, reply)) : due ∈ s.wakes := by
  refine List.mem_append_left _ (List.mem_filterMap.mpr ⟨a, ha, ?_⟩)
  simp [hnone, hdue]

/-- **Every step keeps the requests attended to.** -/
lemma Attended.step (h : Attended server s) (hstep : Step server s label t) :
    Attended server t := by
  cases hstep with
  | accept request hrunning hopen =>
      intro a ha
      rcases List.mem_append.mp ha with ha | ha
      · exact h a ha
      · obtain rfl := List.mem_singleton.mp ha
        exact .accept server.requestTimeout request s.now _
  | answer hat hdue hnone hnow =>
      intro a ha
      rcases List.mem_or_eq_of_mem_set ha with ha | rfl
      · exact h a ha
      · exact (h _ (List.mem_of_getElem? hat)).answer hdue hnone hnow
  | @pass span hrest =>
      intro a ha
      refine (h a ha).pass (Nat.le_add_right _ span.millis) fun due reply hnone hdue => ?_
      exact hrest due (mem_wakes ha hnone hdue)
  | _ => exact h

/-- **Every request is answered when its reply is due**, whatever is done. -/
theorem attended_of_steps (h : steps? server {} labels = some s) : Attended server s :=
  steps_induction (fun h hstep => h.step hstep) (fun _ ha => absurd ha List.not_mem_nil) h

/-- A request whose reply is due can be answered. -/
lemma step?_answer {number due : Nat} {a : Accepted} {reply : Reply}
    (ha : s.requests[number]? = some a) (hdue : a.due? = some (due, reply))
    (hnone : a.answer = none) (hnow : due ≤ s.now) :
    s.step? server (.answer number) = some { s with
      requests := s.requests.set number { a with answer := some (s.now, reply) } } := by
  simp [step?, ServerState.answer, ha, hdue, hnone, hnow]

end ServerState

end ServiceSupervisor.Http
