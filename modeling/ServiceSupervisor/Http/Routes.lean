import ServiceSupervisor.Http.Message

/-!
Routes: which handler a request goes to.

* `Segment`, `Pattern`: the path of a route, whose parts are words, parameters, or the rest;
* `Routes`: the routes and what an unknown path is answered with;
* `Routes.serve`: the course of a request;
* `Routes.clash?`, `Routes.repeated?`: a route that two sets of routes both have, or one set twice.

Of several patterns that fit a path the one with the earliest word counts.  A path that no route
takes is answered with status 404 and a method that its routes do not take with status 405.  A
route for `GET` takes `HEAD` as well, without a body in the answer.
-/

namespace ServiceSupervisor.Http

/-- The pieces of a text between its slashes. -/
def splitAtSlashes : List Char → List (List Char)
  | [] => [[]]
  | c :: cs =>
    if c = '/' then [] :: splitAtSlashes cs else (splitAtSlashes cs).modifyHead (c :: ·)

/-- The parts of a path. -/
def partsOf (path : String) : List String := (splitAtSlashes path.toList).map String.ofList

/-- A part of the path of a route. -/
inductive Segment
  /-- A part that must be this word. -/
  | word (text : String)
  /-- Any part that is not empty. -/
  | parameter
  /-- All parts that are left, which are not empty together. -/
  | rest
deriving DecidableEq, Repr, Inhabited

/-- The path of a route, part by part. -/
abbrev Pattern := List Segment

/-- What a part of the path of a route stands for. -/
def Segment.ofText (text : String) : Segment :=
  match text.toList, text.toList.getLast? with
  | '\x7b' :: '*' :: _, some '\x7d' => .rest
  | '\x7b' :: _, some '\x7d' => .parameter
  | _, _ => .word text

namespace Pattern

/-- The pattern that a text stands for. -/
def ofText (path : String) : Pattern := (partsOf path).map Segment.ofText

/-- Whether the parts of a path fit a pattern. -/
def fits : Pattern → List String → Bool
  | [], [] => true
  | .word text :: pattern, part :: parts => text = part && fits pattern parts
  | .parameter :: pattern, part :: parts => !part.isEmpty && fits pattern parts
  | [.rest], part :: parts => !(part.isEmpty && parts.isEmpty)
  | _, _ => false

/-- Whether a pattern comes before another one that fits the same path, or is of the same form:
where they first differ in form, it has a word, or else a parameter. -/
def precedes : Pattern → Pattern → Bool
  | .word _ :: _, .parameter :: _ | .word _ :: _, .rest :: _ | .parameter :: _, .rest :: _ => true
  | .word _ :: p, .word _ :: q | .parameter :: p, .parameter :: q => precedes p q
  | .rest :: _, .rest :: _ | [], _ => true
  | _, _ => false

end Pattern

/-- A route. -/
structure Route where
  /-- The method. -/
  method : String
  /-- The path. -/
  path : String
  /-- What the handler makes of a request. -/
  handler : Request → Course

/-- The routes of a service. -/
structure Routes where
  /-- The routes, in the order in which they were added. -/
  routes : List Route := []
  /-- What an unknown path is answered with. -/
  fallback : Response := .ofStatus 404

namespace Routes

/-- One set of routes after another. -/
def merge (r more : Routes) : Routes := { r with routes := r.routes ++ more.routes }

/-- The first of the routes `more` that is a route already: its method and its path. -/
def clash? (r more : Routes) : Option (String × String) :=
  (more.routes.find? fun added =>
    r.routes.any fun route => route.method = added.method && route.path = added.path).map
    fun added => (added.method, added.path)

/-- The first route that an earlier one has made already: its method and its path. -/
def repeated? (r : Routes) : Option (String × String) :=
  (List.range r.routes.length).findSome? fun count =>
    clash? ⟨r.routes.take count, r.fallback⟩ ⟨(r.routes.drop count).take 1, r.fallback⟩

/-- The routes for a path: those whose pattern fits it best. -/
def routesFor (r : Routes) (path : String) : List Route :=
  let parts := partsOf path
  let fitting := r.routes.filter fun route => (Pattern.ofText route.path).fits parts
  fitting.filter fun route =>
    fitting.all fun other => (Pattern.ofText route.path).precedes (Pattern.ofText other.path)

/-- The methods that routes take, in their order. -/
def methods (routes : List Route) : String :=
  ",".intercalate
    (routes.map fun route => if route.method = "GET" then "GET,HEAD" else route.method)

/-- The course of an answer to `HEAD`, which has no body. -/
def withoutBody : Course → Course
  | .answers after response => .answers after { response with body := "" }
  | course => course

/-- The course of a request. -/
def serve (r : Routes) (request : Request) : Course :=
  match r.routesFor request.path with
  | [] => .now r.fallback
  | routes =>
    match routes.find? (·.method = request.method) with
    | some route => route.handler request
    | none =>
      match routes.find? fun route => request.method = "HEAD" && route.method = "GET" with
      | some route => withoutBody (route.handler request)
      | none => .now { status := 405, allow := some (methods routes) }

end Routes

end ServiceSupervisor.Http
