import ServiceSupervisor.Duration
import ServiceSupervisor.Payload

/-!
Requests, responses, and what a handler makes of a request.

* `Request`, `Response`: the parts that a service looks at and decides;
* `Course`: what becomes of a request in the hands of a handler: an answer, a panic, or nothing;
* `Course.limited`: the course with a limit on its time, which ends in status 408;
* `recover`: what is made of the payload of a panic, which is status 500 if nothing goes wrong;
* `Reply`, `Course.reply?`: what a client gets in the end.

The limit on the time is inside the recovery from panics, so a limited course always has a reply.
-/

namespace ServiceSupervisor.Http

/-- A request. -/
structure Request where
  /-- The method. -/
  method : String := "GET"
  /-- The path, with the query if there is one. -/
  target : String
  /-- The body. -/
  body : String := ""
deriving DecidableEq, Repr, Inhabited

/-- The path of a request, without the query. -/
def Request.path (r : Request) : String :=
  String.ofList (r.target.toList.takeWhile fun c => c ≠ '?' && c ≠ '#')

/-- A response. -/
structure Response where
  /-- The status. -/
  status : Nat
  /-- The body. -/
  body : String := ""
  /-- The kind of the body, if it is named. -/
  contentType : Option String := none
  /-- The methods that the path takes, if they are named. -/
  allow : Option String := none
deriving DecidableEq, Repr, Inhabited

namespace Response

/-- A status alone. -/
def ofStatus (status : Nat) : Response := { status }

/-- A text. -/
def text (status : Nat) (body : String) : Response :=
  { status, body, contentType := some "text/plain; charset=utf-8" }

/-- A JSON value in its compact form. -/
def json (body : String) : Response :=
  { status := 200, body, contentType := some "application/json" }

/-- The response to a request that took too long. -/
def timedOut : Response := ofStatus 408

/-- The response to a request whose handler panicked. -/
def serverError : Response := ofStatus 500

end Response

/-- What a client gets in the end. -/
inductive Reply
  /-- A response. -/
  | response (response : Response)
  /-- The connection is closed without one. -/
  | closed
deriving DecidableEq, Repr, Inhabited

/-- The recovery from a panic: what is logged about it, and the reply.  The recovery disposes of the
payload.  If that panics there is no response, and the task of the connection ends. -/
def recover (payload : Payload) : String × Reply :=
  (payload.text?.getD "unknown panic",
    match payload.residue? with
    | none => .response .serverError
    | some _ => .closed)

/-- What becomes of a request in the hands of a handler. -/
inductive Course
  /-- It is answered after a span. -/
  | answers (after : Duration) (response : Response)
  /-- The handler panics after a span. -/
  | panics (after : Duration) (payload : Payload)
  /-- The handler never ends. -/
  | hangs
deriving DecidableEq, Repr, Inhabited

namespace Course

/-- An answer that takes no time. -/
def now (response : Response) : Course := answers .zero response

/-- The course with a limit on its time.  What would come at the limit or later never comes. -/
def limited (limit : Duration) : Course → Course
  | answers after response =>
    if after.millis < limit.millis then answers after response else answers limit .timedOut
  | panics after payload =>
    if after.millis < limit.millis then panics after payload else answers limit .timedOut
  | hangs => answers limit .timedOut

/-- The reply and the span after which it comes, if one does: the handler's response, or what the
recovery makes of its panic. -/
def reply? : Course → Option (Duration × Reply)
  | answers after response => some (after, .response response)
  | panics after payload => some (after, (recover payload).2)
  | hangs => none

/-- The text that is logged about a panic, if there is one. -/
def panicText? : Course → Option String
  | panics _ payload => some (recover payload).1
  | _ => none

end Course

end ServiceSupervisor.Http
