import ServiceSupervisor.Text.Quoted

/-!
How a routine can end, and what is reported of it.

* `Failure`: an error with the contexts wrapped around it; `Failure.message` is the outermost text
  and `Failure.chain` all of them;
* `Ending`: a routine finishes, fails or panics; `Ending.failure?` turns a panic into the failure
  that stands for it.

A panic is reported with the number of the task it happened in.  Task numbers differ from run to
run, so `describePanic` writes `N` in their place.  Of the payload of a panic an ending keeps its
text alone, if it has one; what comes of its disposal is the subject of `Exposed`.
-/

namespace ServiceSupervisor

/-- An error together with the contexts wrapped around it, innermost first. -/
structure Failure where
  /-- The text of the error itself. -/
  root : String
  /-- The wrapped contexts, innermost first. -/
  contexts : List String := []
deriving DecidableEq, Repr, Inhabited

namespace Failure

/-- The outermost text alone. -/
def message (f : Failure) : String := f.contexts.getLast?.getD f.root

/-- All texts, outermost first, joined by a colon and a space. -/
def chain (f : Failure) : String := ": ".intercalate (f.contexts.reverse ++ [f.root])

/-- The failure wrapped in one more context. -/
def wrap (f : Failure) (context : String) : Failure :=
  { f with contexts := f.contexts ++ [context] }

/-- A context comes before all that it is wrapped around. -/
theorem chain_wrap (f : Failure) (context : String) :
    (f.wrap context).chain = context ++ ": " ++ f.chain := by
  rw [chain, chain, wrap, List.reverse_append]
  cases f.contexts.reverse <;> simp [String.intercalate_cons_cons]

end Failure

/-- The report of a panic: its text in quotes, if the payload is a text. -/
def describePanic : Option String → String
  | some text => "task N panicked with message " ++ Text.quoted text
  | none => "task N panicked"

/-- How a routine ended. -/
inductive Ending
  /-- It returned without an error. -/
  | finished
  /-- It returned an error. -/
  | failed (failure : Failure)
  /-- It panicked; the payload is kept when it is a text. -/
  | panicked (payload : Option String)
deriving DecidableEq, Repr, Inhabited

namespace Ending

/-- The failure that an ending stands for: a panic counts as an error of its component. -/
def failure? : Ending → Option Failure
  | finished => none
  | failed failure => some failure
  | panicked payload => some { root := "component task panicked: " ++ describePanic payload }

/-- Whether the routine returned, with or without an error. -/
def returned : Ending → Bool
  | panicked _ => false
  | _ => true

end Ending

/-- A failed component, by the name it is registered under. -/
structure Culprit where
  /-- The registered name. -/
  component : String
  /-- The failure. -/
  failure : Failure
deriving DecidableEq, Repr, Inhabited

end ServiceSupervisor
