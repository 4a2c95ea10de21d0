import ServiceSupervisor.Routine

/-!
Components and their registration.

* `Component`: a name, an advertised teardown deadline, an entry routine, a teardown routine and
  recurring jobs;
* `Registration`: a component with the identity of its instance and an explicit deadline;
* `Registry`: the registrations, in order; one instance may be registered several times.
-/

namespace ServiceSupervisor

/-- A supervised part of a service. -/
structure Component where
  /-- The name in every report. -/
  name : String
  /-- The teardown deadline that it prefers. -/
  advertised : Option Duration := none
  /-- The entry routine. -/
  entry : Routine
  /-- The teardown routine, given its deadline. -/
  teardown : Duration → Routine
  /-- The recurring jobs that its routines start and stop. -/
  jobs : List Job := []

namespace Component

/-- A component with scripted routines. -/
def scripted (name : String) (advertised : Option Duration) (entry teardown : List Step) :
    Component where
  name := name
  advertised := advertised
  entry := .ofScript entry
  teardown := fun _ => .ofScript teardown

/-- A component that waits for its cancellation and has nothing to tear down. -/
def idle (name : String) : Component where
  name := name
  entry := .awaitCancel .done
  teardown := fun _ => .done

/-- A component that fires jobs.  They keep firing after the cancellation; the teardown stops
them and waits for the runs in progress. -/
def ofJobs (jobs : List Job) : Component where
  name := "scheduler"
  entry := .startJobs (.awaitCancel (.note (.jobs .cancelled) .done))
  teardown := fun deadline =>
    .stopJobs (.awaitJobs deadline
      (.note (.jobs .stopped) .done)
      (.stop (.failed { root := "scheduler stop timed out" })))
  jobs := jobs

end Component

/-- A component with its identity and its explicit deadline. -/
structure Registration where
  /-- The component. -/
  component : Component
  /-- The number of the instance: two registrations with one number share it. -/
  instanceId : Nat
  /-- The teardown deadline given at registration. -/
  explicit : Option Duration

namespace Registration

/-- The registered name. -/
def name (r : Registration) : String := r.component.name

/-- The explicit deadline, else the advertised one, else the default. -/
def effectiveDeadline (r : Registration) (fallback : Duration) : Duration :=
  (r.explicit <|> r.component.advertised).getD fallback

theorem effectiveDeadline_eq (r : Registration) (fallback : Duration) :
    r.effectiveDeadline fallback = (r.explicit.or r.component.advertised).getD fallback := by
  cases h : r.explicit <;> rw [effectiveDeadline, h] <;> rfl

end Registration

/-- The registrations, in order. -/
structure Registry where
  /-- The registrations. -/
  entries : List Registration

namespace Registry

/-- A registry without registrations. -/
def empty : Registry := ⟨[]⟩

/-- One more registration, at the end. -/
def register (r : Registry) (entry : Registration) : Registry := ⟨r.entries ++ [entry]⟩

/-- The number of registrations. -/
def size (r : Registry) : Nat := r.entries.length

/-- Whether there is no registration. -/
def isEmpty (r : Registry) : Bool := r.entries.isEmpty

/-- The registered names, in order. -/
def names (r : Registry) : List String := r.entries.map (·.name)

/-- The name registered at a place. -/
def nameAt (r : Registry) (index : Nat) : String := (r.entries[index]?.map (·.name)).getD ""

/-- The advertised deadlines, in order. -/
def advertised (r : Registry) : List (Option Duration) := r.entries.map (·.component.advertised)

/-- The effective deadlines, in order. -/
def deadlines (r : Registry) (fallback : Duration) : List Duration :=
  r.entries.map (·.effectiveDeadline fallback)

/-- Whether two registrations share their instance; `none` if one of them does not exist. -/
def sameInstance? (r : Registry) (i j : Nat) : Option Bool := do
  let first ← r.entries[i]?
  let second ← r.entries[j]?
  some (first.instanceId = second.instanceId)

end Registry

end ServiceSupervisor
