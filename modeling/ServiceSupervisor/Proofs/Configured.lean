import ServiceSupervisor.Preparation
import ServiceSupervisor.Program
import ServiceSupervisor.Proofs.Arguments
import ServiceSupervisor.Proofs.Phases

/-!
From the settings to the service that runs.

Settings are looked at three times: when the file has been read, when the options have been put over
them, and when the components are built.  The first two looks are the same validation; the third is
spread over the steps that build, and each of these has its own way to go wrong.

* `Configuration.validate_eq_ok_iff`: what the validation says of settings that pass it;
* `Configuration.usable_of_resolve`: what is loaded passes it, and so do the defaults;
* `Configuration.prepare_eq`: settings that pass it are built without a fault;
* `Registry.roster`: the registered names with the effective deadlines;
* `Run.Reached.spawned_along_roster`: teardowns are spawned along the roster, from its end on;
* `Program.serves_as_configured`: the theorem on the service that the program runs.
-/

namespace ServiceSupervisor

/-! ### What the validation says -/

namespace Configuration

/-- Settings that can be used. -/
structure Usable (c : Configuration) : Prop where
  /-- Teardowns are given some time. -/
  timeout_pos : 0 < c.shutdownTimeoutSecs
  /-- The range of the delay has a number. -/
  jitter_le : c.startupJitterMinMs ≤ c.startupJitterMaxMs
  /-- A server that is enabled has an address, and requests are given some time. -/
  http : c.http.enabled = true →
    (SocketAddress.parse? c.http.address).isSome = true ∧ 0 < c.http.requestTimeoutSecs
  /-- A scheduler that is enabled has a schedule. -/
  scheduler : c.scheduler.enabled = true →
    (Schedule.parse? c.scheduler.heartbeatSchedule).isSome = true
  /-- Probes have names and addresses. -/
  probes : ∀ s ∈ c.probes, s.name ≠ "" ∧ s.address ≠ ""

end Configuration

lemma HttpSettings.validate_eq_ok_iff (s : HttpSettings) : s.validate = .ok () ↔
    (s.enabled = true →
      (SocketAddress.parse? s.address).isSome = true ∧ 0 < s.requestTimeoutSecs) := by
  cases henabled : s.enabled with
  | false => simp [validate, henabled, pure, Except.pure]
  | true =>
      cases haddress : SocketAddress.parse? s.address <;>
        simp [validate, socketAddress, henabled, haddress, discard, Functor.mapConst, Except.map,
          bind, Except.bind, pure, Except.pure, throw, throwThe, MonadExceptOf.throw,
          Nat.pos_iff_ne_zero]

lemma SchedulerSettings.validate_eq_ok_iff (s : SchedulerSettings) : s.validate = .ok () ↔
    (s.enabled = true → (Schedule.parse? s.heartbeatSchedule).isSome = true) := by
  cases henabled : s.enabled <;> cases hschedule : Schedule.parse? s.heartbeatSchedule <;>
    simp [validate, henabled, hschedule, pure, Except.pure, throw, throwThe, MonadExceptOf.throw]

lemma ProbeSettings.validate_eq_ok_iff (s : ProbeSettings) :
    s.validate = .ok () ↔ s.name ≠ "" ∧ s.address ≠ "" := by
  by_cases hname : s.name = "" <;> by_cases haddress : s.address = "" <;>
    simp [validate, hname, haddress, throw, throwThe, MonadExceptOf.throw]

namespace Configuration

/-- **Validation.**  It passes exactly the settings that can be used. -/
theorem validate_eq_ok_iff (c : Configuration) : c.validate = .ok () ↔ c.Usable := by
  have hparts : c.validate = .ok () ↔ c.shutdownTimeoutSecs ≠ 0 ∧
      ¬ c.startupJitterMaxMs < c.startupJitterMinMs ∧ c.http.validate = .ok () ∧
        c.scheduler.validate = .ok () ∧ c.probes.forM (·.validate) = .ok () := by
    by_cases htimeout : c.shutdownTimeoutSecs = 0
    · simp [validate, htimeout, bind, Except.bind, throw, throwThe, MonadExceptOf.throw]
    by_cases hjitter : c.startupJitterMaxMs < c.startupJitterMinMs
    · simp [validate, htimeout, hjitter, bind, Except.bind, throw, throwThe, MonadExceptOf.throw]
    · simp [validate, htimeout, hjitter, bind, Except.bind_eq_ok_iff, Unique.exists_iff]
  rw [hparts, HttpSettings.validate_eq_ok_iff, SchedulerSettings.validate_eq_ok_iff,
    Except.forM_eq_ok_iff]
  simp only [ProbeSettings.validate_eq_ok_iff]
  constructor
  · rintro ⟨htimeout, hjitter, hhttp, hscheduler, hprobes⟩
    exact ⟨Nat.pos_of_ne_zero htimeout, Nat.le_of_not_lt hjitter, hhttp, hscheduler, hprobes⟩
  · rintro ⟨htimeout, hjitter, hhttp, hscheduler, hprobes⟩
    exact ⟨Nat.ne_of_gt htimeout, Nat.not_lt_of_le hjitter, hhttp, hscheduler, hprobes⟩

/-- Where a configuration comes from: the file that is named, else the one at the default path, else
the defaults. -/
inductive Source (named : Option FileContent) (atDefault : FileContent) (c : Configuration) : Prop
  | named (text : String) (hn : named = some (.text text)) (hc : ofToml text = .ok c)
  | atDefault (text : String) (hn : named = none) (hd : atDefault = .text text)
      (hc : ofToml text = .ok c)
  | defaults (hn : named = none) (hd : atDefault = .missing) (hc : c = {})

/-- What is loaded from a file is what its text holds, and can be used. -/
lemma usable_of_load {file : FileContent} {c : Configuration} (h : load file = .ok c) :
    (∃ text, file = .text text ∧ ofToml text = .ok c) ∧ c.Usable := by
  obtain ⟨text, hread, h⟩ := Except.bind_eq_ok_iff.mp h
  obtain ⟨loaded, hloaded, h⟩ := Except.bind_eq_ok_iff.mp h
  obtain ⟨_, hvalid, h⟩ := Except.bind_eq_ok_iff.mp h
  cases h
  refine ⟨?_, (validate_eq_ok_iff c).mp (Except.mapError_eq_ok_iff.mp hvalid)⟩
  cases file with
  | text content =>
      cases hread
      exact ⟨text, rfl, hloaded⟩
  | missing => cases hread
  | directory => cases hread
  | binary => cases hread

/-- The defaults can be used. -/
lemma usable_default : ({} : Configuration).Usable := (validate_eq_ok_iff {}).mp rfl

/-- So can whatever is loaded in the end. -/
theorem usable_of_resolve {named : Option FileContent} {atDefault : FileContent} {c : Configuration}
    (h : resolve named atDefault = .ok c) : Source named atDefault c ∧ c.Usable := by
  cases named with
  | some file =>
      obtain ⟨⟨text, rfl, hc⟩, husable⟩ := usable_of_load h
      exact ⟨.named text rfl hc, husable⟩
  | none =>
      cases atDefault with
      | missing =>
          cases h
          exact ⟨.defaults rfl rfl rfl, usable_default⟩
      | directory => cases h
      | binary => cases h
      | text content =>
          obtain ⟨⟨text, hfile, hc⟩, husable⟩ := usable_of_load h
          exact ⟨.atDefault text rfl hfile hc, husable⟩

end Configuration

/-! ### The registry -/

namespace Registry

/-- Components that are enlisted one after another are instances of their own. -/
lemma foldl_enlist (entries : List (Component × Option Duration)) (r : Registry) :
    entries.foldl enlist r = ⟨r.entries ++ (entries.zipIdx r.size).map
      fun ((component, explicit), index) => { component, instanceId := index, explicit }⟩ := by
  induction entries generalizing r with
  | nil => simp
  | cons entry entries ih =>
      rw [List.foldl_cons, ih]
      simp [enlist, register, size]

/-- The registered names with the effective deadlines, in order. -/
def roster (r : Registry) (fallback : Duration) : List (String × Duration) :=
  r.entries.map fun entry => (entry.name, entry.effectiveDeadline fallback)

/-- The roster from its end on, turn by turn. -/
lemma reverse_roster (r : Registry) (fallback : Duration) :
    (r.roster fallback).reverse = (List.range r.size).map fun k =>
      (r.nameAt (r.turn k), r.deadlineAt fallback (r.turn k)) := by
  refine List.ext_getElem (by simp [roster, size]) fun k hk hk' => ?_
  have hlt : r.entries.length - 1 - k < r.entries.length := by
    simp only [roster, List.length_reverse, List.length_map] at hk
    omega
  simp [roster, nameAt, deadlineAt, turn, size, List.getElem?_eq_getElem hlt]

end Registry

namespace Configuration

variable (c : Configuration) (network : Network)

/-- The registry is filled entry by entry. -/
lemma registry_eq_foldl : c.registry network = (c.entries network).foldl .enlist .empty := by
  rw [Registry.foldl_enlist]
  rfl

/-- Without their numbers, its entries are those of the service. -/
lemma map_registry :
    (c.registry network).entries.map (fun entry => (entry.component, entry.explicit))
      = c.entries network := by
  rw [registry, List.map_map]
  exact List.zipIdx_map_fst ..

/-- Its components: one per probe, then the scheduler, then the server. -/
lemma map_component : (c.registry network).entries.map (·.component)
    = c.probes.map (fun s => Probe.component ⟨s.name, s.address, s.connectTimeout⟩ network)
      ++ (if c.scheduler.enabled then [.ofJobs [heartbeat c.scheduler.heartbeatSchedule]] else [])
      ++ if c.http.enabled then
          (SocketAddress.parse? c.http.address).toList.map fun address =>
            Http.Server.component { address, requestTimeout := c.http.requestTimeout } network
        else [] := by
  have hmap : (c.registry network).entries.map (·.component)
      = (c.entries network).map Prod.fst := by
    rw [← c.map_registry network, List.map_map]
    rfl
  rw [hmap, entries, List.map_append, List.map_append, List.map_map]
  congr 1
  · congr 1
    cases henabled : c.scheduler.enabled <;> simp [schedulerEntry, henabled]
  · cases henabled : c.http.enabled <;> cases haddress : SocketAddress.parse? c.http.address <;>
      simp [httpEntry, henabled, haddress]

/-- They are numbered in order. -/
lemma map_instanceId :
    (c.registry network).entries.map (·.instanceId) = List.range (c.registry network).size := by
  rw [registry, Registry.size, List.map_map, List.length_map, List.length_zipIdx]
  exact (List.zipIdx_map_snd ..).trans (List.range_eq_range' ..).symm

/-- The deadlines of the service: that of the settings, else ten seconds for the server, else the
default. -/
lemma roster_registry (husable : c.Usable) :
    (c.registry network).roster (.ofSecs c.shutdownTimeoutSecs)
      = c.probes.map (fun s =>
          (s.name, .ofSecs (s.teardownTimeoutSecs.getD c.shutdownTimeoutSecs)))
        ++ (if c.scheduler.enabled then
            [("scheduler", .ofSecs (c.scheduler.teardownTimeoutSecs.getD c.shutdownTimeoutSecs))]
          else [])
        ++ if c.http.enabled then
            [("http_server", .ofSecs (c.http.teardownTimeoutSecs.getD 10))] else [] := by
  have hroster : (c.registry network).roster (.ofSecs c.shutdownTimeoutSecs)
      = (c.entries network).map fun entry => (entry.1.name,
          (entry.2 <|> entry.1.advertised).getD (.ofSecs c.shutdownTimeoutSecs)) := by
    rw [← c.map_registry network, List.map_map]
    rfl
  rw [hroster, entries, List.map_append, List.map_append, List.map_map]
  congr 1
  · congr 1
    · refine List.map_congr_left fun s _ => ?_
      simp [probeEntry, Probe.component, ProbeSettings.teardownTimeout, Option.getD_map]
    · cases henabled : c.scheduler.enabled <;>
        simp [schedulerEntry, henabled, Component.ofJobs, SchedulerSettings.teardownTimeout,
          Option.getD_map]
  · cases henabled : c.http.enabled with
    | false => simp [httpEntry, henabled]
    | true =>
        obtain ⟨address, haddress⟩ := Option.isSome_iff_exists.mp (husable.http henabled).1
        cases hown : c.http.teardownTimeoutSecs <;>
          simp [httpEntry, henabled, haddress, Http.Server.component, Http.Server.name,
            HttpSettings.teardownTimeout, hown]

/-- Settings that can be used are built into the registry. -/
lemma assemble_eq (husable : c.Usable) : c.assemble network = .ok (c.registry network) := by
  have hprobes : (c.probes.map (probeEntry network)).foldl .enlist Registry.empty
      = c.probes.foldl (fun registry s => registry.enlist (probeEntry network s)) .empty :=
    List.foldl_map
  rw [registry_eq_foldl, entries, List.foldl_append, List.foldl_append, hprobes]
  have hscheduled : ∀ r : Registry, (schedulerEntry c.scheduler).foldl .enlist r
      = if c.scheduler.enabled then
          r.enlist (.ofJobs [heartbeat c.scheduler.heartbeatSchedule], c.scheduler.teardownTimeout)
        else r := by
    intro r
    cases henabled : c.scheduler.enabled <;> simp [schedulerEntry, henabled]
  rw [hscheduled]
  cases henabled : c.http.enabled with
  | false => simp [assemble, httpEntry, henabled, pure, Except.pure]
  | true =>
      obtain ⟨address, haddress⟩ := Option.isSome_iff_exists.mp (husable.http henabled).1
      simp [assemble, httpEntry, henabled, HttpSettings.socketAddress, haddress, Except.mapError,
        bind, Except.bind, pure, Except.pure]

/-- The delay that is drawn lies in the range of the settings. -/
lemma exists_startupDelay {draw : Nat → Nat → Nat} (husable : c.Usable)
    (hdraw : ∀ least greatest, least ≤ greatest →
      least ≤ draw least greatest ∧ draw least greatest ≤ greatest) :
    ∃ delay, c.startupDelay draw = .ok delay ∧ c.startupJitterMinMs ≤ delay.millis ∧
      delay.millis ≤ c.startupJitterMaxMs := by
  have hle := husable.jitter_le
  rw [startupDelay, jitter, Nat.min_eq_left hle]
  by_cases hzero : c.startupJitterMaxMs = 0
  · exact ⟨.zero, by simp [hzero], by simp only [Duration.zero]; omega, Nat.zero_le _⟩
  · obtain ⟨hleast, hgreatest⟩ := hdraw _ _ hle
    exact ⟨_, by simp only [hzero, Nat.not_lt_of_le hle, if_false], hleast, hgreatest⟩

/-- **Preparation.**  Settings that can be used are built without a fault, and the delay lies in
their range. -/
theorem prepare_eq {draw : Nat → Nat → Nat} (husable : c.Usable)
    (hdraw : ∀ least greatest, least ≤ greatest →
      least ≤ draw least greatest ∧ draw least greatest ≤ greatest) :
    ∃ delay, c.prepare draw network = .ok (delay, c.app network) ∧
      c.startupJitterMinMs ≤ delay.millis ∧ delay.millis ≤ c.startupJitterMaxMs := by
  obtain ⟨delay, hdelay, hmem⟩ := c.exists_startupDelay husable hdraw
  refine ⟨delay, ?_, hmem⟩
  simp only [prepare, hdelay, c.assemble_eq network husable]
  rfl

/-! ### The heartbeat -/

/-- Every component has the recurring jobs that it was given. -/
lemma schedulersOf_registry : World.schedulersOf (c.registry network)
    = (c.entries network).map fun entry => .ofJobs entry.1.jobs := by
  refine List.ext_getElem (by simp [World.schedulersOf, registry]) fun k hk hk' => ?_
  simp [World.schedulersOf, registry]

/-- No component but the scheduler has any. -/
lemma jobs_of_mem_entries {component : Component} {explicit : Option Duration}
    (he : (component, explicit) ∈ c.entries network) :
    component.jobs = [] ∨
      c.scheduler.enabled = true ∧ component.jobs = [heartbeat c.scheduler.heartbeatSchedule] := by
  rw [entries, List.mem_append, List.mem_append] at he
  rcases he with (he | he) | he
  · obtain ⟨s, -, heq⟩ := List.mem_map.mp he
    cases heq
    exact .inl rfl
  · cases henabled : c.scheduler.enabled with
    | false => simp [schedulerEntry, henabled] at he
    | true =>
        simp only [schedulerEntry, henabled, if_true, List.mem_singleton] at he
        cases he
        exact .inr ⟨rfl, rfl⟩
  · simp only [httpEntry] at he
    split at he
    · cases List.mem_singleton.mp he
      exact .inl rfl
    · cases he

/-- No job is skipped. -/
lemma skipped_notMem (husable : c.Usable) (owner : Nat) (job expression : String) :
    Event.jobNoted owner (.skipped job expression)
      ∉ World.registrationEvents (c.registry network) := by
  intro hmem
  obtain ⟨⟨entry, index⟩, hentry, hmem⟩ := List.mem_flatMap.mp hmem
  have hcomponent : (entry.component, entry.explicit) ∈ c.entries network := by
    rw [← c.map_registry network]
    exact List.mem_map_of_mem (List.fst_mem_of_mem_zipIdx hentry)
  rcases c.jobs_of_mem_entries network hcomponent with hjobs | ⟨henabled, hjobs⟩
  · simp [Scheduler.admissionNotes, hjobs] at hmem
  · simp [Scheduler.admissionNotes, hjobs, heartbeat, husable.scheduler henabled] at hmem

/-- The scheduler has accepted the heartbeat. -/
lemma scheduler_registry (husable : c.Usable) (henabled : c.scheduler.enabled = true) :
    ∃ schedule, Schedule.parse? c.scheduler.heartbeatSchedule = some schedule ∧
      (World.schedulersOf (c.registry network))[c.probes.length]? = some { Scheduler.empty with
        jobs := [{ job := heartbeat c.scheduler.heartbeatSchedule, schedule, place := 0 }] } := by
  obtain ⟨schedule, hschedule⟩ := Option.isSome_iff_exists.mp (husable.scheduler henabled)
  refine ⟨schedule, hschedule, ?_⟩
  rw [schedulersOf_registry, entries, List.map_append, List.map_append, List.append_assoc,
    List.getElem?_append_right (by simp)]
  simp [schedulerEntry, henabled, Component.ofJobs, Scheduler.ofJobs, heartbeat, hschedule]

end Configuration

/-! ### The order of the teardown -/

namespace Run

variable {app : Application} {r : Run}

/-- **Teardowns follow the roster.**  They are spawned from its end on, with the deadlines that it
gives; all of them have been spawned when the run returns. -/
theorem Reached.spawned_along_roster (h : Reached app r) :
    (r.world.trace.spawns.map fun (_, index, deadline) => (app.registry.nameAt index, deadline))
        <+: (app.registry.roster app.shutdownTimeout).reverse ∧
      ((∃ first, r.control = .returned first) →
        (r.world.trace.spawns.map fun (_, index, deadline) => (app.registry.nameAt index, deadline))
          = (app.registry.roster app.shutdownTimeout).reverse) := by
  by_cases hopen : ∃ first, r.control = .stopping first ∨ r.control = .returned first
  · obtain ⟨time, start, -, -, htearing⟩ := h.tearing hopen
    obtain ⟨p, hledger⟩ := htearing.ledger
    have hlength := hledger.books.length_eq
    have hreports := hledger.books.reports_le
    rw [hledger.books.spawns_eq, List.map_map, Registry.reverse_roster]
    constructor
    · refine List.IsPrefix.map _ (List.prefix_iff_eq_take.mpr ?_)
      rw [List.length_range, List.take_range, Nat.min_eq_left (by omega)]
    · rintro ⟨first, hc⟩
      have hall := hledger.isOver_iff.mp (htearing.isOver_of_returned hc)
      rw [show r.teardown.tasks.length = app.registry.size by omega]
      rfl
  · have hnone : r.world.trace.spawns = [] :=
      by_contra fun hspawns => hopen (h.stopping_of_spawns hspawns)
    rw [hnone]
    exact ⟨List.nil_prefix, fun ⟨first, hc⟩ => absurd ⟨first, .inr hc⟩ hopen⟩

end Run

/-! ### The service that the program runs -/

/-- The names of the components with their effective deadlines, in the order of the teardown: the
server, the scheduler, then the probes from the last to the first. -/
def Configuration.teardownOrder (c : Configuration) : List (String × Duration) :=
  (if c.http.enabled then
      [("http_server", .ofSecs (c.http.teardownTimeoutSecs.getD 10))] else [])
    ++ (if c.scheduler.enabled then
        [("scheduler", .ofSecs (c.scheduler.teardownTimeoutSecs.getD c.shutdownTimeoutSecs))]
      else [])
    ++ c.probes.reverse.map fun s =>
        (s.name, .ofSecs (s.teardownTimeoutSecs.getD c.shutdownTimeoutSecs))

/-- The roster of the service from its end on. -/
lemma Configuration.reverse_roster_registry {c : Configuration} (husable : c.Usable)
    (network : Network) :
    ((c.registry network).roster (.ofSecs c.shutdownTimeoutSecs)).reverse
      = c.teardownOrder := by
  rw [c.roster_registry network husable, teardownOrder, List.reverse_append, List.reverse_append,
    List.map_reverse, List.append_assoc]
  congr 1
  · split <;> rfl
  · congr 1
    split <;> rfl

/-- All that holds of a service that runs with a configuration after a delay: what the configuration
comes from, what has been built of it, and the order of its teardown. -/
structure Served (machine : Machine) (o : CommandLine.Options) (draw : Nat → Nat → Nat)
    (loaded c : Configuration) (delay : Duration) : Prop where
  /-- A configuration has been loaded, unless there is none and the defaults are taken. -/
  source : Configuration.Source (o.config.map machine.file)
    (machine.file (Configuration.defaultPath (machine.environment "XDG_CONFIG_HOME")
      ((machine.environment "HOME").getD ""))) loaded
  /-- The options go over two of its settings and leave all others alone. -/
  overridden : c = { loaded with
    logLevel := o.logLevel.getD loaded.logLevel
    shutdownTimeoutSecs := o.shutdownTimeout.getD loaded.shutdownTimeoutSecs }
  /-- It is valid before and after that. -/
  valid : loaded.validate = .ok () ∧ c.validate = .ok ()
  /-- No default of the teardown deadlines is zero, wherever it comes from. -/
  timeout_pos : 0 < c.shutdownTimeoutSecs ∧ 0 < loaded.shutdownTimeoutSecs ∧
    ∀ secs, o.shutdownTimeout = some secs → 0 < secs
  /-- Nothing fails on the way from the settings to the run. -/
  prepared : c.prepare draw machine.network = .ok (delay, c.app machine.network)
  /-- The delay lies in the range of the settings. -/
  delay_mem : c.startupJitterMinMs ≤ delay.millis ∧ delay.millis ≤ c.startupJitterMaxMs
  /-- The address of a server can be read. -/
  address : c.http.enabled = true → (SocketAddress.parse? c.http.address).isSome = true
  /-- There is one component per probe, then the scheduler if there is one, then the server if there
  is one. -/
  components : (c.registry machine.network).entries.map (·.component)
    = c.probes.map (fun s =>
        Probe.component ⟨s.name, s.address, s.connectTimeout⟩ machine.network)
      ++ (if c.scheduler.enabled then
            [.ofJobs [Configuration.heartbeat c.scheduler.heartbeatSchedule]]
          else [])
      ++ if c.http.enabled then
          (SocketAddress.parse? c.http.address).toList.map fun address =>
            Http.Server.component { address, requestTimeout := c.http.requestTimeout }
              machine.network
        else []
  /-- Each of them is an instance of its own. -/
  instances : (c.registry machine.network).entries.map (·.instanceId)
    = List.range (c.registry machine.network).size
  /-- The scheduler has accepted its heartbeat, and nothing is said of a job that is skipped. -/
  heartbeat : c.scheduler.enabled = true →
    ∃ schedule, Schedule.parse? c.scheduler.heartbeatSchedule = some schedule ∧
      (World.schedulersOf (c.registry machine.network))[c.probes.length]?
        = some { Scheduler.empty with jobs := [{
            job := Configuration.heartbeat c.scheduler.heartbeatSchedule, schedule, place := 0 }] }
  unskipped : ∀ owner job expression, Event.jobNoted owner (.skipped job expression)
    ∉ World.registrationEvents (c.registry machine.network)
  /-- The effective deadline of each component is its own, else ten seconds for the server, else the
  default. -/
  deadlines : (c.registry machine.network).roster (.ofSecs c.shutdownTimeoutSecs)
    = c.probes.map (fun s =>
        (s.name, .ofSecs (s.teardownTimeoutSecs.getD c.shutdownTimeoutSecs)))
      ++ (if c.scheduler.enabled then
          [("scheduler", .ofSecs (c.scheduler.teardownTimeoutSecs.getD c.shutdownTimeoutSecs))]
        else [])
      ++ if c.http.enabled then
          [("http_server", .ofSecs (c.http.teardownTimeoutSecs.getD 10))] else []
  /-- In every run teardowns are spawned in the order of the teardown, all of them before it
  returns. -/
  order : ∀ signals wallClock labels r,
    (Run.initial (c.app machine.network) signals wallClock).steps? (c.app machine.network) labels
        = some r →
      (r.world.trace.spawns.map fun (_, index, deadline) =>
          ((c.registry machine.network).nameAt index, deadline)) <+: c.teardownOrder ∧
        ((∃ first, r.control = .returned first) →
          (r.world.trace.spawns.map fun (_, index, deadline) =>
            ((c.registry machine.network).nameAt index, deadline)) = c.teardownOrder)

namespace Program

/-- A program that runs the service has understood its arguments, has loaded a configuration, and
has put the options over it. -/
lemma loaded_of_serve {machine : Machine} {arguments : List String} {c : Configuration}
    (h : plan machine arguments = .serve c) : ∃ o loaded,
      CommandLine.Request.parse machine.environment arguments = .ok (.run o) ∧
        Configuration.resolve (o.config.map machine.file)
            (machine.file (Configuration.defaultPath (machine.environment "XDG_CONFIG_HOME")
              ((machine.environment "HOME").getD ""))) = .ok loaded ∧
          c = loaded.withOptions o ∧ c.Usable := by
  rw [plan] at h
  cases hrequest : CommandLine.Request.parse machine.environment arguments with
  | error error => simp [hrequest] at h
  | ok request =>
      cases request with
      | help => simp [hrequest] at h
      | run o =>
          simp only [hrequest, planOptions] at h
          cases hoptions : Configuration.ofOptions machine o with
          | error error => simp [hoptions] at h
          | ok effective =>
              simp only [hoptions] at h
              split at h
              · cases h
              · cases h
                obtain ⟨loaded, hloaded, hrest⟩ := Except.bind_eq_ok_iff.mp hoptions
                obtain ⟨_, hvalid, heq⟩ := Except.bind_eq_ok_iff.mp hrest
                cases heq
                exact ⟨o, loaded, rfl, hloaded, rfl,
                  (Configuration.validate_eq_ok_iff _).mp (Except.mapError_eq_ok_iff.mp hvalid)⟩

/-- **From the settings to the service that runs.**  Whatever the arguments, the environment and the
files are: if the program runs the service at all, its options are those that the arguments give,
or the environment where no argument does; the configuration is the one that was loaded from the
file they name, or the defaults, with the options over it; both are valid, and no deadline for
teardowns is zero; nothing fails between them and the run, and the delay lies in its range; the
components are the probes in the order of the file, the scheduler with its heartbeat accepted, and
the server; each has its own deadline, else ten seconds for the server, else the default; and they
are torn down from the last one on. -/
theorem serves_as_configured (machine : Machine) (arguments : List String) (c : Configuration)
    (draw : Nat → Nat → Nat) (hdraw : ∀ least greatest, least ≤ greatest →
      least ≤ draw least greatest ∧ draw least greatest ≤ greatest)
    (h : plan machine arguments = .serve c) : ∃ o loaded delay,
      CommandLine.Request.parse machine.environment arguments = .ok (.run o) ∧
        CommandLine.Asked machine.environment arguments o ∧
        Served machine o draw loaded c delay := by
  obtain ⟨o, loaded, hrequest, hloaded, rfl, husable⟩ := loaded_of_serve h
  obtain ⟨hsource, hbefore⟩ := Configuration.usable_of_resolve hloaded
  obtain ⟨delay, hprepared, hmem⟩ := (loaded.withOptions o).prepare_eq machine.network husable hdraw
  have hvalid : loaded.validate = .ok () ∧ (loaded.withOptions o).validate = .ok () :=
    ⟨(Configuration.validate_eq_ok_iff _).mpr hbefore,
      (Configuration.validate_eq_ok_iff _).mpr husable⟩
  have hoption : ∀ secs, o.shutdownTimeout = some secs → 0 < secs := by
    intro secs hsecs
    have hpos := husable.timeout_pos
    rwa [Configuration.withOptions, hsecs, Option.getD_some] at hpos
  have horder := Configuration.reverse_roster_registry husable machine.network
  exact ⟨o, loaded, delay, hrequest, CommandLine.asked_of_parse hrequest, {
    source := hsource
    overridden := rfl
    valid := hvalid
    timeout_pos := ⟨husable.timeout_pos, hbefore.timeout_pos, hoption⟩
    prepared := hprepared
    delay_mem := hmem
    address := fun henabled => (husable.http henabled).1
    components := Configuration.map_component _ _
    instances := Configuration.map_instanceId _ _
    heartbeat := Configuration.scheduler_registry _ _ husable
    unskipped := Configuration.skipped_notMem _ _ husable
    deadlines := Configuration.roster_registry _ _ husable
    order := fun signals wallClock labels r hsteps =>
      horder ▸ (Run.reached_of_steps? hsteps).1.spawned_along_roster }⟩

/-- A machine with a file: there is a store and no server, and teardowns are given twenty
seconds. -/
def withStoreFile : Machine where
  environment name := if name = "LOG_LEVEL" then some "debug" else none
  file path :=
    if path = "store.toml" then
      .text ("shutdown_timeout_secs = 20\n[http]\nenabled = false\n"
        ++ "[[probes]]\nname = \"store\"\naddress = \"store:5432\"\n")
    else .missing
  network := .isolated
  wallClock _ := 0

/-- The service of that file, with seven seconds for teardowns from the arguments and the log level
from the environment. -/
theorem served_of_storeFile : ∃ c o loaded delay,
    plan withStoreFile ["--config", "store.toml", "--shutdown-timeout", "7"] = .serve c ∧
      c.logLevel = "debug" ∧ c.shutdownTimeoutSecs = 7 ∧
      c.teardownOrder = [("scheduler", ⟨7000⟩), ("store", ⟨7000⟩)] ∧
      CommandLine.Asked withStoreFile.environment
        ["--config", "store.toml", "--shutdown-timeout", "7"] o ∧
      Served withStoreFile o (fun least _ => least) loaded c delay := by
  let o : CommandLine.Options :=
    { config := some "store.toml", logLevel := some "debug", shutdownTimeout := some 7 }
  let c : Configuration :=
    { logLevel := "debug", shutdownTimeoutSecs := 7, http := { enabled := false }
      probes := [{ name := "store", address := "store:5432" }] }
  have hrequest : CommandLine.Request.parse withStoreFile.environment
      ["--config", "store.toml", "--shutdown-timeout", "7"] = .ok (.run o) := by decide +kernel
  have hoptions : Configuration.ofOptions withStoreFile o = .ok c := by decide +kernel
  have hplan : plan withStoreFile ["--config", "store.toml", "--shutdown-timeout", "7"]
      = .serve c := by
    simp only [plan, hrequest, planOptions, hoptions, o, Bool.false_eq_true, if_false]
  obtain ⟨o', loaded, delay, -, hasked, hserved⟩ := serves_as_configured withStoreFile _ c
    (fun least _ => least) (fun least greatest h => ⟨Nat.le_refl _, h⟩) hplan
  exact ⟨c, o', loaded, delay, hplan, rfl, rfl, by decide +kernel, hasked, hserved⟩

end Program

end ServiceSupervisor
