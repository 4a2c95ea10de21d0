import Mathlib.Data.List.Perm.Basic
import Mathlib.Tactic.Lemma
import ServiceSupervisor.Configuration.Decode

/-!
Decoding lays a document over the defaults, and undoes encoding.

* `RecordType.Mixing`: the fields of two records of a kind mixed; an entry that brings a field
  (`RecordType.Mixing.Brings`) mixes it in, so a table brings the fields it has entries for, in
  whatever order they stand (`RecordType.Mixing.overlay_eq`, `RecordType.Mixing.read_eq`);
* `HttpSettings.fieldEntries` and its likes: the entries of the fields of a record;
* `Value.Holds`, `Selection.Holds`: the documents with chosen fields of a configuration, at any
  depth, and `Selection.settle`: the configuration that they stand for;
* `Value.isOf`, `Configuration.Misfit`: the documents with a scalar of the wrong type, or with a
  probe that lacks a field without a default;
* `Configuration.decode_overlays`: the theorem on decoding.
-/

namespace ServiceSupervisor

/-! ### Laying entries over a record -/

/-- A table with the entries of chosen keys, in any order, and with any others besides whose keys
are not those of an entry. -/
def Value.Holds (entries : List (String × Value)) (S : String → Bool) (value : Value) : Prop :=
  ∃ extras held, (∀ extra ∈ extras, extra.1 ∉ entries.map (·.1)) ∧
    held.Perm (entries.filter (S ·.1) ++ extras) ∧ value = .table held

/-- A table alone holds all its entries. -/
lemma Value.holds_table (entries : List (String × Value)) :
    Holds entries (fun _ => true) (.table entries) :=
  ⟨[], entries, fun _ hextra => absurd hextra List.not_mem_nil, by simp, rfl⟩

namespace RecordType

variable {α : Type} {r : RecordType α}

/-- How the fields of two records of a kind are mixed. -/
structure Mixing (r : RecordType α) where
  /-- The chosen fields of the first record, and the others of the second. -/
  mix : (String → Bool) → α → α → α
  mix_none : ∀ c s, mix (fun _ => false) c s = s
  mix_congr : ∀ {S T : String → Bool}, (∀ field ∈ r.fields, S field = T field) →
    ∀ c s, mix S c s = mix T c s
  /-- Keys that name no field are passed over. -/
  set_other : ∀ s key value, key ∉ r.fields → r.set s key value = .ok s

namespace Mixing

variable {m : r.Mixing} {c : α} {entries : List (String × Value)}

/-- An entry brings a field of a record: whatever has been mixed in, the field is then as well. -/
def Brings (m : r.Mixing) (c : α) (entry : String × Value) : Prop :=
  ∀ S s, r.set (m.mix S c s) entry.1 entry.2
    = .ok (m.mix (fun field => field == entry.1 || S field) c s)

/-- **Entries that bring fields of a record mix these fields in**, one after another. -/
theorem overlay_eq (hentries : ∀ entry ∈ entries, m.Brings c entry ∨ entry.1 ∉ r.fields)
    (S : String → Bool) (s : α) : r.overlay (m.mix S c s) entries
      = .ok (m.mix (fun field => S field || (entries.map (·.1)).contains field) c s) := by
  induction entries generalizing S with
  | nil => simp [overlay, pure, Except.pure]
  | cons entry entries ih =>
      have hrest := fun e he => hentries e (List.mem_cons_of_mem entry he)
      rw [overlay, List.foldlM_cons]
      rcases hentries entry List.mem_cons_self with hbrings | hother
      · rw [hbrings S s]
        refine (ih hrest _).trans (congrArg Except.ok (m.mix_congr (fun field _ => ?_) c s))
        rw [List.map_cons, List.contains_cons, Bool.or_assoc, Bool.or_left_comm]
      · rw [m.set_other _ _ _ hother]
        refine (ih hrest _).trans (congrArg Except.ok (m.mix_congr (fun field hfield => ?_) c s))
        have hne : (field == entry.1) = false := beq_false_of_ne fun heq => hother (heq ▸ hfield)
        rw [List.map_cons, List.contains_cons, hne, Bool.false_or]

/-- **A document with chosen entries of a record mixes the chosen fields in.** -/
theorem read_eq (hbrings : ∀ entry ∈ entries, m.Brings c entry)
    (hfields : entries.map (·.1) = r.fields) {S : String → Bool} {value : Value}
    (hvalue : value.Holds entries S) (d : Dialect) (s : α) :
    r.read d s value = .ok (m.mix S c s) := by
  obtain ⟨extras, held, hextras, hperm, rfl⟩ := hvalue
  have hheld : ∀ entry ∈ held, m.Brings c entry ∨ entry.1 ∉ r.fields := by
    intro entry hentry
    rcases List.mem_append.mp (hperm.mem_iff.mp hentry) with hgiven | hextra
    · exact .inl (hbrings entry (List.mem_of_mem_filter hgiven))
    · exact .inr (hfields ▸ hextras entry hextra)
  have hoverlay := overlay_eq hheld (fun _ => false) s
  rw [m.mix_none] at hoverlay
  refine hoverlay.trans (congrArg Except.ok (m.mix_congr (fun field hfield => ?_) c s))
  -- A field has an entry, which is held if the field is chosen; the others name no field.
  rw [Bool.false_or, Bool.eq_iff_iff, List.contains_iff_mem, (hperm.map (·.1)).mem_iff,
    List.map_append, List.mem_append]
  constructor
  · rintro (hgiven | hextra)
    · obtain ⟨entry, hentry, rfl⟩ := List.mem_map.mp hgiven
      exact (List.mem_filter.mp hentry).2
    · obtain ⟨entry, hentry, rfl⟩ := List.mem_map.mp hextra
      exact absurd (hfields ▸ hfield) (hextras entry hentry)
  · intro hchosen
    obtain ⟨entry, hentry, rfl⟩ := List.mem_map.mp (hfields ▸ hfield)
    exact .inl (List.mem_map_of_mem (List.mem_filter.mpr ⟨hentry, hchosen⟩))

end Mixing

end RecordType

/-! ### Scalars -/

namespace Value

/-- A number, or nothing. -/
def ofUnsigned? : Option Nat → Value
  | some value => .int value
  | none => .null

@[simp] lemma asUnsigned_natCast (value : Nat) : asUnsigned (.int value) = .ok value := by
  rw [asUnsigned, if_neg (Int.not_lt.mpr (Int.natCast_nonneg value)), Int.toNat_natCast]

@[simp] lemma asOption_ofUnsigned? (value : Option Nat) :
    asOption asUnsigned (ofUnsigned? value) = .ok value := by
  cases value with
  | none => rfl
  | some value => exact congrArg (Except.map some) (asUnsigned_natCast value)

@[simp] lemma asList_bind {α : Type} (items : List Value) (f : List Value → Decoded α) :
    (list items).asList >>= f = f items := rfl

end Value

/-! ### The records of a configuration -/

namespace HttpSettings

/-- The settings that are documented as the defaults. -/
def documented : HttpSettings where
  enabled := true
  address := "0.0.0.0:8080"
  requestTimeoutSecs := 30
  teardownTimeoutSecs := none

/-- The entries of the fields. -/
def fieldEntries (s : HttpSettings) : List (String × Value) :=
  [("enabled", .bool s.enabled), ("address", .text s.address),
    ("request_timeout_secs", .int s.requestTimeoutSecs),
    ("teardown_timeout_secs", .ofUnsigned? s.teardownTimeoutSecs)]

/-- The chosen fields of the first settings, and the others of the second. -/
def mix (S : String → Bool) (c s : HttpSettings) : HttpSettings where
  enabled := if S "enabled" then c.enabled else s.enabled
  address := if S "address" then c.address else s.address
  requestTimeoutSecs :=
    if S "request_timeout_secs" then c.requestTimeoutSecs else s.requestTimeoutSecs
  teardownTimeoutSecs :=
    if S "teardown_timeout_secs" then c.teardownTimeoutSecs else s.teardownTimeoutSecs

/-- How the settings are mixed. -/
def mixing : record.Mixing where
  mix := mix
  mix_none := fun _ _ => rfl
  mix_congr := fun h c s => by
    simp only [record, List.forall_mem_cons] at h
    simp [mix, h]
  set_other := fun s key value hkey => by
    simp only [record, List.mem_cons, List.not_mem_nil, or_false, not_or] at hkey
    simp [record, hkey, pure, Except.pure]

lemma brings (c : HttpSettings) : ∀ entry ∈ c.fieldEntries, mixing.Brings c entry := by
  simp [fieldEntries, RecordType.Mixing.Brings, mixing, mix, record, Value.asFlag, Value.asText]

/-- The encoded settings are a table of the entries. -/
lemma ofJson_toJson (s : HttpSettings) : Value.ofJson s.toJson = .table s.fieldEntries := by
  obtain ⟨enabled, address, requestTimeoutSecs, _ | teardownTimeoutSecs⟩ := s <;> rfl

end HttpSettings

namespace SchedulerSettings

/-- The settings that are documented as the defaults. -/
def documented : SchedulerSettings where
  enabled := true
  heartbeatSchedule := "0 * * * * *"
  teardownTimeoutSecs := none

/-- The entries of the fields. -/
def fieldEntries (s : SchedulerSettings) : List (String × Value) :=
  [("enabled", .bool s.enabled), ("heartbeat_schedule", .text s.heartbeatSchedule),
    ("teardown_timeout_secs", .ofUnsigned? s.teardownTimeoutSecs)]

/-- The chosen fields of the first settings, and the others of the second. -/
def mix (S : String → Bool) (c s : SchedulerSettings) : SchedulerSettings where
  enabled := if S "enabled" then c.enabled else s.enabled
  heartbeatSchedule := if S "heartbeat_schedule" then c.heartbeatSchedule else s.heartbeatSchedule
  teardownTimeoutSecs :=
    if S "teardown_timeout_secs" then c.teardownTimeoutSecs else s.teardownTimeoutSecs

/-- How the settings are mixed. -/
def mixing : record.Mixing where
  mix := mix
  mix_none := fun _ _ => rfl
  mix_congr := fun h c s => by
    simp only [record, List.forall_mem_cons] at h
    simp [mix, h]
  set_other := fun s key value hkey => by
    simp only [record, List.mem_cons, List.not_mem_nil, or_false, not_or] at hkey
    simp [record, hkey, pure, Except.pure]

lemma brings (c : SchedulerSettings) : ∀ entry ∈ c.fieldEntries, mixing.Brings c entry := by
  simp [fieldEntries, RecordType.Mixing.Brings, mixing, mix, record, Value.asFlag, Value.asText]

/-- The encoded settings are a table of the entries. -/
lemma ofJson_toJson (s : SchedulerSettings) : Value.ofJson s.toJson = .table s.fieldEntries := by
  obtain ⟨enabled, heartbeatSchedule, _ | teardownTimeoutSecs⟩ := s <;> rfl

end SchedulerSettings

namespace ProbeSettings

/-- The entries of the fields. -/
def fieldEntries (s : ProbeSettings) : List (String × Value) :=
  [("name", .text s.name), ("address", .text s.address),
    ("connect_timeout_ms", .int s.connectTimeoutMs),
    ("teardown_timeout_secs", .ofUnsigned? s.teardownTimeoutSecs)]

/-- The settings with the chosen fields, and with the documented defaults for the others; name and
address have none and are kept. -/
def settle (S : String → Bool) (s : ProbeSettings) : ProbeSettings where
  name := s.name
  address := s.address
  connectTimeoutMs := if S "connect_timeout_ms" then s.connectTimeoutMs else 5000
  teardownTimeoutSecs := if S "teardown_timeout_secs" then s.teardownTimeoutSecs else none

/-- The encoded settings are a table of the entries. -/
lemma ofJson_toJson (s : ProbeSettings) : Value.ofJson s.toJson = .table s.fieldEntries := by
  obtain ⟨name, address, connectTimeoutMs, _ | teardownTimeoutSecs⟩ := s <;> rfl

end ProbeSettings

namespace ProbeDraft

/-- All the settings of a probe have been read. -/
def ofSettings (s : ProbeSettings) : ProbeDraft :=
  ⟨some s.name, some s.address, s.connectTimeoutMs, s.teardownTimeoutSecs⟩

/-- The chosen fields of the first draft, and the others of the second. -/
def mix (S : String → Bool) (c s : ProbeDraft) : ProbeDraft where
  name := if S "name" then c.name else s.name
  address := if S "address" then c.address else s.address
  connectTimeoutMs := if S "connect_timeout_ms" then c.connectTimeoutMs else s.connectTimeoutMs
  teardownTimeoutSecs :=
    if S "teardown_timeout_secs" then c.teardownTimeoutSecs else s.teardownTimeoutSecs

/-- How drafts are mixed. -/
def mixing : record.Mixing where
  mix := mix
  mix_none := fun _ _ => rfl
  mix_congr := fun h c s => by
    simp only [record, List.forall_mem_cons] at h
    simp [mix, h]
  set_other := fun s key value hkey => by
    simp only [record, List.mem_cons, List.not_mem_nil, or_false, not_or] at hkey
    simp [record, hkey, pure, Except.pure]

lemma brings (c : ProbeSettings) :
    ∀ entry ∈ c.fieldEntries, mixing.Brings (ofSettings c) entry := by
  simp [ProbeSettings.fieldEntries, RecordType.Mixing.Brings, mixing, mix, record, ofSettings,
    Value.asText]

end ProbeDraft

/-- A probe is decoded if its document has a name and an address. -/
lemma ProbeSettings.decode_eq {s : ProbeSettings} {S : String → Bool} (hname : S "name" = true)
    (haddress : S "address" = true) {value : Value} (hvalue : value.Holds s.fieldEntries S)
    (d : Dialect) : decode d value = .ok (s.settle S) := by
  have hread := RecordType.Mixing.read_eq (ProbeDraft.brings s) rfl hvalue d {}
  rw [decode, hread]
  simp only [ProbeDraft.mixing, ProbeDraft.mix, ProbeDraft.ofSettings, hname, haddress, if_true]
  rfl

namespace Configuration

/-- The settings that are documented as the defaults. -/
def documented : Configuration where
  logLevel := "info"
  shutdownTimeoutSecs := 30
  startupJitterMinMs := 0
  startupJitterMaxMs := 0
  http := .documented
  scheduler := .documented
  probes := []

/-- The entries of the fields, with these values for the tables and the probes. -/
def fieldEntries (c : Configuration) (http scheduler : Value) (probes : List Value) :
    List (String × Value) :=
  [("log_level", .text c.logLevel), ("shutdown_timeout_secs", .int c.shutdownTimeoutSecs),
    ("startup_jitter_min_ms", .int c.startupJitterMinMs),
    ("startup_jitter_max_ms", .int c.startupJitterMaxMs), ("http", http),
    ("scheduler", scheduler), ("probes", .list probes)]

/-- The chosen fields of the first settings, and the others of the second. -/
def mix (S : String → Bool) (c s : Configuration) : Configuration where
  logLevel := if S "log_level" then c.logLevel else s.logLevel
  shutdownTimeoutSecs :=
    if S "shutdown_timeout_secs" then c.shutdownTimeoutSecs else s.shutdownTimeoutSecs
  startupJitterMinMs :=
    if S "startup_jitter_min_ms" then c.startupJitterMinMs else s.startupJitterMinMs
  startupJitterMaxMs :=
    if S "startup_jitter_max_ms" then c.startupJitterMaxMs else s.startupJitterMaxMs
  http := if S "http" then c.http else s.http
  scheduler := if S "scheduler" then c.scheduler else s.scheduler
  probes := if S "probes" then c.probes else s.probes

/-- How the settings are mixed. -/
def mixing (d : Dialect) : (record d).Mixing where
  mix := mix
  mix_none := fun _ _ => rfl
  mix_congr := fun h c s => by
    simp only [record, List.forall_mem_cons] at h
    simp [mix, h]
  set_other := fun s key value hkey => by
    simp only [record, List.mem_cons, List.not_mem_nil, or_false, not_or] at hkey
    simp [record, hkey, pure, Except.pure]

/-- An entry of a table or of the probes brings what is decoded from it. -/
lemma brings {c : Configuration} {d : Dialect} {http scheduler : Value} {probes : List Value}
    (hhttp : HttpSettings.record.read d {} http = .ok c.http)
    (hscheduler : SchedulerSettings.record.read d {} scheduler = .ok c.scheduler)
    (hprobes : probes.mapM (ProbeSettings.decode d) = .ok c.probes) :
    ∀ entry ∈ c.fieldEntries http scheduler probes, (mixing d).Brings c entry := by
  simp [fieldEntries, RecordType.Mixing.Brings, mixing, mix, record, Value.asText, hhttp,
    hscheduler, hprobes]

end Configuration

/-! ### Chosen fields -/

/-- A choice of fields of a configuration, at any depth, by their keys. -/
structure Selection where
  /-- The fields of the configuration itself, its tables and its list of probes among them. -/
  top : String → Bool
  /-- The fields of the HTTP server. -/
  http : String → Bool
  /-- The fields of the scheduler. -/
  scheduler : String → Bool
  /-- The fields of each probe, by its place. -/
  probe : Nat → String → Bool

namespace Selection

/-- All fields. -/
def full : Selection := ⟨fun _ => true, fun _ => true, fun _ => true, fun _ _ => true⟩

/-- The configuration with the chosen fields, and with the documented defaults for the others. -/
def settle (S : Selection) (c : Configuration) : Configuration :=
  .mix S.top
    { c with
      http := c.http.mix S.http .documented
      scheduler := c.scheduler.mix S.scheduler .documented
      probes := c.probes.mapIdx fun place probe => probe.settle (S.probe place) } .documented

/-- The documents with the chosen fields of a configuration: in each table the entries of the chosen
fields, in any order and with any others besides. -/
structure Holds (S : Selection) (c : Configuration) (document : Value) : Prop where
  exists_parts : ∃ http scheduler probes,
    http.Holds c.http.fieldEntries S.http ∧ scheduler.Holds c.scheduler.fieldEntries S.scheduler ∧
    List.Forall₂ (fun probe value => value.Holds probe.1.fieldEntries (S.probe probe.2))
      c.probes.zipIdx probes ∧
    document.Holds (c.fieldEntries http scheduler probes) S.top

/-- What is decoded from the items of a list, one by one. -/
lemma mapM_eq_ok {α β γ : Type} {f : β → Decoded γ} {R : α → β → Prop} {g : α → γ} {as : List α}
    {bs : List β} (hf : ∀ a ∈ as, ∀ b, R a b → f b = .ok (g a)) (h : List.Forall₂ R as bs) :
    bs.mapM f = .ok (as.map g) := by
  induction h with
  | nil => rfl
  | cons hab _ ih =>
      rw [List.mapM_cons, hf _ List.mem_cons_self _ hab,
        ih fun a ha => hf a (List.mem_cons_of_mem _ ha)]
      rfl

/-- **A document with chosen fields of a configuration is decoded as that configuration**, with the
documented defaults for the other fields. -/
theorem decode_eq {S : Selection} {c : Configuration} {document : Value} (d : Dialect)
    (hnames : ∀ place < c.probes.length,
      S.probe place "name" = true ∧ S.probe place "address" = true)
    (hdocument : S.Holds c document) : Configuration.decode d document = .ok (S.settle c) := by
  obtain ⟨http, scheduler, probes, hhttp, hscheduler, hprobes, hdocument⟩ := hdocument.exists_parts
  have hhttp := RecordType.Mixing.read_eq c.http.brings rfl hhttp d {}
  have hscheduler := RecordType.Mixing.read_eq c.scheduler.brings rfl hscheduler d {}
  have hprobes : probes.mapM (ProbeSettings.decode d)
      = .ok (c.probes.mapIdx fun place probe => probe.settle (S.probe place)) := by
    rw [List.mapIdx_eq_zipIdx_map]
    refine mapM_eq_ok (fun probe hprobe value hvalue => ?_) hprobes
    have hplace := List.mem_zipIdx_iff_getElem?.mp hprobe
    obtain ⟨hname, haddress⟩ := hnames probe.2 (List.getElem?_eq_some_iff.mp hplace).1
    exact ProbeSettings.decode_eq hname haddress hvalue d
  exact RecordType.Mixing.read_eq (c := { c with
      http := c.http.mix S.http .documented
      scheduler := c.scheduler.mix S.scheduler .documented
      probes := c.probes.mapIdx fun place probe => probe.settle (S.probe place) })
    (Configuration.brings hhttp hscheduler hprobes) rfl hdocument d {}

/-- All fields of a configuration are the configuration. -/
lemma settle_full (c : Configuration) : full.settle c = c := by
  have hprobes : (c.probes.mapIdx fun place probe => probe.settle (full.probe place)) = c.probes :=
    List.mapIdx_eq_iff.mpr fun _ => Option.map_id'.symm
  rw [settle, hprobes]
  rfl

lemma ofItems_map_toJson (probes : List ProbeSettings) :
    Value.ofItems (probes.map (·.toJson)) = probes.map (.table ·.fieldEntries) := by
  induction probes with
  | nil => rfl
  | cons probe probes ih =>
      rw [List.map_cons, Value.ofItems, probe.ofJson_toJson, ih, List.map_cons]

/-- The encoded configuration holds all the fields. -/
lemma holds_full (c : Configuration) : full.Holds c (.ofJson c.toJson) := by
  refine ⟨.table c.http.fieldEntries, .table c.scheduler.fieldEntries,
    c.probes.map (.table ·.fieldEntries), Value.holds_table _, Value.holds_table _, ?_, ?_⟩
  · have hmap : c.probes.map (.table ·.fieldEntries)
        = c.probes.zipIdx.map fun probe => Value.table probe.1.fieldEntries := by
      conv_lhs => rw [← List.zipIdx_map_fst 0 c.probes, List.map_map]
      rfl
    rw [hmap, List.forall₂_map_right_iff, List.forall₂_same]
    exact fun probe _ => Value.holds_table probe.1.fieldEntries
  · have hjson : Value.ofJson c.toJson = .table (c.fieldEntries (.table c.http.fieldEntries)
        (.table c.scheduler.fieldEntries) (c.probes.map (.table ·.fieldEntries))) := by
      rw [← c.http.ofJson_toJson, ← c.scheduler.ofJson_toJson, ← ofItems_map_toJson]
      rfl
    rw [hjson]
    exact Value.holds_table _

/-- **An encoded configuration is decoded as itself.** -/
theorem decode_ofJson_toJson (d : Dialect) (c : Configuration) :
    Configuration.decode d (.ofJson c.toJson) = .ok c := by
  rw [decode_eq d (fun _ _ => ⟨rfl, rfl⟩) (holds_full c), settle_full]

end Selection

/-! ### What cannot be decoded -/

/-- The types of scalar fields. -/
inductive ScalarType
  | text
  | flag
  /-- A number that is not negative. -/
  | unsigned
  /-- Such a number, or nothing. -/
  | optional
deriving DecidableEq, Repr

/-- Whether a value is of a type. -/
def Value.isOf : ScalarType → Value → Bool
  | .text, .text _ | .flag, .bool _ | .optional, .null => true
  | .unsigned, .int value | .optional, .int value => 0 ≤ value
  | _, _ => false

namespace Value

variable {value : Value}

lemma isOf_of_asText {text : String} (h : value.asText = .ok text) : value.isOf .text = true := by
  cases value <;> cases h
  rfl

lemma isOf_of_asFlag {flag : Bool} (h : value.asFlag = .ok flag) : value.isOf .flag = true := by
  cases value <;> cases h
  rfl

lemma isOf_of_asUnsigned {n : Nat} (h : value.asUnsigned = .ok n) :
    value.isOf .unsigned = true := by
  cases value with
  | int value =>
      rw [asUnsigned] at h
      split at h
      · cases h
      · exact decide_eq_true (Int.not_lt.mp ‹_›)
  | _ => cases h

lemma isOf_of_asOption {n : Option Nat} (h : value.asOption asUnsigned = .ok n) :
    value.isOf .optional = true := by
  cases value with
  | null => rfl
  | int value =>
      cases hn : (int value).asUnsigned with
      | error fault =>
          rw [asOption, hn] at h
          · cases h
          · nofun
      | ok m => exact isOf_of_asUnsigned hn
  | _ => cases h

end Value

/-- What a successful step makes of the value it has got. -/
lemma exists_of_bind_eq_ok {α β : Type} {x : Decoded α} {f : α → Decoded β} {b : β}
    (h : x >>= f = .ok b) : ∃ a, x = .ok a ∧ f a = .ok b := by
  cases x with
  | error fault => cases h
  | ok a => exact ⟨a, rfl, h⟩

namespace RecordType

variable {α : Type} {r : RecordType α} {s t : α} {d : Dialect} {value : Value}

/-- The entries of a record: those of a table, or the items of a list in the order of the fields. -/
def entriesOf (r : RecordType α) : Value → List (String × Value)
  | .table entries => entries
  | .list items => r.fields.zip items
  | _ => []

/-- What is read has been laid over. -/
lemma overlay_of_read (h : r.read d s value = .ok t) : r.overlay s (r.entriesOf value) = .ok t := by
  cases value with
  | table entries => exact h
  | datetime => exact h
  | list items =>
      obtain ⟨made, hmade, h⟩ := exists_of_bind_eq_ok h
      dsimp only at h
      split at h
      · cases h
      · split at h
        · cases h
        · exact hmade.trans h
  | _ => cases h

/-- Each of the entries that are laid over a record has been read. -/
lemma exists_set_of_mem {entries : List (String × Value)} {entry : String × Value}
    (h : r.overlay s entries = .ok t) (hentry : entry ∈ entries) :
    ∃ u v, r.set u entry.1 entry.2 = .ok v := by
  induction entries generalizing s with
  | nil => cases hentry
  | cons first entries ih =>
      rw [overlay, List.foldlM_cons] at h
      obtain ⟨u, hu, h⟩ := exists_of_bind_eq_ok h
      rcases List.mem_cons.mp hentry with rfl | hentry
      · exact ⟨s, u, hu⟩
      · exact ih h hentry

/-- What no entry changes stays as it is. -/
lemma overlay_keeps {β : Type} {f : α → β} {entries : List (String × Value)}
    (hset : ∀ entry ∈ entries, ∀ u v, r.set u entry.1 entry.2 = .ok v → f v = f u)
    (h : r.overlay s entries = .ok t) : f t = f s := by
  induction entries generalizing s with
  | nil => exact congrArg f (Except.ok.inj h).symm
  | cons first entries ih =>
      rw [overlay, List.foldlM_cons] at h
      obtain ⟨u, hu, h⟩ := exists_of_bind_eq_ok h
      exact (ih (fun entry hentry => hset entry (List.mem_cons_of_mem first hentry)) h).trans
        (hset first List.mem_cons_self s u hu)

/-- Some entry for a scalar field has a value that is not of its type. -/
def Misfit (r : RecordType α) (scalars : List (String × ScalarType)) (value : Value) : Prop :=
  ∃ key type held, (key, type) ∈ scalars ∧ (key, held) ∈ r.entriesOf value ∧
    held.isOf type = false

/-- A record with such an entry is not read. -/
lemma Misfit.read_ne_ok {scalars : List (String × ScalarType)} (h : r.Misfit scalars value)
    (htyped : ∀ field ∈ scalars, ∀ {u v held}, r.set u field.1 held = .ok v →
      held.isOf field.2 = true) : r.read d s value ≠ .ok t := by
  intro hread
  obtain ⟨key, type, held, hfield, hentry, hnot⟩ := h
  obtain ⟨u, v, hset⟩ := exists_set_of_mem (overlay_of_read hread) hentry
  have hof := htyped (key, type) hfield hset
  rw [hnot] at hof
  cases hof

end RecordType

namespace HttpSettings

/-- The scalar fields and their types. -/
def scalars : List (String × ScalarType) :=
  [("enabled", .flag), ("address", .text), ("request_timeout_secs", .unsigned),
    ("teardown_timeout_secs", .optional)]

lemma isOf_of_set : ∀ field ∈ scalars, ∀ {s t : HttpSettings} {value : Value},
    record.set s field.1 value = .ok t → value.isOf field.2 = true := by
  simp only [scalars, List.forall_mem_cons]
  refine ⟨fun h => ?_, fun h => ?_, fun h => ?_, fun h => ?_, nofun⟩ <;>
    obtain ⟨_, hvalue, -⟩ := exists_of_bind_eq_ok h
  · exact Value.isOf_of_asFlag hvalue
  · exact Value.isOf_of_asText hvalue
  · exact Value.isOf_of_asUnsigned hvalue
  · exact Value.isOf_of_asOption hvalue

end HttpSettings

namespace SchedulerSettings

/-- The scalar fields and their types. -/
def scalars : List (String × ScalarType) :=
  [("enabled", .flag), ("heartbeat_schedule", .text), ("teardown_timeout_secs", .optional)]

lemma isOf_of_set : ∀ field ∈ scalars, ∀ {s t : SchedulerSettings} {value : Value},
    record.set s field.1 value = .ok t → value.isOf field.2 = true := by
  simp only [scalars, List.forall_mem_cons]
  refine ⟨fun h => ?_, fun h => ?_, fun h => ?_, nofun⟩ <;>
    obtain ⟨_, hvalue, -⟩ := exists_of_bind_eq_ok h
  · exact Value.isOf_of_asFlag hvalue
  · exact Value.isOf_of_asText hvalue
  · exact Value.isOf_of_asOption hvalue

end SchedulerSettings

namespace ProbeDraft

/-- The scalar fields and their types. -/
def scalars : List (String × ScalarType) :=
  [("name", .text), ("address", .text), ("connect_timeout_ms", .unsigned),
    ("teardown_timeout_secs", .optional)]

lemma isOf_of_set : ∀ field ∈ scalars, ∀ {s t : ProbeDraft} {value : Value},
    record.set s field.1 value = .ok t → value.isOf field.2 = true := by
  simp only [scalars, List.forall_mem_cons]
  refine ⟨fun h => ?_, fun h => ?_, fun h => ?_, fun h => ?_, nofun⟩ <;>
    obtain ⟨_, hvalue, -⟩ := exists_of_bind_eq_ok h
  · exact Value.isOf_of_asText hvalue
  · exact Value.isOf_of_asText hvalue
  · exact Value.isOf_of_asUnsigned hvalue
  · exact Value.isOf_of_asOption hvalue

variable {s t : ProbeDraft} {d : Dialect} {value : Value}

/-- Only an entry for it sets the name, or the address. -/
lemma eq_of_set {key : String} (h : record.set s key value = .ok t) :
    (key ≠ "name" → t.name = s.name) ∧ (key ≠ "address" → t.address = s.address) := by
  simp only [record] at h
  split at h
  · obtain ⟨_, -, h⟩ := exists_of_bind_eq_ok h
    obtain rfl := Except.ok.inj h
    exact ⟨fun hkey => absurd rfl hkey, fun _ => rfl⟩
  · obtain ⟨_, -, h⟩ := exists_of_bind_eq_ok h
    obtain rfl := Except.ok.inj h
    exact ⟨fun _ => rfl, fun hkey => absurd rfl hkey⟩
  · obtain ⟨_, -, h⟩ := exists_of_bind_eq_ok h
    obtain rfl := Except.ok.inj h
    exact ⟨fun _ => rfl, fun _ => rfl⟩
  · obtain ⟨_, -, h⟩ := exists_of_bind_eq_ok h
    obtain rfl := Except.ok.inj h
    exact ⟨fun _ => rfl, fun _ => rfl⟩
  · obtain rfl := Except.ok.inj h
    exact ⟨fun _ => rfl, fun _ => rfl⟩

/-- Without an entry for a name or an address there is nothing to finish with. -/
lemma finish_ne_ok {p : ProbeSettings} (h : s.name = none ∨ s.address = none) :
    s.finish ≠ .ok p := by
  intro hfinish
  rw [finish] at hfinish
  split at hfinish
  · rename_i hname haddress
    rw [hname, haddress] at h
    rcases h with h | h <;> cases h
  · cases hfinish
  · cases hfinish

end ProbeDraft

namespace ProbeSettings

variable {d : Dialect} {value : Value} {p : ProbeSettings}

/-- A probe whose document lacks the name or the address is not decoded. -/
lemma decode_ne_ok {key : String} (hkey : key = "name" ∨ key = "address")
    (hnone : ∀ entry ∈ ProbeDraft.record.entriesOf value, entry.1 ≠ key) :
    decode d value ≠ .ok p := by
  intro hdecode
  obtain ⟨made, hmade, hfinish⟩ := exists_of_bind_eq_ok hdecode
  have hoverlay := RecordType.overlay_of_read hmade
  refine ProbeDraft.finish_ne_ok ?_ hfinish
  rcases hkey with rfl | rfl
  · exact .inl (RecordType.overlay_keeps
      (fun entry hentry _ _ hset => (ProbeDraft.eq_of_set hset).1 (hnone entry hentry)) hoverlay)
  · exact .inr (RecordType.overlay_keeps
      (fun entry hentry _ _ hset => (ProbeDraft.eq_of_set hset).2 (hnone entry hentry)) hoverlay)

end ProbeSettings

namespace Configuration

/-- The scalar fields and their types. -/
def scalars : List (String × ScalarType) :=
  [("log_level", .text), ("shutdown_timeout_secs", .unsigned),
    ("startup_jitter_min_ms", .unsigned), ("startup_jitter_max_ms", .unsigned)]

lemma isOf_of_set (d : Dialect) : ∀ field ∈ scalars, ∀ {s t : Configuration} {value : Value},
    (record d).set s field.1 value = .ok t → value.isOf field.2 = true := by
  simp only [scalars, List.forall_mem_cons]
  refine ⟨fun h => ?_, fun h => ?_, fun h => ?_, fun h => ?_, nofun⟩ <;>
    obtain ⟨_, hvalue, -⟩ := exists_of_bind_eq_ok h
  · exact Value.isOf_of_asText hvalue
  · exact Value.isOf_of_asUnsigned hvalue
  · exact Value.isOf_of_asUnsigned hvalue
  · exact Value.isOf_of_asUnsigned hvalue

/-- The documents with a scalar of the wrong type, or with an incomplete probe. -/
inductive Misfit (d : Dialect) (document : Value) : Prop
  /-- A scalar of the configuration itself is not of its type. -/
  | own (hscalar : (record d).Misfit scalars document)
  /-- A scalar of the HTTP server is not of its type. -/
  | http {part : Value} (hpart : ("http", part) ∈ (record d).entriesOf document)
      (hscalar : HttpSettings.record.Misfit HttpSettings.scalars part)
  /-- A scalar of the scheduler is not of its type. -/
  | scheduler {part : Value} (hpart : ("scheduler", part) ∈ (record d).entriesOf document)
      (hscalar : SchedulerSettings.record.Misfit SchedulerSettings.scalars part)
  /-- A scalar of a probe is not of its type. -/
  | probe {parts : List Value} {part : Value}
      (hparts : ("probes", .list parts) ∈ (record d).entriesOf document) (hpart : part ∈ parts)
      (hscalar : ProbeDraft.record.Misfit ProbeDraft.scalars part)
  /-- A probe lacks its name or its address. -/
  | incomplete {parts : List Value} {part : Value} {key : String}
      (hparts : ("probes", .list parts) ∈ (record d).entriesOf document) (hpart : part ∈ parts)
      (hkey : key = "name" ∨ key = "address")
      (hnone : ∀ entry ∈ ProbeDraft.record.entriesOf part, entry.1 ≠ key)

/-- Each item of a list that is decoded one by one is decoded. -/
lemma exists_of_mapM_eq_ok {α β : Type} {f : α → Decoded β} {as : List α} {bs : List β}
    (h : as.mapM f = .ok bs) {a : α} (ha : a ∈ as) : ∃ b, f a = .ok b := by
  induction as generalizing bs with
  | nil => cases ha
  | cons first as ih =>
      rw [List.mapM_cons] at h
      obtain ⟨b, hb, h⟩ := exists_of_bind_eq_ok h
      obtain ⟨rest, hrest, -⟩ := exists_of_bind_eq_ok h
      rcases List.mem_cons.mp ha with rfl | ha
      · exact ⟨b, hb⟩
      · exact ih hrest ha

variable {d : Dialect} {document : Value} {c : Configuration}

/-- Each probe of a decoded document is decoded. -/
lemma exists_probe_of_decode (h : decode d document = .ok c) {parts : List Value} {part : Value}
    (hparts : ("probes", .list parts) ∈ (record d).entriesOf document) (hpart : part ∈ parts) :
    ∃ p, ProbeSettings.decode d part = .ok p := by
  obtain ⟨u, v, hset⟩ := RecordType.exists_set_of_mem (RecordType.overlay_of_read h) hparts
  obtain ⟨items, hitems, hset⟩ := exists_of_bind_eq_ok hset
  obtain rfl := Except.ok.inj hitems
  obtain ⟨probes, hprobes, -⟩ := exists_of_bind_eq_ok hset
  exact exists_of_mapM_eq_ok hprobes hpart

/-- **A misfit is not decoded.** -/
theorem Misfit.decode_ne_ok (h : Misfit d document) : decode d document ≠ .ok c := by
  intro hdecode
  have hoverlay := RecordType.overlay_of_read hdecode
  cases h with
  | own hscalar => exact hscalar.read_ne_ok (isOf_of_set d) hdecode
  | http hpart hscalar =>
      obtain ⟨u, v, hset⟩ := RecordType.exists_set_of_mem hoverlay hpart
      obtain ⟨_, hread, -⟩ := exists_of_bind_eq_ok hset
      exact hscalar.read_ne_ok HttpSettings.isOf_of_set hread
  | scheduler hpart hscalar =>
      obtain ⟨u, v, hset⟩ := RecordType.exists_set_of_mem hoverlay hpart
      obtain ⟨_, hread, -⟩ := exists_of_bind_eq_ok hset
      exact hscalar.read_ne_ok SchedulerSettings.isOf_of_set hread
  | probe hparts hpart hscalar =>
      obtain ⟨p, hp⟩ := exists_probe_of_decode hdecode hparts hpart
      obtain ⟨_, hread, -⟩ := exists_of_bind_eq_ok hp
      exact hscalar.read_ne_ok ProbeDraft.isOf_of_set hread
  | incomplete hparts hpart hkey hnone =>
      obtain ⟨p, hp⟩ := exists_probe_of_decode hdecode hparts hpart
      exact ProbeSettings.decode_ne_ok hkey hnone hp

/-! ### The theorem on decoding -/

/-- **Decoding lays a document over the defaults and undoes encoding.**  In either format: a
document that has chosen fields of a configuration, at any depth, with the names and the addresses
of the probes among them, in any order and with any other keys besides, is decoded as the
configuration with the documented defaults in place of the other fields.  So the encoded
configuration is decoded as itself.  A document in which a scalar is not of its type or is negative,
or a probe lacks its name or its address, is not decoded. -/
theorem decode_overlays (d : Dialect) :
    (∀ (S : Selection) (c : Configuration) (document : Value),
      (∀ place < c.probes.length,
        S.probe place "name" = true ∧ S.probe place "address" = true) →
      S.Holds c document → decode d document = .ok (S.settle c)) ∧
    (∀ c : Configuration, decode d (.ofJson c.toJson) = .ok c) ∧
    ∀ document, Misfit d document → ∃ fault, decode d document = .error fault := by
  refine ⟨fun S c document => Selection.decode_eq d, Selection.decode_ofJson_toJson d,
    fun document hmisfit => ?_⟩
  cases hdecode : decode d document with
  | error fault => exact ⟨fault, rfl⟩
  | ok c => exact absurd hdecode hmisfit.decode_ne_ok

/-- A document with a part of the settings, an unknown key, and the keys in an order of its own. -/
def partialDocument : Value :=
  .table [("http", .table [("colour", .text "red"), ("address", .text "127.0.0.1:9000")]),
    ("log_level", .text "debug"),
    ("probes", .list [.table [("address", .text "127.0.0.1:5432"), ("name", .text "store")]]),
    ("unknown", .bool true)]

/-- The fields that it has. -/
def partialSelection : Selection where
  top := (["log_level", "http", "probes"].contains ·)
  http := (· == "address")
  scheduler := fun _ => false
  probe := fun _ key => ["name", "address"].contains key

/-- A configuration with those fields. -/
def partialConfiguration : Configuration where
  logLevel := "debug"
  http := { enabled := false, address := "127.0.0.1:9000" }
  probes := [{ name := "store", address := "127.0.0.1:5432", connectTimeoutMs := 1 }]

lemma partialSelection_holds : partialSelection.Holds partialConfiguration partialDocument := by
  refine ⟨.table [("colour", .text "red"), ("address", .text "127.0.0.1:9000")], .table [],
    [.table [("address", .text "127.0.0.1:5432"), ("name", .text "store")]], ?_, ?_, ?_, ?_⟩
  · exact ⟨[("colour", .text "red")], _, by decide, .swap .., rfl⟩
  · exact ⟨[], _, by decide, .refl _, rfl⟩
  · exact .cons ⟨[], _, by decide, .swap .., rfl⟩ .nil
  · exact ⟨[("unknown", .bool true)], _, by decide, .swap .., rfl⟩

/-- That document is decoded with the defaults for all that it does not have. -/
theorem decode_partialDocument : decode .toml partialDocument = .ok
      { logLevel := "debug", http := { address := "127.0.0.1:9000" },
        probes := [{ name := "store", address := "127.0.0.1:5432" }] } :=
  (decode_overlays .toml).1 partialSelection partialConfiguration partialDocument
    (fun _ _ => ⟨rfl, rfl⟩) partialSelection_holds

end Configuration

end ServiceSupervisor
