import Mathlib.Data.List.Infix
import ServiceSupervisor.CommandLine

/-!
What arguments and an environment ask for.

The arguments are read from the left, an option that has been given waits for its value, and values
are looked at late.  What comes of it can be said of the arguments as a whole: a value is passed for
an option behind an equals sign or as the argument after it, and the environment is asked for what
no argument gives.

* `CommandLine.Passes`, `CommandLine.Chosen`: a value is passed by arguments, or chosen for an
  option by arguments and environment;
* `CommandLine.Stands`: a text stands for a number;
* `CommandLine.Reads`: arguments go into options group by group.  Reading arguments one by one does
  that (`CommandLine.reads_of_readArguments`);
* `CommandLine.Reads.reading`: so each option gets the value that is passed for it;
* `CommandLine.Options.filled_of_fill`: the environment fills what is left;
* `CommandLine.asked_of_parse`: the options of a run are those that are asked for.
-/

namespace ServiceSupervisor

/-! ### Computations that may fail -/

namespace Except

/-- A computation in two parts has a result if both parts have one. -/
lemma bind_eq_ok_iff {ε α β : Type} {x : Except ε α} {f : α → Except ε β} {b : β} :
    x.bind f = .ok b ↔ ∃ a, x = .ok a ∧ f a = .ok b := by
  cases x <;> simp [Except.bind]

/-- Another report of a fault does not touch a result. -/
lemma mapError_eq_ok_iff {ε ε' α : Type} {x : Except ε α} {f : ε → ε'} {a : α} :
    x.mapError f = .ok a ↔ x = .ok a := by
  cases x <;> simp [Except.mapError]

/-- A check of a list passes if it passes for every element. -/
lemma forM_eq_ok_iff {ε α : Type} {check : α → Except ε Unit} {xs : List α} :
    xs.forM check = .ok () ↔ ∀ x ∈ xs, check x = .ok () := by
  induction xs with
  | nil => simp [pure, Except.pure]
  | cons x xs ih =>
      rw [List.forall_mem_cons, ← ih]
      exact bind_eq_ok_iff.trans ⟨fun ⟨_, h⟩ => h, fun h => ⟨(), h⟩⟩

end Except

namespace CommandLine

/-! ### What is asked for -/

/-- Arguments pass a value for an option: behind an equals sign, or as the argument after it. -/
def Passes (arguments : List String) (option value : String) : Prop :=
  option ++ "=" ++ value ∈ arguments ∨ [option, value] <:+: arguments

/-- A value is chosen for an option: arguments pass it, or they pass none and the environment has
it. -/
def Chosen (environment : String → Option String) (arguments : List String)
    (option variable_ value : String) : Prop :=
  Passes arguments option value ∨
    (∀ other, ¬ Passes arguments option other) ∧ environment variable_ = some value

/-- A text stands for a number of 64 bits: its decimal digits, which a plus sign may precede. -/
def Stands (text : String) (number : Nat) : Prop :=
  ∃ digits : List Char, (text.toList = digits ∨ text.toList = '+' :: digits) ∧ digits ≠ [] ∧
    (∀ c ∈ digits, c.isDigit = true) ∧ Text.digitsValue 10 digits = number ∧
      number < 0x10000000000000000

/-- Options are those that arguments and an environment ask for. -/
structure Asked (environment : String → Option String) (arguments : List String) (o : Options) :
    Prop where
  config : ∀ path, o.config = some path ↔
    Chosen environment arguments "--config" "APP_CONFIG" path
  logLevel : ∀ level, o.logLevel = some level ↔
    Chosen environment arguments "--log-level" "LOG_LEVEL" level
  shutdownTimeout : ∀ seconds, o.shutdownTimeout = some seconds ↔ ∃ text,
    Chosen environment arguments "--shutdown-timeout" "SHUTDOWN_TIMEOUT" text ∧
      Stands text seconds
  printConfig : o.printConfig = true ↔ "--print-config" ∈ arguments

/-! ### Numbers -/

/-- Digits that follow a number make it no smaller. -/
lemma le_foldl_digits (value : Nat) (digits : List Char) :
    value ≤ digits.foldl (fun value c => value * 10 + Text.digitValue c) value := by
  induction digits generalizing value with
  | nil => exact Nat.le_refl value
  | cons c digits ih => exact Nat.le_trans (by omega) (ih (value * 10 + Text.digitValue c))

lemma readDigits_eq_ok_iff {value number : Nat} {digits : List Char}
    (hvalue : value < 0x10000000000000000) :
    readDigits value digits = .ok number ↔ (∀ c ∈ digits, c.isDigit = true) ∧
      digits.foldl (fun value c => value * 10 + Text.digitValue c) value = number ∧
        number < 0x10000000000000000 := by
  induction digits generalizing value with
  | nil =>
      rw [readDigits, List.foldl_nil]
      constructor
      · rintro h
        obtain rfl := Except.ok.inj h
        exact ⟨by simp, rfl, hvalue⟩
      · rintro ⟨-, rfl, -⟩
        rfl
  | cons c digits ih =>
      rw [readDigits, List.foldl_cons, List.forall_mem_cons]
      cases hdigit : c.isDigit with
      | false => simp
      | true =>
          have hdigitValue : Text.digitValue c = c.toNat - '0'.toNat := by
            rw [Text.digitValue, if_pos hdigit]
          have hle := le_foldl_digits (value * 10 + Text.digitValue c) digits
          rw [hdigitValue] at hle ⊢
          simp only [Bool.not_true, Bool.false_eq_true, if_false, true_and]
          split
          · rename_i hlt
            exact ih hlt
          · rename_i hge
            refine iff_of_false nofun fun ⟨_, hnumber, hlt⟩ => hge ?_
            omega

/-- **A text is read as the number that it stands for.** -/
theorem readNumber_eq_ok_iff {text : String} {number : Nat} :
    readNumber text = .ok number ↔ Stands text number := by
  have hsign : ('+').isDigit = false := by decide
  rw [readNumber, Stands]
  split
  · rename_i htext
    refine iff_of_false nofun fun ⟨digits, hdigits, hne, _⟩ => hne ?_
    simpa [htext, eq_comm] using hdigits
  · rename_i htext
    refine iff_of_false nofun fun ⟨digits, hdigits, hne, hall, _⟩ => ?_
    rcases hdigits with heq | heq
    · have hplus := hall '+' (by simp [← heq, htext])
      rw [hsign] at hplus
      cases hplus
    · exact hne (by simpa [htext] using heq.symm)
  · rename_i digits hne htext
    rw [readDigits_eq_ok_iff (by decide)]
    constructor
    · rintro ⟨hall, hnumber, hlt⟩
      exact ⟨digits, .inr htext, hne, hall, hnumber, hlt⟩
    · rintro ⟨others, hothers, -, hall, hnumber, hlt⟩
      rcases hothers with heq | heq
      · have hplus := hall '+' (by simp [← heq, htext])
        rw [hsign] at hplus
        cases hplus
      · obtain rfl : digits = others := by simpa [htext] using heq
        exact ⟨hall, hnumber, hlt⟩
  · rename_i hnil _ hplus
    rw [readDigits_eq_ok_iff (by decide)]
    constructor
    · rintro ⟨hall, hnumber, hlt⟩
      exact ⟨text.toList, .inl rfl, hnil, hall, hnumber, hlt⟩
    · rintro ⟨digits, rfl | heq, -, hall, hnumber, hlt⟩
      · exact ⟨hall, hnumber, hlt⟩
      · exact absurd heq (hplus digits)

/-- A text stands for one number at most. -/
lemma Stands.unique {text : String} {number other : Nat} (h : Stands text number)
    (h' : Stands text other) : number = other :=
  Except.ok.inj ((readNumber_eq_ok_iff.mpr h).symm.trans (readNumber_eq_ok_iff.mpr h'))

/-! ### What an argument is -/

/-- An option as it is given. -/
def Setting.option (s : Setting) : String := "--" ++ s.name

lemma Setting.find?_eq_some_iff {name : String} {s : Setting} :
    Setting.all.find? (·.name = name) = some s ↔ s.name = name := by
  constructor
  · intro h
    simpa using List.find?_some h
  · rintro rfl
    cases s <;> decide

lemma Flag.find?_eq_some_iff {name : String} {f : Flag} :
    Flag.all.find? (·.name = name) = some f ↔ f.name = name := by
  constructor
  · intro h
    simpa using List.find?_some h
  · rintro rfl
    cases f <;> decide

namespace Argument

/-- A setting with an equals sign and a value. -/
lemma ofText_joined (s : Setting) (value : String) :
    ofText (s.option ++ "=" ++ value) = long s.name (some value) := by
  cases s <;> simp [ofText, Setting.option, Setting.name, String.toList_append]

/-- A setting alone. -/
lemma ofText_option (s : Setting) : ofText s.option = long s.name none := by
  cases s <;> decide

/-- The end of an argument with two hyphens. -/
lemma eq_of_long {text name : String} {value : Option String}
    (h : ofText text = long name value) :
    text = "--" ++ name ++ (value.elim "" fun value => "=" ++ value) := by
  rw [ofText] at h
  split at h
  · cases h
  · rename_i rest _ htext
    have hcut := (List.takeWhile_append_dropWhile (p := (· ≠ '=')) (l := rest)).symm
    refine String.toList_inj.mp ?_
    split at h
    · rename_i head tail hdrop
      have hhead := List.head_dropWhile_not (l := rest) (· ≠ '=') (by rw [hdrop]; simp)
      simp only [hdrop, List.head_cons, decide_eq_false_iff_not, not_not] at hhead
      cases h
      rw [hdrop, hhead] at hcut
      rw [htext]
      simpa [String.toList_append] using hcut
    · rename_i hdrop
      cases h
      rw [hdrop, List.append_nil] at hcut
      rw [htext]
      simpa [String.toList_append] using hcut
  · cases h
  · cases h

/-- An argument without a hyphen in front is taken as it is. -/
lemma eq_of_plain {text other : String} (h : ofText text = plain other) : other = text := by
  rw [ofText] at h
  split at h
  · cases h
  · split at h <;> cases h
  · cases h
  · exact (Argument.plain.inj h).symm

/-- Two hyphens alone end the options. -/
lemma eq_of_separator {text : String} (h : ofText text = separator) : text = "--" := by
  rw [ofText] at h
  split at h
  · rename_i htext
    exact String.toList_inj.mp htext
  · split at h <;> cases h
  · cases h
  · cases h

end Argument

/-! ### What is passed -/

variable {rest arguments : List String} {s t : Setting} {v w : String}

lemma Setting.option_inj : s.option = t.option ↔ s = t := by
  cases s <;> cases t <;> decide

/-- A value is passed at the front, or further on. -/
lemma passes_cons {argument option : String} : Passes (argument :: rest) option w ↔
    (option ++ "=" ++ w = argument ∨ option = argument ∧ [w] <+: rest) ∨ Passes rest option w := by
  rw [Passes, Passes, List.mem_cons, List.infix_cons_iff, List.cons_prefix_cons]
  tauto

lemma not_passes_nil {option : String} : ¬ Passes [] option w := by
  simp [Passes]

lemma not_passes_separator : ¬ Passes ["--"] s.option w := by
  rw [passes_cons]
  rintro ((h | ⟨h, -⟩) | h)
  · have harguments := congrArg Argument.ofText h
    rw [Argument.ofText_joined, show Argument.ofText "--" = .separator by decide] at harguments
    cases harguments
  · revert h
    cases s <;> decide
  · exact not_passes_nil h

/-- Behind an equals sign there is a value. -/
lemma passes_joined : Passes ((s.option ++ "=" ++ v) :: rest) t.option w ↔
    t = s ∧ w = v ∨ Passes rest t.option w := by
  rw [passes_cons]
  refine or_congr_left ⟨?_, fun ⟨ht, hw⟩ => .inl (by rw [ht, hw])⟩
  rintro (h | ⟨h, -⟩)
  · have harguments := congrArg Argument.ofText h
    rw [Argument.ofText_joined, Argument.ofText_joined] at harguments
    obtain ⟨hname, hvalue⟩ := Argument.long.inj harguments
    exact ⟨Setting.option_inj.mp (congrArg ("--" ++ ·) hname), Option.some.inj hvalue⟩
  · have harguments := congrArg Argument.ofText h
    rw [Argument.ofText_option, Argument.ofText_joined] at harguments
    cases (Argument.long.inj harguments).2

/-- After an option there is its value. -/
lemma passes_spaced (hplain : Argument.ofText v = .plain v) :
    Passes (s.option :: v :: rest) t.option w ↔ t = s ∧ w = v ∨ Passes rest t.option w := by
  have hvalue : ∀ name value, Argument.ofText v ≠ .long name value := by
    rintro name value h
    cases hplain.symm.trans h
  rw [passes_cons, passes_cons, ← or_assoc]
  refine or_congr_left ⟨?_, fun ⟨ht, hw⟩ => .inl (.inr ⟨by rw [ht], by simp [hw]⟩)⟩
  rintro ((h | ⟨h, hw⟩) | (h | ⟨h, -⟩))
  · have harguments := congrArg Argument.ofText h
    rw [Argument.ofText_option, Argument.ofText_joined] at harguments
    cases (Argument.long.inj harguments).2
  · exact ⟨Setting.option_inj.mp h, by simpa using hw⟩
  · exact absurd (h ▸ Argument.ofText_joined t w) (hvalue _ _)
  · exact absurd (h ▸ Argument.ofText_option t) (hvalue _ _)

/-- Printing takes no value. -/
lemma passes_print : Passes ("--print-config" :: rest) s.option w ↔ Passes rest s.option w := by
  rw [passes_cons]
  refine or_iff_right ?_
  rintro (h | ⟨h, -⟩)
  · have harguments := congrArg Argument.ofText h
    rw [Argument.ofText_joined] at harguments
    cases (Argument.long.inj harguments).2
  · revert h
    cases s <;> decide

/-! ### What options have for a setting -/

/-- The value of a setting, once it has been looked at. -/
inductive Value
  | text (text : String)
  | number (number : Nat)

/-- The value that options have for a setting. -/
def Options.get (o : Options) : Setting → Option Value
  | .config => o.config.map .text
  | .logLevel => o.logLevel.map .text
  | .shutdownTimeout => o.shutdownTimeout.map .number

/-- A text is looked at, and there is a value for a setting. -/
def Setting.Denotes (text : String) (value : Value) : Setting → Prop
  | .config | .logLevel => value = .text text
  | .shutdownTimeout => ∃ number, value = .number number ∧ Stands text number

namespace Options

variable {o o₁ o₂ : Options}

lemma has_eq : o.has s = (o.get s).isSome := by
  cases s <;> simp [has, get]

/-- A setting that gets a text has the value of that text. -/
lemma get_of_put (h : o.put s v = .ok o₁) : ∃ value, s.Denotes v value ∧ o₁.get s = some value := by
  cases s with
  | config =>
      rw [put] at h
      split at h
      · cases h
      · cases h
        exact ⟨.text v, rfl, rfl⟩
  | logLevel =>
      cases h
      exact ⟨.text v, rfl, rfl⟩
  | shutdownTimeout =>
      rw [put] at h
      split at h
      · rename_i seconds hseconds
        cases h
        exact ⟨.number seconds, ⟨seconds, rfl, readNumber_eq_ok_iff.mp hseconds⟩, rfl⟩
      · cases h

/-- Nothing else of the options changes. -/
lemma frame_of_put (h : o.put s v = .ok o₁) :
    (∀ t, t ≠ s → o₁.get t = o.get t) ∧ o₁.printConfig = o.printConfig := by
  cases s with
  | config =>
      rw [put] at h
      split at h
      · cases h
      · cases h
        exact ⟨fun t ht => by cases t <;> simp_all [get], rfl⟩
  | logLevel =>
      cases h
      exact ⟨fun t ht => by cases t <;> simp_all [get], rfl⟩
  | shutdownTimeout =>
      rw [put] at h
      split at h
      · cases h
        exact ⟨fun t ht => by cases t <;> simp_all [get], rfl⟩
      · cases h

end Options

/-! ### Reading arguments group by group -/

section Reads

/-- Arguments go into options, one group after the other: a setting with its value, which it did not
have before, or the request to print, or the end. -/
inductive Reads : Options → List String → Options → Prop
  | done {o : Options} : Reads o [] o
  | separator {o : Options} : Reads o ["--"] o
  | joined {o o₁ o₂ : Options} {s : Setting} {v : String} {rest : List String}
      (hnone : o.get s = none) (hput : o.put s v = .ok o₁) (h : Reads o₁ rest o₂) :
      Reads o ((s.option ++ "=" ++ v) :: rest) o₂
  | spaced {o o₁ o₂ : Options} {s : Setting} {v : String} {rest : List String}
      (hplain : Argument.ofText v = .plain v) (hnone : o.get s = none)
      (hput : o.put s v = .ok o₁) (h : Reads o₁ rest o₂) : Reads o (s.option :: v :: rest) o₂
  | print {o o₂ : Options} {rest : List String} (hfalse : o.printConfig = false)
      (h : Reads { o with printConfig := true } rest o₂) : Reads o ("--print-config" :: rest) o₂

/-- What becomes of a setting: nothing is passed for it and it stays as it is, or one value is
passed for it and it had none. -/
def Reading (o : Options) (arguments : List String) (o' : Options) (s : Setting) : Prop :=
  (∀ w, ¬ Passes arguments s.option w) ∧ o'.get s = o.get s ∨
    o.get s = none ∧ ∃ v value, (∀ w, Passes arguments s.option w ↔ w = v) ∧ s.Denotes v value ∧
      o'.get s = some value

variable {o o₁ o₂ : Options}

/-- A setting gets a value, and then the other arguments are read. -/
lemma Reading.pass (hpasses : ∀ w, Passes arguments t.option w ↔
      t = s ∧ w = v ∨ Passes rest t.option w)
    (hnone : o.get s = none) (hput : o.put s v = .ok o₁) (h : Reading o₁ rest o₂ t) :
    Reading o arguments o₂ t := by
  by_cases hts : t = s
  · subst hts
    obtain ⟨value, hdenotes, hvalue⟩ := Options.get_of_put hput
    rcases h with ⟨hnever, hsame⟩ | ⟨hempty, -⟩
    · refine .inr ⟨hnone, v, value, fun w => ?_, hdenotes, hsame.trans hvalue⟩
      simp [hpasses, hnever]
    · rw [hvalue] at hempty
      cases hempty
  · have hget := (Options.frame_of_put hput).1 t hts
    simpa only [Reading, hpasses, hts, false_and, false_or, hget] using h

/-- **Each setting gets the value that is passed for it.** -/
theorem Reads.reading (h : Reads o arguments o₂) (t : Setting) : Reading o arguments o₂ t := by
  induction h with
  | done => exact .inl ⟨fun _ => not_passes_nil, rfl⟩
  | separator => exact .inl ⟨fun _ => not_passes_separator, rfl⟩
  | joined hnone hput _ ih => exact ih.pass (fun _ => passes_joined) hnone hput
  | spaced hplain hnone hput _ ih => exact ih.pass (fun _ => passes_spaced hplain) hnone hput
  | print _ _ ih => simpa only [Reading, passes_print, Options.get] using ih

/-- The configuration is printed if that is asked for. -/
theorem Reads.printConfig_iff (h : Reads o arguments o₂) :
    o₂.printConfig = true ↔ o.printConfig = true ∨ "--print-config" ∈ arguments := by
  have hprint : Argument.ofText "--print-config" = .long "print-config" none := by decide
  induction h with
  | done => simp
  | separator => simp
  | @joined _ _ _ s v _ _ hput _ ih =>
      have hne : "--print-config" ≠ s.option ++ "=" ++ v := by
        intro heq
        rw [heq, Argument.ofText_joined] at hprint
        cases (Argument.long.inj hprint).2
      simp [ih, (Options.frame_of_put hput).2, hne]
  | @spaced _ _ _ s v _ hplain _ hput _ ih =>
      have hoption : "--print-config" ≠ s.option := by
        cases s <;> decide
      have hvalue : "--print-config" ≠ v := by
        rintro rfl
        cases hprint.symm.trans hplain
      simp [ih, (Options.frame_of_put hput).2, hoption, hvalue]
  | print _ _ ih => simp [ih]

end Reads

/-! ### Reading arguments one by one -/

namespace Draft

variable {d d₁ d' : Draft}

/-- The arguments that have been taken and whose value has not been looked at. -/
def unread (d : Draft) : List String :=
  match d.pending with
  | none => []
  | some (s, none) => [s.option]
  | some (s, some v) => [s.option, v]

/-- A value that waits has come as an argument of its own. -/
def Sound (d : Draft) : Prop :=
  ∀ s v, d.pending = some (s, some v) → Argument.ofText v = .plain v

lemma sound_of_pending (h : ∀ s v, d.pending ≠ some (s, some v)) : d.Sound :=
  fun s v hpending => absurd hpending (h s v)

lemma unread_of_none (h : d.pending = none) : d.unread = [] := by
  rw [unread, h]

/-- Printing is asked for once. -/
lemma options_of_print (h : d.print = .ok d₁) : d.options.printConfig = false ∧
    d₁.options = { d.options with printConfig := true } ∧ d₁.pending = d.pending := by
  rw [print] at h
  split at h
  · cases h
  · rename_i hprint
    cases h
    exact ⟨Bool.eq_false_iff.mpr hprint, rfl, rfl⟩

/-- A setting gets a value only if it has none. -/
lemma put_of_assign (h : d.assign s (some v) = .ok d₁) :
    d.options.get s = none ∧ d.options.put s v = .ok d₁.options ∧ d₁.pending = d.pending := by
  rw [assign] at h
  split at h
  · cases h
  · rename_i hhas
    obtain ⟨o, hput, hd⟩ := Except.bind_eq_ok_iff.mp h
    cases hd
    refine ⟨?_, hput, rfl⟩
    simpa [Options.has_eq] using hhas

/-- When the value that waits has been looked at, nothing is left unread. -/
lemma reads_of_settle (hsound : d.Sound) (h : d.settle = .ok d₁) : d₁.pending = none ∧
    ∀ {rest o}, Reads d₁.options rest o → Reads d.options (d.unread ++ rest) o := by
  rw [settle] at h
  cases hpending : d.pending with
  | none =>
      rw [hpending] at h
      cases h
      refine ⟨hpending, fun hreads => ?_⟩
      rwa [unread, hpending]
  | some waiting =>
      obtain ⟨s, value⟩ := waiting
      rw [hpending] at h
      cases value with
      | none => cases h
      | some v =>
          obtain ⟨hnone, hput, hd⟩ := put_of_assign h
          refine ⟨hd, fun hreads => ?_⟩
          rw [unread, hpending]
          exact .spaced (hsound s v hpending) hnone hput hreads

/-- A setting that gets its value behind an equals sign is a group. -/
lemma reads_of_assign {d₂ : Draft} (hsound : d.Sound) (hsettle : d.settle = .ok d₁)
    (hassign : d₁.assign s (some v) = .ok d₂) : d₂.Sound ∧
      ∀ {o}, Reads d₂.options (d₂.unread ++ rest) o →
        Reads d.options (d.unread ++ (s.option ++ "=" ++ v) :: rest) o := by
  obtain ⟨hpending, hreads⟩ := reads_of_settle hsound hsettle
  obtain ⟨hnone, hput, hstill⟩ := put_of_assign hassign
  rw [hpending] at hstill
  refine ⟨sound_of_pending (by simp [hstill]), fun hrest => hreads (.joined hnone hput ?_)⟩
  rwa [unread_of_none hstill] at hrest

/-- The request to print is a group. -/
lemma reads_of_print {d₂ : Draft} (hsound : d.Sound) (hsettle : d.settle = .ok d₁)
    (hprint : d₁.print = .ok d₂) : d₂.Sound ∧
      ∀ {o}, Reads d₂.options (d₂.unread ++ rest) o →
        Reads d.options (d.unread ++ "--print-config" :: rest) o := by
  obtain ⟨hpending, hreads⟩ := reads_of_settle hsound hsettle
  obtain ⟨hfalse, hoptions, hstill⟩ := options_of_print hprint
  rw [hpending] at hstill
  refine ⟨sound_of_pending (by simp [hstill]), fun hrest => hreads (.print hfalse ?_)⟩
  rwa [unread_of_none hstill, hoptions] at hrest

end Draft

/-- **Arguments that are read one by one are read group by group**, those first that have been taken
and not been looked at. -/
theorem reads_of_readArguments {d d' : Draft} (hsound : d.Sound)
    (h : readArguments d arguments = .ok (some d')) :
    Reads d.options (d.unread ++ arguments) d'.options := by
  induction arguments generalizing d with
  | nil =>
      obtain ⟨d₁, hsettle, hd⟩ := Except.bind_eq_ok_iff.mp h
      cases hd
      exact (Draft.reads_of_settle hsound hsettle).2 .done
  | cons text rest ih =>
      unfold readArguments at h
      cases hargument : Argument.ofText text with
      | separator =>
          obtain rfl := Argument.eq_of_separator hargument
          simp only [hargument] at h
          cases rest with
          | nil =>
              obtain ⟨d₁, hsettle, hd⟩ := Except.bind_eq_ok_iff.mp h
              cases hd
              exact (Draft.reads_of_settle hsound hsettle).2 .separator
          | cons _ _ => cases h
      | short letter =>
          simp only [hargument] at h
          split at h
          · obtain ⟨_, -, hd⟩ := Except.bind_eq_ok_iff.mp h
            cases hd
          · cases h
      | plain other =>
          obtain rfl := Argument.eq_of_plain hargument
          simp only [hargument] at h
          split at h
          · rename_i s hpending
            have hreads := ih (fun t v ht => by cases ht; exact hargument) h
            simpa only [Draft.unread, hpending, List.cons_append, List.nil_append] using hreads
          · cases h
      | long name value =>
          have htext := Argument.eq_of_long hargument
          simp only [hargument] at h
          split at h
          · rename_i _ s v hfind
            obtain rfl := Setting.find?_eq_some_iff.mp hfind
            obtain ⟨d₁, hsettle, hrest⟩ := Except.bind_eq_ok_iff.mp h
            obtain ⟨d₂, hassign, hread⟩ := Except.bind_eq_ok_iff.mp hrest
            obtain rfl : text = s.option ++ "=" ++ v := by
              rw [htext, Option.elim_some, ← String.append_assoc]
              rfl
            obtain ⟨hsound₂, hreads⟩ := Draft.reads_of_assign hsound hsettle hassign
            exact hreads (ih hsound₂ hread)
          · rename_i _ s hfind
            obtain rfl := Setting.find?_eq_some_iff.mp hfind
            obtain ⟨d₁, hsettle, hread⟩ := Except.bind_eq_ok_iff.mp h
            obtain rfl : text = s.option := by
              rw [htext, Option.elim_none, String.append_empty]
              rfl
            exact (Draft.reads_of_settle hsound hsettle).2
              (ih (Draft.sound_of_pending (by simp)) hread)
          · cases h
          · obtain ⟨_, -, hd⟩ := Except.bind_eq_ok_iff.mp h
            cases hd
          · rename_i hfind
            obtain rfl := Flag.find?_eq_some_iff.mp hfind
            obtain ⟨d₁, hsettle, hrest⟩ := Except.bind_eq_ok_iff.mp h
            obtain ⟨d₂, hprint, hread⟩ := Except.bind_eq_ok_iff.mp hrest
            obtain rfl : text = "--print-config" := by
              rw [htext, Option.elim_none, String.append_empty]
              rfl
            obtain ⟨hsound₂, hreads⟩ := Draft.reads_of_print hsound hsettle hprint
            exact hreads (ih hsound₂ hread)
          · cases h

/-! ### The environment -/

/-- What the environment does for a setting: nothing if it has a value or the environment has no
text, and else the value is that of the text. -/
def Filled (environment : String → Option String) (o o' : Options) (s : Setting) : Prop :=
  o'.get s = o.get s ∧ (o.get s ≠ none ∨ environment s.variable_ = none) ∨
    o.get s = none ∧ ∃ v value, environment s.variable_ = some v ∧ s.Denotes v value ∧
      o'.get s = some value

/-- One setting is filled, and nothing else of the options changes. -/
lemma Options.fill_step {environment : String → Option String} {o o' : Options}
    (h : (match environment s.variable_ with
      | some value => if o.has s then Except.ok o else o.put s value
      | none => .ok o) = .ok o') :
    Filled environment o o' s ∧ (∀ t, t ≠ s → o'.get t = o.get t) ∧
      o'.printConfig = o.printConfig := by
  split at h
  · rename_i v hv
    split at h
    · rename_i hhas
      cases h
      rw [has_eq, Option.isSome_iff_ne_none] at hhas
      exact ⟨.inl ⟨rfl, .inl hhas⟩, fun _ _ => rfl, rfl⟩
    · rename_i hhas
      rw [has_eq, Option.isSome_iff_ne_none, not_not] at hhas
      obtain ⟨value, hdenotes, hvalue⟩ := get_of_put h
      exact ⟨.inr ⟨hhas, v, value, hv, hdenotes, hvalue⟩, frame_of_put h⟩
  · rename_i hv
    cases h
    exact ⟨.inl ⟨rfl, .inr hv⟩, fun _ _ => rfl, rfl⟩

/-- **The environment fills what is left**, setting by setting. -/
theorem Options.filled_of_fill {environment : String → Option String} {o o' : Options}
    (h : o.fill environment = .ok o') :
    (∀ s, Filled environment o o' s) ∧ o'.printConfig = o.printConfig := by
  obtain ⟨o₁, h₁, h⟩ := Except.bind_eq_ok_iff.mp h
  obtain ⟨o₂, h₂, h⟩ := Except.bind_eq_ok_iff.mp h
  obtain ⟨o₃, h₃, h⟩ := Except.bind_eq_ok_iff.mp h
  cases h
  obtain ⟨hfilled₁, hframe₁, hprint₁⟩ := fill_step (s := .config) h₁
  obtain ⟨hfilled₂, hframe₂, hprint₂⟩ := fill_step (s := .logLevel) h₂
  obtain ⟨hfilled₃, hframe₃, hprint₃⟩ := fill_step (s := .shutdownTimeout) h₃
  refine ⟨fun s => ?_, hprint₃.trans (hprint₂.trans hprint₁)⟩
  cases s with
  | config =>
      rwa [Filled, hframe₃ .config nofun, hframe₂ .config nofun]
  | logLevel =>
      rw [Filled, hframe₃ .logLevel nofun, ← hframe₁ .logLevel nofun]
      exact hfilled₂
  | shutdownTimeout =>
      rw [Filled, ← hframe₁ .shutdownTimeout nofun, ← hframe₂ .shutdownTimeout nofun]
      exact hfilled₃

/-! ### What a run is asked for -/

/-- The arguments of a run are read group by group, and then the environment is asked. -/
lemma reads_of_parse {environment : String → Option String} {o : Options}
    (h : Request.parse environment arguments = .ok (.run o)) :
    ∃ given, Reads {} arguments given ∧ given.fill environment = .ok o := by
  obtain ⟨draft, hread, hrest⟩ := Except.bind_eq_ok_iff.mp h
  cases draft with
  | none => cases hrest
  | some d =>
      obtain ⟨o', hfill, ho⟩ := Except.bind_eq_ok_iff.mp hrest
      cases ho
      exact ⟨d.options, reads_of_readArguments (Draft.sound_of_pending (by simp)) hread, hfill⟩

/-- What options have for a setting is what is chosen for it. -/
lemma chosen_of_parse {environment : String → Option String} {o : Options}
    (h : Request.parse environment arguments = .ok (.run o)) (s : Setting) :
    (o.get s = none ∧ ∀ w, ¬ Chosen environment arguments s.option s.variable_ w) ∨
      ∃ v value, (∀ w, Chosen environment arguments s.option s.variable_ w ↔ w = v) ∧
        s.Denotes v value ∧ o.get s = some value := by
  obtain ⟨given, hreads, hfill⟩ := reads_of_parse h
  have hempty : ({} : Options).get s = none := by
    cases s <;> rfl
  have hfilled := (Options.filled_of_fill hfill).1 s
  rcases hreads.reading s with ⟨hnever, hnone⟩ | ⟨-, v, value, hpasses, hdenotes, hvalue⟩
  · rw [hempty] at hnone
    rcases hfilled with ⟨hsame, hno⟩ | ⟨-, v, value, hv, hdenotes, hvalue⟩
    · refine .inl ⟨hsame.trans hnone, ?_⟩
      simp [Chosen, hnever, hno.resolve_left (not_not.mpr hnone)]
    · refine .inr ⟨v, value, fun w => ?_, hdenotes, hvalue⟩
      simp [Chosen, hnever, hv, eq_comm]
  · rcases hfilled with ⟨hsame, -⟩ | ⟨hnone, -⟩
    · refine .inr ⟨v, value, fun w => ?_, hdenotes, hsame.trans hvalue⟩
      simp [Chosen, hpasses]
    · rw [hvalue] at hnone
      cases hnone

/-- A setting whose value is a text has the text that is chosen for it. -/
lemma text_of_parse {environment : String → Option String} {o : Options}
    (h : Request.parse environment arguments = .ok (.run o)) (s : Setting) {slot : Option String}
    (hslot : o.get s = slot.map .text)
    (hdenotes : ∀ v value, s.Denotes v value → value = .text v) (text : String) :
    slot = some text ↔ Chosen environment arguments s.option s.variable_ text := by
  rcases chosen_of_parse h s with ⟨hnone, hno⟩ | ⟨v, value, hiff, hvalue, hget⟩
  · rw [hslot, Option.map_eq_none_iff] at hnone
    exact iff_of_false (by simp [hnone]) (hno text)
  · obtain rfl := hdenotes v value hvalue
    obtain ⟨v', rfl, heq⟩ := Option.map_eq_some_iff.mp (hslot.symm.trans hget)
    obtain rfl := Value.text.inj heq
    rw [Option.some_inj, eq_comm]
    exact (hiff text).symm

/-- **The options of a run are those that arguments and environment ask for.** -/
theorem asked_of_parse {environment : String → Option String} {o : Options}
    (h : Request.parse environment arguments = .ok (.run o)) :
    Asked environment arguments o where
  config := text_of_parse h .config rfl fun _ _ => id
  logLevel := text_of_parse h .logLevel rfl fun _ _ => id
  shutdownTimeout seconds := by
    rcases chosen_of_parse h .shutdownTimeout with
      ⟨hnone, hno⟩ | ⟨v, _, hiff, ⟨number, rfl, hstands⟩, hvalue⟩
    · have htimeout : o.shutdownTimeout = none := by simpa [Options.get] using hnone
      exact iff_of_false (by simp [htimeout]) fun ⟨text, htext, _⟩ => hno text htext
    · have htimeout : o.shutdownTimeout = some number := by simpa [Options.get] using hvalue
      rw [htimeout, Option.some_inj]
      constructor
      · rintro rfl
        exact ⟨v, (hiff v).mpr rfl, hstands⟩
      · rintro ⟨text, htext, hother⟩
        obtain rfl := (hiff text).mp htext
        exact hstands.unique hother
  printConfig := by
    obtain ⟨given, hreads, hfill⟩ := reads_of_parse h
    rw [(Options.filled_of_fill hfill).2, hreads.printConfig_iff]
    simp

end CommandLine

end ServiceSupervisor
