import Mathlib
import RefCycle.Config.Grammar
import RefCycle.Proofs.Text.Reading
/-!
# Reading a configuration from the environment

A configuration is read exactly if every setting that is given is well formed and the tick
threshold is not zero; then it is what is given, and the default elsewhere. Otherwise the
first fault is reported.

## Main statements

* `ticks?_eq_some_iff`, `interval?_eq_some_iff`, `spare?_eq_some_iff` — what is read of a
  single text.
* `Environment.read_cases` — what is read of a single setting.
* `FirstFault.unique`, `Describes.same` — an environment is not ambiguous.
* `ofEnvironment_cases` — the two ways in which reading can go.
* `ofEnvironment_exact` — when a configuration is read, what it is, which fault is reported,
  and that printing can be undone.
-/

namespace RefCycle

open Text

variable {text : String} {config : Config} {setting : Setting} {environment : Environment}

/-! ### Texts -/

namespace Config

theorem ticks?_eq_some_iff :
    ticks? text = some config.tickThreshold ↔ Setting.ticks.Denotes text config := by
  rw [Setting.Denotes, exists_core_iff, ticks?, Option.map_eq_some_iff]
  simp only [numeral?_eq_some_iff]
  constructor
  · rintro ⟨n, ⟨numeral, small⟩, eq⟩
    rw [← eq, UInt32.toNat_ofNat_of_lt' (Nat.lt_succ_of_le small)]
    exact numeral
  · intro numeral
    exact ⟨_, ⟨numeral, Nat.le_of_lt_succ config.tickThreshold.toNat_lt⟩, UInt32.ofNat_toNat⟩

theorem interval?_eq_some_iff :
    interval? text = some config.scanInterval ↔ Setting.interval.Denotes text config := by
  rw [Setting.Denotes, exists_core_iff, interval?, Option.map_eq_some_iff]
  simp only [numeral?_eq_some_iff, and_assoc]
  refine exists_congr fun n => and_congr_right fun _ => and_congr_right fun small => ?_
  rw [← Duration.toNanos_inj, Duration.toNanos_ofMicros,
    UInt64.toNat_ofNat_of_lt' (Nat.lt_succ_of_le small), eq_comm]

theorem spare?_eq_some_iff :
    spare? text = some config.spareFirstWorker ↔ Setting.spare.Denotes text config := by
  rw [Setting.Denotes, exists_core_iff, spare?]
  dsimp only
  generalize String.ofList (trim text.toList) = answer
  have apart : ∀ answer ∈ Setting.words true, answer ∉ Setting.words false := by decide
  split
  · rename_i yes
    cases config.spareFirstWorker with
    | false => exact iff_of_false nofun (apart answer yes)
    | true => exact iff_of_true rfl yes
  · rename_i other
    split
    · rename_i no
      cases config.spareFirstWorker with
      | false => exact iff_of_true rfl no
      | true => exact iff_of_false nofun other
    · rename_i neither
      cases config.spareFirstWorker with
      | false => exact iff_of_false nofun neither
      | true => exact iff_of_false nofun other

end Config

namespace Setting

theorem Denotes.accepts (denotes : setting.Denotes text config) : setting.Accepts text := by
  obtain ⟨core, isCore, denotes⟩ := denotes
  refine ⟨core, isCore, ?_⟩
  cases setting with
  | ticks => exact ⟨_, denotes, Nat.le_of_lt_succ config.tickThreshold.toNat_lt⟩
  | interval =>
    obtain ⟨n, numeral, small, -⟩ := denotes
    exact ⟨n, numeral, small⟩
  | spare => exact ⟨_, denotes⟩

/-- A well-formed text denotes something. -/
theorem Accepts.denotes (accepted : setting.Accepts text) :
    ∃ config, setting.Denotes text config := by
  obtain ⟨core, isCore, accepted⟩ := accepted
  cases setting with
  | ticks =>
    obtain ⟨n, numeral, small⟩ := accepted
    refine ⟨{ Config.default with tickThreshold := .ofNat n }, core, isCore, ?_⟩
    dsimp only
    rw [UInt32.toNat_ofNat_of_lt' (Nat.lt_succ_of_le small)]
    exact numeral
  | interval =>
    obtain ⟨n, numeral, small⟩ := accepted
    refine ⟨{ Config.default with scanInterval := .ofMicros (.ofNat n) }, core, isCore, n,
      numeral, small, ?_⟩
    rw [Duration.toNanos_ofMicros, UInt64.toNat_ofNat_of_lt' (Nat.lt_succ_of_le small)]
  | spare =>
    obtain ⟨answer, word⟩ := accepted
    exact ⟨{ Config.default with spareFirstWorker := answer }, core, isCore, word⟩

/-- A text denotes one value only. -/
theorem Denotes.same {other : Config} (denotes : setting.Denotes text config)
    (also : setting.Denotes text other) : setting.Same config other := by
  cases setting with
  | ticks =>
    exact Option.some.inj
      ((Config.ticks?_eq_some_iff.2 denotes).symm.trans (Config.ticks?_eq_some_iff.2 also))
  | interval =>
    exact Option.some.inj
      ((Config.interval?_eq_some_iff.2 denotes).symm.trans (Config.interval?_eq_some_iff.2 also))
  | spare =>
    exact Option.some.inj
      ((Config.spare?_eq_some_iff.2 denotes).symm.trans (Config.spare?_eq_some_iff.2 also))

theorem eq_of_same {other : Config} (same : ∀ setting : Setting, setting.Same config other) :
    config = other := by
  obtain ⟨ticks, interval, spare⟩ := config
  obtain rfl : ticks = other.tickThreshold := same .ticks
  obtain rfl : interval = other.scanInterval := same .interval
  obtain rfl : spare = other.spareFirstWorker := same .spare
  rfl

end Setting

/-! ### Settings -/

namespace Environment

theorem lookup_eq_some_iff :
    environment.lookup setting = some text ↔ environment.Gives setting text := by
  rw [lookup, Option.bind_eq_some_iff, Gives]
  constructor
  · rintro ⟨bytes, here, read⟩
    rw [String.fromUTF8?] at read
    split at read
    · cases read
      exact here
    · contradiction
  · intro here
    exact ⟨_, here, dif_pos text.isValidUTF8⟩

theorem Gives.unique {other : String} (given : environment.Gives setting text)
    (also : environment.Gives setting other) : text = other :=
  Option.some.inj ((lookup_eq_some_iff.2 given).symm.trans (lookup_eq_some_iff.2 also))

/-- If a reader reads of texts what they denote for a setting, then reading the setting
    reports a text that is not well formed, and otherwise leads to the value that is given,
    or the default. -/
theorem read_cases {α : Type} {value? : String → Option α} {field : Config → α}
    (reads : ∀ {text config}, value? text = some (field config) ↔ setting.Denotes text config)
    (onto : Function.Surjective field) (environment : Environment) :
    (∃ text, environment.Gives setting text ∧ ¬setting.Accepts text ∧
      environment.read setting value? (field .default) = .error (.invalidValue setting text)) ∨
    ∃ value, environment.read setting value? (field .default) = .ok value ∧
      environment.Fine setting ∧ ∀ config, field config = value →
        (∀ text, environment.Gives setting text → setting.Denotes text config) ∧
        ((∀ text, ¬environment.Gives setting text) → field config = field .default) := by
  rw [read]
  split
  · rename_i absent
    have silent : ∀ text, ¬environment.Gives setting text := fun text given =>
      Option.some_ne_none _ ((lookup_eq_some_iff.2 given).symm.trans absent)
    exact .inr ⟨_, rfl, fun text given => absurd given (silent text), fun config same =>
      ⟨fun text given => absurd given (silent text), fun _ => same⟩⟩
  · rename_i text present
    have given := lookup_eq_some_iff.1 present
    split
    · rename_i value found
      have denotes : ∀ config, field config = value → ∀ other,
          environment.Gives setting other → setting.Denotes other config := by
        rintro config rfl other also
        exact given.unique also ▸ reads.1 found
      refine .inr ⟨value, rfl, fun other also => ?_, fun config same =>
        ⟨denotes config same, fun silent => absurd given (silent text)⟩⟩
      obtain ⟨config, same⟩ := onto value
      exact (denotes config same other also).accepts
    · rename_i nothing
      refine .inl ⟨text, given, fun accepted => ?_, rfl⟩
      obtain ⟨config, denotes⟩ := accepted.denotes
      exact Option.some_ne_none _ ((reads.2 denotes).symm.trans nothing)

theorem FirstFault.unique {other : Setting} {also : String}
    (fault : environment.FirstFault setting text) (second : environment.FirstFault other also) :
    setting = other ∧ text = also := by
  obtain ⟨given, refused, before⟩ := fault
  obtain ⟨given', refused', before'⟩ := second
  obtain lt | eq | gt := Nat.lt_trichotomy setting.place other.place
  · exact absurd (before' setting lt text given) refused
  · obtain rfl : setting = other := by
      revert eq
      cases setting <;> cases other <;> decide
    exact ⟨rfl, given.unique given'⟩
  · exact absurd (before other gt also given') refused'

theorem Describes.fine (described : environment.Describes setting config) :
    environment.Fine setting :=
  fun text given => (described.1 text given).accepts

theorem Describes.same {other : Config} (described : environment.Describes setting config)
    (also : environment.Describes setting other) : setting.Same config other := by
  by_cases given : ∃ text, environment.Gives setting text
  · obtain ⟨text, given⟩ := given
    exact (described.1 text given).same (also.1 text given)
  · have silent := not_exists.1 given
    have first := described.2 silent
    have second := also.2 silent
    cases setting <;> exact Eq.trans first (Eq.symm second)

/-- The default is not zero. -/
theorem Describes.zero_iff (described : environment.Describes .ticks config) :
    config.tickThreshold = 0 ↔ environment.GivesZero := by
  constructor
  · intro zero
    by_cases given : ∃ text, environment.Gives .ticks text
    · obtain ⟨text, given⟩ := given
      obtain ⟨core, isCore, numeral⟩ := described.1 text given
      dsimp only at numeral
      rw [zero] at numeral
      exact ⟨text, core, given, isCore, numeral⟩
    · have default : config.tickThreshold = 10 := described.2 (not_exists.1 given)
      rw [zero] at default
      contradiction
  · rintro ⟨text, core, given, isCore, numeral⟩
    obtain ⟨core', isCore', numeral'⟩ := described.1 text given
    obtain rfl : core = core' := isCore.trim_eq.symm.trans isCore'.trim_eq
    exact UInt32.toNat_inj.1 (numeral'.unique numeral)

end Environment

/-! ### The whole environment -/

namespace Config

open Environment

/-- Either the first fault is reported, or what the environment describes is validated. -/
theorem ofEnvironment_cases (environment : Environment) :
    (∃ setting text, environment.FirstFault setting text ∧
      ofEnvironment environment = .error (.invalidValue setting text)) ∨
    ∃ config, (∀ setting, environment.Describes setting config) ∧
      ofEnvironment environment = config.validate := by
  obtain ⟨text, given, refused, read⟩ | ⟨ticks, read, fineTicks, ticksGiven⟩ :=
    read_cases ticks?_eq_some_iff (fun value => ⟨⟨value, .zero, false⟩, rfl⟩) environment
  · exact .inl ⟨.ticks, text, ⟨given, refused, nofun⟩, by rw [ofEnvironment, read]; rfl⟩
  obtain ⟨text, given, refused, read'⟩ | ⟨interval, read', fineInterval, intervalGiven⟩ :=
    read_cases interval?_eq_some_iff (fun value => ⟨⟨0, value, false⟩, rfl⟩) environment
  · refine .inl ⟨.interval, text, ⟨given, refused, fun earlier lt => ?_⟩, ?_⟩
    · cases earlier with
      | ticks => exact fineTicks
      | interval | spare => contradiction
    · rw [ofEnvironment, read, read']
      rfl
  obtain ⟨text, given, refused, read''⟩ | ⟨spare, read'', -, spareGiven⟩ :=
    read_cases spare?_eq_some_iff (fun value => ⟨⟨0, .zero, value⟩, rfl⟩) environment
  · refine .inl ⟨.spare, text, ⟨given, refused, fun earlier lt => ?_⟩, ?_⟩
    · cases earlier with
      | ticks => exact fineTicks
      | interval => exact fineInterval
      | spare => contradiction
    · rw [ofEnvironment, read, read', read'']
      rfl
  · refine .inr ⟨⟨ticks, interval, spare⟩, fun setting => ?_, ?_⟩
    · cases setting with
      | ticks => exact ticksGiven ⟨ticks, interval, spare⟩ rfl
      | interval => exact intervalGiven ⟨ticks, interval, spare⟩ rfl
      | spare => exact spareGiven ⟨ticks, interval, spare⟩ rfl
    · rw [ofEnvironment, read, read', read'']
      rfl

theorem validate_eq_ok_iff {other : Config} :
    config.validate = .ok other ↔ config = other ∧ config.tickThreshold ≠ 0 := by
  rw [validate]
  split
  · rename_i zero
    exact iff_of_false nofun fun both => both.2 zero
  · rename_i positive
    exact ⟨fun eq => ⟨Except.ok.inj eq, positive⟩, fun both => congrArg _ both.1⟩

theorem validate_eq_error_iff {error : ConfigError} :
    config.validate = .error error ↔ error = .zeroTickThreshold ∧ config.tickThreshold = 0 := by
  rw [validate]
  split
  · rename_i zero
    exact ⟨fun eq => ⟨(Except.error.inj eq).symm, zero⟩, fun both => congrArg _ both.1.symm⟩
  · rename_i positive
    exact iff_of_false nofun fun both => positive both.2

/-- What is read is what is described, unless the threshold is zero. -/
theorem ofEnvironment_eq_ok_iff :
    ofEnvironment environment = .ok config ↔
      (∀ setting, environment.Describes setting config) ∧ config.tickThreshold ≠ 0 := by
  obtain ⟨setting, text, ⟨given, refused, -⟩, read⟩ | ⟨found, described, read⟩ :=
    ofEnvironment_cases environment
  · rw [read]
    exact iff_of_false nofun fun both => refused ((both.1 setting).fine text given)
  · rw [read, validate_eq_ok_iff]
    constructor
    · rintro ⟨rfl, positive⟩
      exact ⟨described, positive⟩
    · rintro ⟨also, positive⟩
      obtain rfl := Setting.eq_of_same fun setting => (described setting).same (also setting)
      exact ⟨rfl, positive⟩

theorem ofEnvironment_eq_invalid_iff :
    ofEnvironment environment = .error (.invalidValue setting text) ↔
      environment.FirstFault setting text := by
  obtain ⟨first, given, fault, read⟩ | ⟨found, described, read⟩ := ofEnvironment_cases environment
  · rw [read]
    constructor
    · intro eq
      cases eq
      exact fault
    · intro also
      obtain ⟨rfl, rfl⟩ := fault.unique also
      rfl
  · rw [read, validate_eq_error_iff]
    exact iff_of_false nofun fun ⟨given, refused, _⟩ => refused ((described _).fine _ given)

theorem ofEnvironment_eq_zero_iff :
    ofEnvironment environment = .error .zeroTickThreshold ↔
      (∀ setting, environment.Fine setting) ∧ environment.GivesZero := by
  obtain ⟨setting, text, ⟨given, refused, -⟩, read⟩ | ⟨found, described, read⟩ :=
    ofEnvironment_cases environment
  · rw [read]
    exact iff_of_false nofun fun both => refused (both.1 setting text given)
  · rw [read, validate_eq_error_iff, (described .ticks).zero_iff]
    exact and_congr_left fun _ => iff_of_true rfl fun setting => (described setting).fine

/-! ### Printing -/

theorem toList_toString (n : Nat) : (toString n).toList = Nat.toDigits 10 n := by
  rw [Nat.toString_eq_repr, Nat.repr_eq_ofList_toDigits, String.toList_ofList]

theorem blankless_toString (answer : Bool) : ∀ c ∈ (toString answer).toList, isBlank c = false := by
  have all : ((toString answer).toList.all fun c => !isBlank c) = true := by
    cases answer <;> decide
  simpa using all

theorem toString_mem_words (answer : Bool) : toString answer ∈ Setting.words answer := by
  cases answer <;> decide

/-- What is printed of a configuration denotes it. -/
theorem describes_printing (ticks : UInt32) (micros : UInt64) (spare : Bool) (setting : Setting) :
    Describes (.printing ⟨ticks, .ofMicros micros, spare⟩) setting
      ⟨ticks, .ofMicros micros, spare⟩ := by
  cases setting with
  | ticks =>
    have printed : Gives (.printing ⟨ticks, .ofMicros micros, spare⟩) .ticks
      (toString ticks.toNat) := rfl
    refine ⟨fun text given => ?_, fun silent => absurd printed (silent _)⟩
    rw [← printed.unique given, Setting.Denotes, toList_toString]
    exact ⟨_, isCore_toDigits _, numeral_toDigits _⟩
  | interval =>
    have printed : Gives (.printing ⟨ticks, .ofMicros micros, spare⟩) .interval
        (toString micros.toNat) := by
      rw [Gives, printing, Duration.toMicros_ofMicros]
      rfl
    refine ⟨fun text given => ?_, fun silent => absurd printed (silent _)⟩
    rw [← printed.unique given, Setting.Denotes, toList_toString]
    exact ⟨_, isCore_toDigits _, _, numeral_toDigits _, Nat.le_of_lt_succ micros.toNat_lt,
      Duration.toNanos_ofMicros micros⟩
  | spare =>
    have printed : Gives (.printing ⟨ticks, .ofMicros micros, spare⟩) .spare
      (toString spare) := rfl
    refine ⟨fun text given => ?_, fun silent => absurd printed (silent _)⟩
    rw [← printed.unique given]
    refine ⟨_, isCore_self (blankless_toString spare), ?_⟩
    dsimp only
    rw [String.ofList_toList]
    exact toString_mem_words spare

/-- A configuration is read from its grammar, and the first fault is reported.

    A text is well formed for a number if it is, between blanks, at most one plus sign and
    then digits, and the number that they denote is not too large; and for an answer if it
    is one of six words between blanks. A variable whose bytes are not text is as good as
    absent. A configuration is read exactly if all texts that are given are well formed and
    the tick threshold is not given as zero, and then it has what they denote, and the
    default where nothing is given. Otherwise the first text that is not well formed is
    reported, blanks included, and a threshold of zero only if there is none. And from
    what is printed of a configuration, it is read again. -/
theorem ofEnvironment_exact (environment : Environment) :
    ((∃ config, ofEnvironment environment = .ok config) ↔
      (∀ setting, environment.Fine setting) ∧ ¬environment.GivesZero) ∧
    (∀ config, ofEnvironment environment = .ok config ↔
      (∀ setting, environment.Describes setting config) ∧ config.tickThreshold ≠ 0) ∧
    (∀ setting text, ofEnvironment environment = .error (.invalidValue setting text) ↔
      environment.FirstFault setting text) ∧
    (ofEnvironment environment = .error .zeroTickThreshold ↔
      (∀ setting, environment.Fine setting) ∧ environment.GivesZero) ∧
    ∀ (ticks : UInt32) (micros : UInt64) (spare : Bool), ticks ≠ 0 →
      ofEnvironment (.printing ⟨ticks, .ofMicros micros, spare⟩) =
        .ok ⟨ticks, .ofMicros micros, spare⟩ := by
  refine ⟨⟨?_, ?_⟩, fun config => ofEnvironment_eq_ok_iff,
    fun setting text => ofEnvironment_eq_invalid_iff, ofEnvironment_eq_zero_iff,
    fun ticks micros spare positive => ?_⟩
  · rintro ⟨config, read⟩
    obtain ⟨described, positive⟩ := ofEnvironment_eq_ok_iff.1 read
    exact ⟨fun setting => (described setting).fine, mt (described .ticks).zero_iff.2 positive⟩
  · rintro ⟨fine, positive⟩
    cases read : ofEnvironment environment with
    | ok config => exact ⟨config, rfl⟩
    | error error =>
      cases error with
      | invalidValue setting text =>
        obtain ⟨given, refused, -⟩ := ofEnvironment_eq_invalid_iff.1 read
        exact absurd (fine setting text given) refused
      | zeroTickThreshold => exact absurd (ofEnvironment_eq_zero_iff.1 read).2 positive
  · exact ofEnvironment_eq_ok_iff.2 ⟨describes_printing ticks micros spare, positive⟩

/-- Leading zeros, a plus sign and a wide blank are fine, and bytes that are not text are
    left alone. An interval one too large is reported, and not the threshold of zero before
    it or the answer behind it. And the largest values are printed and read again. -/
theorem ofEnvironment_exact_extremes :
    (∃ environment : Environment, (∃ bytes, environment .spare = some bytes) ∧
      (∀ text, ¬environment.Gives .spare text) ∧
      environment.Gives .ticks "\u3000+0012 " ∧
      environment.Gives .interval "18446744073709551615" ∧
      ∃ config, ofEnvironment environment = .ok config ∧
        (∀ setting, environment.Describes setting config) ∧
        config.tickThreshold = 12 ∧ config.scanInterval.toMicros = 2 ^ 64 - 1 ∧
        config.spareFirstWorker = false) ∧
    (∃ environment : Environment, environment.Gives .ticks "0" ∧
      environment.Gives .spare "maybe" ∧
      ofEnvironment environment = .error (.invalidValue .interval " 18446744073709551616") ∧
      environment.FirstFault .interval " 18446744073709551616") ∧
    (0xFFFF_FFFF : UInt32) ≠ 0 ∧
      ofEnvironment (.printing ⟨0xFFFF_FFFF, .ofMicros 0xFFFF_FFFF_FFFF_FFFF, true⟩) =
        .ok ⟨0xFFFF_FFFF, .ofMicros 0xFFFF_FFFF_FFFF_FFFF, true⟩ := by
  let largest : Environment :=
    .giving "\u3000+0012 ".toUTF8 "18446744073709551615".toUTF8 (some ⟨#[0xFF]⟩)
  let faulty : Environment := .giving "0".toUTF8 " 18446744073709551616".toUTF8 "maybe".toUTF8
  refine ⟨⟨largest, ⟨_, rfl⟩, fun text given => ?_, rfl, rfl, ?_⟩, ⟨faulty, rfl, rfl, ?_⟩, ?_⟩
  · have absent : largest.lookup .spare = none := by decide
    exact Option.some_ne_none _ ((lookup_eq_some_iff.2 given).symm.trans absent)
  · have read : ofEnvironment largest = .ok ⟨12, .ofMicros 0xFFFF_FFFF_FFFF_FFFF, false⟩ := by
      decide
    obtain ⟨described, -⟩ := ((ofEnvironment_exact largest).2.1 _).1 read
    exact ⟨_, read, described, rfl, by decide, rfl⟩
  · have read : ofEnvironment faulty =
        .error (.invalidValue .interval " 18446744073709551616") := by decide
    exact ⟨read, ((ofEnvironment_exact faulty).2.2.1 _ _).1 read⟩
  · have positive : (0xFFFF_FFFF : UInt32) ≠ 0 := by decide
    exact ⟨positive, (ofEnvironment_exact faulty).2.2.2.2 _ _ true positive⟩

end Config

end RefCycle
