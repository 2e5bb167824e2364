import RefCycle.Config.Environment
import RefCycle.Text.Grammar
/-!
# What an environment describes

The settings that an environment gives, said without reading it: which texts are well
formed for a setting, what they denote, and which fault comes first.

## Main definitions

* `Setting.Accepts`, `Setting.Denotes` — which texts are well formed for a setting, and
  what they denote.
* `Environment.Gives` — the text that is given for a setting.
* `Environment.FirstFault`, `Environment.GivesZero` — what can be wrong.
* `Environment.Describes` — a configuration has the value of a setting that is given, or
  the default.
* `Environment.printing` — the environment that gives all settings of a configuration.
-/

namespace RefCycle

namespace Setting

/-- The words for an answer. -/
def words : Bool → List String
  | true => ["1", "true", "yes"]
  | false => ["0", "false", "no"]

/-- A text is well formed for a setting. -/
def Accepts (setting : Setting) (text : String) : Prop :=
  ∃ core, Text.IsCore text.toList core ∧
    match setting with
    | .ticks => ∃ n, Text.Numeral core n ∧ n ≤ 2 ^ 32 - 1
    | .interval => ∃ n, Text.Numeral core n ∧ n ≤ 2 ^ 64 - 1
    | .spare => ∃ answer, String.ofList core ∈ words answer

/-- A text denotes the value that a setting has in a configuration. The interval is counted
    in microseconds. -/
def Denotes (setting : Setting) (text : String) (config : Config) : Prop :=
  ∃ core, Text.IsCore text.toList core ∧
    match setting with
    | .ticks => Text.Numeral core config.tickThreshold.toNat
    | .interval =>
      ∃ n, Text.Numeral core n ∧ n ≤ 2 ^ 64 - 1 ∧ config.scanInterval.toNanos = n * 1000
    | .spare => String.ofList core ∈ words config.spareFirstWorker

/-- Two configurations have the same value of a setting. -/
def Same (setting : Setting) (c d : Config) : Prop :=
  match setting with
  | .ticks => c.tickThreshold = d.tickThreshold
  | .interval => c.scanInterval = d.scanInterval
  | .spare => c.spareFirstWorker = d.spareFirstWorker

/-- The place of a setting in the order in which they are looked at. -/
def place : Setting → Nat
  | .ticks => 0
  | .interval => 1
  | .spare => 2

end Setting

namespace Environment

/-- The bytes that are given for a setting are those of a text. -/
def Gives (environment : Environment) (setting : Setting) (text : String) : Prop :=
  environment setting = some text.toUTF8

/-- No text is given for a setting, or a well-formed one. -/
def Fine (environment : Environment) (setting : Setting) : Prop :=
  ∀ text, environment.Gives setting text → setting.Accepts text

/-- A setting is the first one that is not well formed, and this is its text. -/
def FirstFault (environment : Environment) (setting : Setting) (text : String) : Prop :=
  environment.Gives setting text ∧ ¬setting.Accepts text ∧
    ∀ earlier, earlier.place < setting.place → environment.Fine earlier

/-- The tick threshold is given as zero. -/
def GivesZero (environment : Environment) : Prop :=
  ∃ text core, environment.Gives .ticks text ∧ Text.IsCore text.toList core ∧ Text.Numeral core 0

/-- A configuration has the value of a setting that is given, or the default. -/
def Describes (environment : Environment) (setting : Setting) (config : Config) : Prop :=
  (∀ text, environment.Gives setting text → setting.Denotes text config) ∧
    ((∀ text, ¬environment.Gives setting text) → setting.Same config .default)

/-- The environment with these bytes for the settings. -/
def giving (ticks interval spare : Option ByteArray) : Environment
  | .ticks => ticks
  | .interval => interval
  | .spare => spare

/-- The environment that gives all settings of a configuration. -/
def printing (config : Config) : Environment :=
  giving (toString config.tickThreshold.toNat).toUTF8
    (toString config.scanInterval.toMicros).toUTF8 (toString config.spareFirstWorker).toUTF8

end Environment

end RefCycle
