import RefCycle.Config
import RefCycle.Text.Blank
import RefCycle.Text.Numeral
/-!
# Configuration from the environment

The settings of a collector may be given by environment variables. A variable
which is absent, or whose bytes are not text, leaves the default in place; a
text which denotes no value is an error, and the settings are looked at in the
order ticks, interval, spare. Only when all of them are in order is the
configuration as a whole validated.

## Main definitions

* `RefCycle.Environment` — the bytes of each variable that is set.
* `Config.ofEnvironment` — the configuration that an environment describes.
* `ticks?`, `interval?`, `spare?` — the value that a text denotes.

## Design notes

An error shows the text of the variable as it was given, blanks included, so
readers trim for themselves and the text is kept beside them.
-/

namespace RefCycle

/-- The bytes of each setting that the environment gives. -/
def Environment : Type :=
  Setting → Option ByteArray

namespace Environment

/-- The text of a setting, if it is given and is text. -/
def lookup (environment : Environment) (setting : Setting) : Option String :=
  (environment setting).bind String.fromUTF8?

/-- The value of a setting: what its text denotes, or the default without a text. -/
def read {α : Type} (environment : Environment) (setting : Setting)
    (value? : String → Option α) (default : α) : Except ConfigError α :=
  match environment.lookup setting with
  | none => .ok default
  | some text =>
    match value? text with
    | some value => .ok value
    | none => .error (.invalidValue setting text)

end Environment

namespace Config

def ticks? (text : String) : Option UInt32 :=
  (Text.numeral? 0xFFFF_FFFF (Text.trim text.toList)).map UInt32.ofNat

/-- The scan interval that a text denotes, in microseconds. -/
def interval? (text : String) : Option Duration :=
  (Text.numeral? 0xFFFF_FFFF_FFFF_FFFF (Text.trim text.toList)).map fun micros =>
    .ofMicros (UInt64.ofNat micros)

def spare? (text : String) : Option Bool :=
  let answer := String.ofList (Text.trim text.toList)
  if answer ∈ ["1", "true", "yes"] then some true
  else if answer ∈ ["0", "false", "no"] then some false
  else none

/-- The configuration that an environment describes. -/
def ofEnvironment (environment : Environment) : Except ConfigError Config := do
  let ticks ← environment.read .ticks ticks? default.tickThreshold
  let interval ← environment.read .interval interval? default.scanInterval
  let spare ← environment.read .spare spare? default.spareFirstWorker
  validate ⟨ticks, interval, spare⟩

end Config

end RefCycle
