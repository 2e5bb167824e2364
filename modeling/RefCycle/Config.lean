import RefCycle.Clock.Duration
/-!
# Configuration of a collector

## Main definitions

* `RefCycle.Config` — how often to scan, and who collects.
* `Config.default` — ten ticks, ten milliseconds, every worker collects.
* `Config.validate` — refuses a configuration that would scan at every safepoint.
* `RefCycle.ConfigError` — why a configuration is refused.
-/

namespace RefCycle

/-- The settings of a collector that can be given by name. -/
inductive Setting where
  | ticks
  | interval
  | spare
  deriving DecidableEq

/-- The name under which the environment gives a setting. -/
def Setting.name : Setting → String
  | .ticks => "CYCLIC_SCAN_TICKS"
  | .interval => "CYCLIC_SCAN_INTERVAL_US"
  | .spare => "CYCLIC_SPARE_FIRST_WORKER"

/-- Why a configuration is refused. -/
inductive ConfigError where
  | invalidValue (setting : Setting) (value : String)
  | zeroTickThreshold
  deriving DecidableEq

def ConfigError.message : ConfigError → String
  | .invalidValue setting value => "invalid value for " ++ setting.name ++ ": '" ++ value ++ "'"
  | .zeroTickThreshold => "the scan tick threshold must be greater than zero"

/-- The settings of a collector. -/
structure Config where
  /-- A scan is considered after more than this many safepoints since the last. -/
  tickThreshold : UInt32
  /-- A scan is requested after more than this much time since the last. -/
  scanInterval : Duration
  /-- Whether the first worker leaves pending collections to the others. -/
  spareFirstWorker : Bool
  deriving DecidableEq

namespace Config

/-- The settings that hold where nothing else is said. -/
def default : Config where
  tickThreshold := 10
  scanInterval := .ofMicros 10000
  spareFirstWorker := false

/-- A configuration is in order if its tick threshold is positive. -/
def validate (config : Config) : Except ConfigError Config :=
  if config.tickThreshold = 0 then .error .zeroTickThreshold else .ok config

def text (config : Config) : String :=
  "CollectorConfig \x7b tick_threshold: " ++ toString config.tickThreshold.toNat ++
  ", scan_interval: " ++ config.scanInterval.text ++
  ", spare_first_worker: " ++ toString config.spareFirstWorker ++ " \x7d"

end Config

end RefCycle
