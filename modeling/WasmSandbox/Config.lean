/-!
Contract: the configuration of an environment.

Owns:
- the limits and switches, their defaults, and their text;
- the memory limit in bytes.

Does not own: the checks that apply them.
-/

namespace WasmSandbox

/-- What an environment allows.  Fixed when the environment is made; every
context of the environment inherits it. -/
structure Config where
  /-- The most pages any linear memory may have. -/
  maxMemoryPages : UInt64 := 256
  /-- The most instances one context may hold. -/
  maxInstances : UInt64 := 1000
  /-- The fuel a new context starts with; without it fuel is not metered. -/
  fuelLimit : Option UInt64 := none
  /-- The bytes of stack that guest code may use. -/
  maxWasmStack : UInt64 := 524288
  /-- The most calls that may be nested through the call routine. -/
  maxCallDepth : UInt32 := 256
  /-- Refuse proposals whose results may differ between machines, and make
  results that are not numbers canonical. -/
  deterministic : Bool := true
  /-- Attach a backtrace to the traps of guest code. -/
  captureBacktraces : Bool := true
  /-- Hand out the same artifact again for the same input. -/
  cacheArtifacts : Bool := true
deriving DecidableEq, Repr

namespace Config

/-- The memory limit in bytes, or the greatest 64-bit number if it is larger. -/
def maxMemoryBytes (config : Config) : UInt64 :=
  UInt64.ofNat (min (config.maxMemoryPages.toNat * 65536) (UInt64.size - 1))

/-- The same configuration with fuel metered from `fuel` on. -/
def withFuel (config : Config) (fuel : UInt64) : Config :=
  { config with fuelLimit := some fuel }

def switchText (value : Bool) : String := if value then "true" else "false"

def optionText : Option UInt64 → String
  | some value => "Some(" ++ toString value ++ ")"
  | none => "None"

/-- The text of a configuration lists every setting. -/
def text (config : Config) : String :=
  "SandboxConfig \x7b max_memory_pages: " ++ toString config.maxMemoryPages ++
    ", max_instances: " ++ toString config.maxInstances ++
    ", fuel_limit: " ++ optionText config.fuelLimit ++
    ", max_wasm_stack: " ++ toString config.maxWasmStack ++
    ", max_call_depth: " ++ toString config.maxCallDepth ++
    ", deterministic: " ++ switchText config.deterministic ++
    ", capture_backtraces: " ++ switchText config.captureBacktraces ++
    ", cache_artifacts: " ++ switchText config.cacheArtifacts ++ " \x7d"

end Config

end WasmSandbox
