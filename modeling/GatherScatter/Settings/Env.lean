import GatherScatter.Settings.Basic
import GatherScatter.Text.Unsigned
/-! # Environment overrides -/

namespace GatherScatter

abbrev Environment := String → Option String

def Environment.empty : Environment := fun _ => none

def Environment.ofList (xs : List (String × String)) : Environment := fun k => xs.lookup k

namespace Settings

def readOverride (key : String) (limit : Nat) (value : String) : Except SettingsFault Nat :=
  match Text.readUnsigned limit (Text.trim value) with
  | .ok n => .ok n
  | .error e => .error (.badOverride key value e.message)

def overrideNat (env : Environment) (key : String) (limit : Nat) (current : Nat) :
    Except SettingsFault Nat :=
  match env key with
  | some v => readOverride key limit v
  | none => .ok current

def switchedOn (value : String) : Bool :=
  match Text.asciiLower value with
  | "1" => true
  | "true" => true
  | "yes" => true
  | _ => false

/-- The settings with the environment's overrides applied, in the fixed order. -/
def applyEnv (env : Environment) (s : Settings) : Except SettingsFault Settings := do
  let backend ← match env "SPATTER_BACKEND" with
    | some v => match Backend.parse v with
      | .ok b => pure b
      | .error e => throw (.badOverride "SPATTER_BACKEND" v e.message)
    | none => pure s.backend
  let kernel := (env "SPATTER_KERNEL").getD s.kernel
  let pattern := (env "SPATTER_PATTERN").getD s.pattern
  let delta ← overrideNat env "SPATTER_DELTA" wordLimit s.delta
  let count ← match env "SPATTER_COUNT" with
    | some v => some <$> readOverride "SPATTER_COUNT" wordLimit v
    | none => pure s.count
  let nruns ← overrideNat env "SPATTER_NRUNS" wordLimit s.nruns
  let verbosity ← overrideNat env "SPATTER_VERBOSITY" 256 s.verbosity
  let seed ← overrideNat env "SPATTER_SEED" wordLimit s.seed
  let threads ← overrideNat env "SPATTER_THREADS" wordLimit s.threads
  let deviceIndex ← overrideNat env "SPATTER_DEVICE_INDEX" wordLimit s.deviceIndex
  let distributed := match env "SPATTER_DISTRIBUTED" with
    | some v => switchedOn v
    | none => s.distributed
  pure { backend, kernel, pattern, delta, count, nruns, verbosity, seed, threads, deviceIndex,
         distributed }

def fromEnv (env : Environment) : Except SettingsFault Settings := do
  let s ← applyEnv env {}
  s.validate
  pure s

end Settings

end GatherScatter
