import GatherScatter.Allocator
/-! # Faults and their exit statuses -/

namespace GatherScatter

inductive SettingsFault where
  | unreadable (reason : String)
  | malformed (diagnostic : String)
  | invalid (reason : String)
  | badOverride (key value reason : String)
  deriving DecidableEq, Repr

def SettingsFault.message : SettingsFault → String
  | .unreadable reason => s!"failed to read config file: {reason}"
  | .malformed diagnostic => s!"failed to parse TOML: {diagnostic}"
  | .invalid reason => s!"validation failed: {reason}"
  | .badOverride key value reason => s!"invalid environment override {key}={value}: {reason}"

/-- A failure of the benchmark. -/
inductive Fault where
  | configuration (reason : String)
  | allocation (buffer : String) (bytes : Nat) (reason : String)
  | synchronization (reason : String)
  | device (reason : String)
  | settings (fault : SettingsFault)
  deriving DecidableEq, Repr

def Fault.message : Fault → String
  | .configuration reason => s!"configuration error: {reason}"
  | .allocation buffer bytes reason => s!"failed to allocate {bytes} bytes for {buffer}: {reason}"
  | .synchronization reason => s!"synchronization error: {reason}"
  | .device reason => s!"device error: {reason}"
  | .settings fault => fault.message

/-- The exit status that reports a fault. -/
def Fault.exitCode : Fault → Nat
  | .configuration _ => 2
  | .settings _ => 2
  | .allocation .. => 3
  | .synchronization _ => 4
  | .device _ => 5

def Fault.isConfiguration : Fault → Bool
  | .configuration _ => true
  | .settings _ => true
  | _ => false

/-- The messages of a fault and of the error beneath it, outermost first. A settings file that
cannot be read or parsed carries the reader's own message beneath the fault's. -/
def Fault.chain (f : Fault) : List String :=
  match f with
  | .settings (.unreadable reason) => [f.message, reason]
  | .settings (.malformed diagnostic) => [f.message, diagnostic]
  | _ => [f.message]

def Shortfall.toFault (s : Shortfall) : Fault :=
  .allocation s.buffer s.bytes s.refusal.message

theorem Fault.isConfiguration_iff_exitCode (f : Fault) :
    f.isConfiguration = true ↔ f.exitCode = 2 := by
  cases f <;> simp [Fault.isConfiguration, Fault.exitCode]

end GatherScatter
