import GatherScatter.Selector
/-! # What this build offers -/

namespace GatherScatter

structure Capabilities where
  parallel : Bool
  cuda : Bool
  mpi : Bool
  deriving DecidableEq, Repr

namespace Capabilities

/-- What this build offers. -/
def built : Capabilities := ⟨true, false, false⟩

def supports (c : Capabilities) : Backend → Bool
  | .serial => true
  | .parallel => c.parallel
  | .cuda => c.cuda

def backends (c : Capabilities) : List Backend := Backend.all.filter c.supports

def summary (c : Capabilities) : String :=
  let names := ", ".intercalate (c.backends.map Backend.name)
  let group := if c.mpi then "true" else "false"
  s!"backends=[{names}] mpi={group}"

def deviceAvailable (_ : Capabilities) : Bool := false

theorem supports_built_iff (b : Backend) : built.supports b = true ↔ b ≠ .cuda := by
  cases b <;> decide

end Capabilities

end GatherScatter
