import GatherScatter.Cli.Program
/-! # The executable -/

namespace GatherScatter.Cli

def systemReason (e : IO.Error) : String :=
  match e with
  | .noFileOrDirectory _ code _ => s!"No such file or directory (os error {code})"
  | .permissionDenied _ code _ => s!"Permission denied (os error {code})"
  | .inappropriateType _ code _ => s!"Is a directory (os error {code})"
  | .resourceExhausted _ code _ => s!"No space left on device (os error {code})"
  | other => toString other

def consulted : List String :=
  ["SPATTER_BACKEND", "SPATTER_KERNEL", "SPATTER_PATTERN", "SPATTER_DELTA", "SPATTER_COUNT",
   "SPATTER_NRUNS", "SPATTER_VERBOSITY", "SPATTER_SEED", "SPATTER_THREADS",
   "SPATTER_DEVICE_INDEX", "SPATTER_DISTRIBUTED", "SPATTER_LOG_LEVEL", "RUST_LOG"]

def machine : Host IO where
  readFile path := do
    try pure (.ok (← IO.FS.readFile path)) catch e => pure (.error (systemReason e))
  writeOut text := do
    try
      let out ← IO.getStdout
      out.putStr text
      out.flush
      pure (.ok ())
    catch e => pure (.error (systemReason e))
  writeErr text := do
    let err ← IO.getStderr
    err.putStr text
    err.flush
  clock := IO.monoNanosNow

/-- The machine the executable answers for: one processor, buffers of up to a tebibyte, and
every pool of threads started. -/
def localMachine : Machine := .withMemory 1 (Nat.pow 2 40)

end GatherScatter.Cli

/-- Runs the program with the process's arguments and environment. -/
def main (args : List String) : IO UInt32 := do
  let values ← GatherScatter.Cli.consulted.filterMapM fun key => do
    pure ((← IO.getEnv key).map fun v => (key, v))
  let code ← GatherScatter.Cli.program GatherScatter.Cli.machine
    { args, env := GatherScatter.Environment.ofList values,
      machine := GatherScatter.Cli.localMachine }
  pure code.toUInt32
