import GatherScatter.Fault
import GatherScatter.Text.Blank
/-! # Kernels and backends -/

namespace GatherScatter

inductive Kernel where
  | gather
  | scatter
  deriving DecidableEq, Repr

namespace Kernel

def name : Kernel → String
  | .gather => "gather"
  | .scatter => "scatter"

def describe : Kernel → String
  | .gather => "Gather"
  | .scatter => "Scatter"

/-- Reads a kernel name: blanks around it are ignored and its ASCII case is folded. -/
def parse (s : String) : Except Fault Kernel :=
  match Text.asciiLower (Text.trim s) with
  | "gather" => .ok .gather
  | "scatter" => .ok .scatter
  | other => .error (.configuration s!"invalid kernel type '{other}', expected 'gather' or 'scatter'")

end Kernel

inductive Backend where
  | serial
  | parallel
  | cuda
  deriving DecidableEq, Repr

namespace Backend

def all : List Backend := [.serial, .parallel, .cuda]

def name : Backend → String
  | .serial => "serial"
  | .parallel => "parallel"
  | .cuda => "cuda"

def displayName : Backend → String
  | .serial => "Serial"
  | .parallel => "Parallel"
  | .cuda => "CUDA"

def describe : Backend → String
  | .serial => "Serial"
  | .parallel => "Parallel"
  | .cuda => "Cuda"

def requiresGpu : Backend → Bool
  | .cuda => true
  | _ => false

/-- Reads a backend name: blanks around it are ignored and its ASCII case is folded. -/
def parse (s : String) : Except Fault Backend :=
  match Text.asciiLower (Text.trim s) with
  | "serial" => .ok .serial
  | "parallel" => .ok .parallel
  | "openmp" => .ok .parallel
  | "cuda" => .ok .cuda
  | other =>
    .error (.configuration s!"unknown backend '{other}', expected one of serial, parallel, cuda")

def ofSettingName? : String → Option Backend
  | "serial" => some .serial
  | "parallel" => some .parallel
  | "openmp" => some .parallel
  | "cuda" => some .cuda
  | _ => none

end Backend

end GatherScatter
