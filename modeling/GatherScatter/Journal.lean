/-! # Log records -/

namespace GatherScatter

inductive Level where
  | error
  | warn
  | info
  | debug
  | trace
  deriving DecidableEq, Repr

namespace Level

/-- The rank of a severity: 1 for an error up to 5 for a trace. A filter of rank `r` lets
through the records of rank at most `r`, so rank 0 lets nothing through. -/
def rank : Level → Nat
  | .error => 1
  | .warn => 2
  | .info => 3
  | .debug => 4
  | .trace => 5

def name : Level → String
  | .error => "ERROR"
  | .warn => "WARN"
  | .info => "INFO"
  | .debug => "DEBUG"
  | .trace => "TRACE"

theorem rank_pos (l : Level) : 0 < l.rank := by
  cases l <;> decide

end Level

inductive Source where
  | front
  | patterns
  | buffers
  | bench
  | threads
  deriving DecidableEq, Repr

def Source.path : Source → String
  | .front => "spatter"
  | .patterns => "spatter_pattern::compiler"
  | .buffers => "spatter_kernels::buffers"
  | .bench => "spatter_kernels::context"
  | .threads => "spatter_kernels::cpu::parallel"

structure Record where
  level : Level
  source : Source
  text : String
  named : List String
  deriving DecidableEq, Repr

/-- The names of the fields a record carries, which a filter may ask for. -/
def Record.fieldNames (r : Record) : List String :=
  match r.source with
  | .front => "message" :: r.named
  | _ => ["message", "log.target", "log.module_path", "log.file", "log.line"]

def Record.line (r : Record) : String := r.level.name ++ " " ++ r.text

end GatherScatter
