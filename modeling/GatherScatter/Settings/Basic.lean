import GatherScatter.Selector
import GatherScatter.Text.Escape
/-! # Settings -/

namespace GatherScatter

/-- The settings of a benchmark run. Counts are machine words; the verbosity is below 256. -/
structure Settings where
  backend : Backend := .serial
  kernel : String := "gather"
  pattern : String := "UNIFORM:8:1"
  delta : Nat := 0
  count : Option Nat := none
  nruns : Nat := 10
  verbosity : Nat := 0
  seed : Nat := 1
  threads : Nat := 0
  deviceIndex : Nat := 0
  distributed : Bool := false
  deriving DecidableEq, Repr

namespace Settings

def threadCount? (s : Settings) : Option Nat := if 0 < s.threads then some s.threads else none

/-- Checks, in order: the kernel name reads as a kernel, the pattern is not blank, there is at
least one run, and a count, if given, is not zero. -/
def validate (s : Settings) : Except SettingsFault Unit := do
  if let .error e := Kernel.parse s.kernel then throw (.invalid e.message)
  if (Text.trim s.pattern).isEmpty then throw (.invalid "pattern must not be empty")
  if s.nruns = 0 then throw (.invalid "nruns must be > 0")
  if s.count = some 0 then throw (.invalid "count must be > 0")

def flag (b : Bool) : String := if b then "true" else "false"

def describe (s : Settings) : String :=
  let count := match s.count with
    | some n => s!"Some({n})"
    | none => "None"
  let backend := s.backend.describe
  let kernel := Text.quote s.kernel
  let pattern := Text.quote s.pattern
  let distributed := flag s.distributed
  s!"SpatterConfig \x7b backend: {backend}, kernel: {kernel}, pattern: {pattern}, " ++
  s!"delta: {s.delta}, count: {count}, nruns: {s.nruns}, verbosity: {s.verbosity}, " ++
  s!"seed: {s.seed}, threads: {s.threads}, device_index: {s.deviceIndex}, " ++
  s!"distributed: {distributed} \x7d"

def tomlString (s : String) : String :=
  "\"" ++ String.join (s.toList.map fun c =>
    match c with
    | '"' => "\\\""
    | '\\' => "\\\\"
    | '\n' => "\\n"
    | '\t' => "\\t"
    | '\r' => "\\r"
    | c => c.toString) ++ "\""

/-- The settings written as a settings file, one line per field in field order; an absent count
is left out. -/
def toToml (s : Settings) : String :=
  let count := match s.count with
    | some n => s!"count = {n}\n"
    | none => ""
  let backend := tomlString s.backend.name
  let kernel := tomlString s.kernel
  let pattern := tomlString s.pattern
  let distributed := flag s.distributed
  s!"backend = {backend}\nkernel = {kernel}\npattern = {pattern}\ndelta = {s.delta}\n" ++
  count ++
  s!"nruns = {s.nruns}\nverbosity = {s.verbosity}\nseed = {s.seed}\nthreads = {s.threads}\n" ++
  s!"device_index = {s.deviceIndex}\ndistributed = {distributed}\n"

theorem threadCount?_ne_zero (s : Settings) : s.threadCount? ≠ some 0 := by
  unfold threadCount?
  by_cases hpos : 0 < s.threads
  · rw [if_pos hpos, ne_eq, Option.some.injEq]
    omega
  · rw [if_neg hpos]
    simp

end Settings

end GatherScatter
