import GatherScatter.Pattern.Generator
import GatherScatter.Text.Blank
import GatherScatter.Journal
/-! # The pattern notation -/

namespace GatherScatter

open Generate

def readField (what : Field) (text : String) : Except PatternFault Nat :=
  let t := Text.trim text
  if t.isEmpty then .error (.missing what)
  else match Text.readUnsigned wordLimit t with
    | .ok n => .ok n
    | .error e => .error (.badNumber what t e)

def readList (what : Field) (text : String) : Except PatternFault (List Nat) :=
  if (Text.trim text).isEmpty then .error (.emptyList what)
  else (Text.split ',' text).mapM (readField what)

def baseIndices (a : Allocator) (spec : String) : Except PatternFault (List Nat) :=
  let spec := Text.trim spec
  match Text.splitOnce ':' spec with
  | none => readList .index spec
  | some (name, rest) =>
    let fields := Text.split ':' rest
    match Text.asciiUpper (Text.trim name) with
    | "MS1" =>
      match fields with
      | [len, locations, gaps] => do
        let len ← readField .strideOneLength len
        let locations ← readList .gapLocation locations
        let gaps ← readList .gap gaps
        strideOne a len locations gaps
      | _ => .error (.fieldCount .strideOne fields.length)
    | "UNIFORM" =>
      match fields with
      | [len, stride] => do
        let len ← readField .uniformLength len
        let stride ← readField .uniformStride stride
        uniform a len stride
      | _ => .error (.fieldCount .uniform fields.length)
    | other => .error (.unknownGenerator other)

/-- How a notation is turned into a pattern: the shift between copies, and the number of copies if
one was asked for. -/
structure Compiler where
  delta : Nat := 0
  count : Option Nat := none
  deriving DecidableEq, Repr

namespace Compiler

def defaultDeltaCount : Nat := 1024

def repetitions (c : Compiler) : Nat :=
  match c.count with
  | some n => n
  | none => if 0 < c.delta then defaultDeltaCount else 1

def expand (c : Compiler) (a : Allocator) (spec : String) : Except PatternFault (List Nat) := do
  let base ← baseIndices a spec
  repeatShifted a base c.delta c.repetitions

/-- The pattern of a notation. -/
def compile (c : Compiler) (a : Allocator) (spec : String) : Except PatternFault Pattern := do
  Pattern.ofIndices? (← c.expand a spec)

/-- The pattern of a notation, with the debug record of a successful expansion. -/
def compileLogged (c : Compiler) (a : Allocator) (spec : String) :
    Except PatternFault Pattern × List Record :=
  match c.expand a spec with
  | .error e => (.error e, [])
  | .ok indices =>
    let text := s!"compiled pattern '{Text.trim spec}' (delta={c.delta}, " ++
      s!"count={c.repetitions}) to {indices.length} indices"
    (Pattern.ofIndices? indices, [⟨.debug, .patterns, text, []⟩])

theorem compileLogged_fst (c : Compiler) (a : Allocator) (spec : String) :
    (c.compileLogged a spec).1 = c.compile a spec := by
  unfold compileLogged compile
  cases c.expand a spec <;> rfl

def describe (c : Compiler) : String :=
  let count := match c.count with
    | some n => s!"Some({n})"
    | none => "None"
  s!"PatternCompiler \x7b delta: {c.delta}, count: {count} \x7d"

end Compiler

/-- The pattern of a notation, with no delta and one copy. -/
def compilePattern (a : Allocator) (spec : String) : Except PatternFault Pattern :=
  ({} : Compiler).compile a spec

end GatherScatter
