import GatherScatter.Journal
import GatherScatter.Text.Blank
import GatherScatter.Text.Letters
import GatherScatter.Text.Regex
import GatherScatter.Text.Unsigned
import GatherScatter.Word
/-!
# Log filters

A filter is a list of directives, each a path, an optional span and an optional level; a
record passes when the most specific static directive that applies to it lets its level
through.
-/

namespace GatherScatter.Cli

structure FieldMatch where
  name : String
  value : Option String
  deriving DecidableEq, Repr

/-- One directive: the path prefix it applies to (every path when none), the span it is bound
to, the fields it names, and the most verbose rank it lets through. -/
structure Directive where
  target : Option String
  span : Option String
  fields : List FieldMatch
  rank : Nat
  deriving DecidableEq, Repr

inductive DirectiveError where
  | shape
  | level
  | field
  deriving DecidableEq, Repr

def DirectiveError.message : DirectiveError → String
  | .shape => "invalid filter directive"
  | .level => "error parsing level filter: expected one of \"off\", \"error\", \"warn\", " ++
      "\"info\", \"debug\", \"trace\", or a number 0-5"
  | .field => "invalid field filter: error building NFA"

def levelRank? (word : String) : Option Nat :=
  match Text.readUnsigned wordLimit word with
  | .ok n => if n ≤ 5 then some n else none
  | .error _ =>
    match Text.asciiLower word with
    | "" | "error" => some 1
    | "off" => some 0
    | "warn" => some 2
    | "info" => some 3
    | "debug" => some 4
    | "trace" => some 5
    | _ => none

def isDecimalNumber (cs : List Char) : Bool :=
  let (whole, r1) := cs.span Char.isDigit
  let (frac, r2) := match r1 with
    | '.' :: r => r.span Char.isDigit
    | r => ([], r)
  (!whole.isEmpty || !frac.isEmpty) &&
    match r2 with
    | [] => true
    | e :: r =>
      (e == 'e' || e == 'E') &&
        (let ds := match r with
          | '+' :: d | '-' :: d => d
          | d => d
         !ds.isEmpty && ds.all Char.isDigit)

def isPlainValue (v : String) : Bool :=
  v == "true" || v == "false" ||
    (let cs := match v.toList with
      | '+' :: r | '-' :: r => r
      | r => r
     let word := Text.asciiLower (String.ofList cs)
     word == "inf" || word == "infinity" || word == "nan" || isDecimalNumber cs)

def readField (text : List Char) : Except DirectiveError FieldMatch :=
  match Text.split (Char.ofNat 61) (String.ofList text) with
  | name :: rest =>
    if name.isEmpty then throw .shape else
    match rest with
    | [] => pure ⟨name, none⟩
    | v :: _ =>
      if isPlainValue v || Text.Regex.builds v then pure ⟨name, some v⟩ else throw .field
  | [] => throw .shape

def readSpan (cs : List Char) :
    Except DirectiveError (Option String × List FieldMatch × List Char) :=
  let (name, rest) := cs.span fun c => c ≠ '{' ∧ c ≠ ']'
  let spanName := if name.isEmpty then none else some (String.ofList name)
  match rest with
  | ']' :: after => pure (spanName, [], after)
  | '{' :: more =>
    match more.span (· ≠ '}') with
    | (text, '}' :: after) => do
      let field ← readField text
      match after with
      | ']' :: tail => pure (spanName, [field], tail)
      | _ => throw .shape
    | _ => throw .shape
  | _ => throw .shape

def opensPath (c : Char) : Bool := Text.isAlphanumeric c || c == '_'

def levelAfterEquals (text : List Char) : Except DirectiveError Nat :=
  if text.isEmpty then pure 5
  else match levelRank? (String.ofList text) with
    | some r => pure r
    | none => throw .level

/-- Reads one directive. -/
def readDirective (text : String) : Except DirectiveError Directive :=
  let (lead, body) := text.toList.span Text.isWhitespace
  match body with
  | [] => throw .shape
  | c :: _ =>
    if !(c == '[' || opensPath c) then throw .shape else
    match (if lead.isEmpty && c != '[' then levelRank? text else none) with
    | some r => pure ⟨none, none, [], r⟩
    | none => do
      let (path, rest) := body.span fun c => c ≠ '[' ∧ c ≠ Char.ofNat 61
      let (span, fields, afterSpan) ← match rest with
        | '[' :: more => readSpan more
        | _ => pure (none, [], rest)
      let rank ← match afterSpan with
        | [] => pure 5
        | c :: lvl =>
          if c ≠ Char.ofNat 61 then throw .shape
          else if lead.isEmpty then levelAfterEquals lvl
          else throw .level
      let target := lead ++ path
      pure ⟨if target.isEmpty then none else some (String.ofList target), span, fields, rank⟩

structure Filter where
  directives : List Directive
  deriving DecidableEq, Repr

def pieces (text : String) : List String := (Text.split ',' text).filter (!·.isEmpty)

def Filter.read? (text : String) : Option Filter :=
  match (pieces text).mapM readDirective with
  | .ok ds => some ⟨ds⟩
  | .error _ => none

def Filter.readLossy (text : String) : Filter × List String :=
  let results := (pieces text).map fun p => (p, readDirective p)
  (⟨results.filterMap fun (_, d) => match d with | .ok d => some d | .error _ => none⟩,
    results.filterMap fun (p, d) =>
      match d with
      | .ok _ => none
      | .error e => some s!"ignoring \x60{p}\x60: {e.message}")

def Directive.isStatic (d : Directive) : Bool :=
  d.span.isNone && d.fields.all (·.value.isNone)

def Directive.isDynamic (d : Directive) : Bool :=
  d.span.isSome || !d.fields.isEmpty

def Directive.fieldNames (d : Directive) : List String := d.fields.map (·.name)

def namesBefore : List String → List String → Bool
  | [], [] => false
  | [], _ :: _ => true
  | _ :: _, [] => false
  | a :: as, b :: bs => a < b || (a == b && namesBefore as bs)

/-- Whether directive `d` is at least as specific as `b`: a longer path in bytes (any path
beats none), then more fields, then the greater path, then the greater field names. -/
def Directive.atLeast (d b : Directive) : Bool :=
  let dl := d.target.map String.utf8ByteSize
  let bl := b.target.map String.utf8ByteSize
  if dl != bl then
    match dl, bl with
    | some x, some y => y < x
    | some _, none => true
    | _, _ => false
  else if d.fields.length != b.fields.length then b.fields.length < d.fields.length
  else if d.target != b.target then
    match d.target, b.target with
    | some x, some y => y < x
    | _, _ => false
  else !namesBefore d.fieldNames b.fieldNames

def Directive.appliesTo (d : Directive) (r : Record) : Bool :=
  (match d.target with
    | some t => r.source.path.startsWith t
    | none => true) &&
    d.fieldNames.all fun n => r.fieldNames.contains n

def Filter.inForce (f : Filter) : List Directive :=
  let statics := f.directives.filter Directive.isStatic
  if statics.isEmpty && !f.directives.any Directive.isDynamic then [⟨none, none, [], 1⟩]
  else statics

def Filter.decider? (f : Filter) (r : Record) : Option Directive :=
  f.inForce.foldl (fun best d =>
    if d.appliesTo r then
      match best with
      | some b => if d.atLeast b then some d else best
      | none => some d
    else best) none

/-- Whether a record passes the filter. -/
def Filter.allows (f : Filter) (r : Record) : Bool :=
  match f.decider? r with
  | some d => r.level.rank ≤ d.rank
  | none => false

/-- The filter of a run: the environment's directives, else the level asked for, else warnings. -/
def Filter.choose (fromEnv : Option String) (asked : Option String) : Filter × List String :=
  match fromEnv.bind Filter.read? with
  | some f => (f, [])
  | none => Filter.readLossy (asked.getD "warn")

end GatherScatter.Cli
