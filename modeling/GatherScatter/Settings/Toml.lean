import GatherScatter.Settings.Env
import GatherScatter.Decimal.Nearest
/-!
# Settings files

A settings file is TOML, read as a list of entries and built into a tree of tables entry by
entry; of its top-level keys those named like a setting set it.
-/

namespace GatherScatter

namespace Toml

inductive Value where
  | string (s : String)
  | integer (i : Int)
  | float
  | boolean (b : Bool)
  | array
  | table
  | datetime
  deriving DecidableEq, Repr

abbrev Reader := StateT (List Char) (Except String)

def peek : Reader (Option Char) := do
  return (← get).head?

def advance : Reader Unit := modify List.tail

def expect (c : Char) : Reader Unit := do
  if (← peek) = some c then advance else throw s!"expected {c}"

def isSpace (c : Char) : Bool := c == ' ' || c == '\t'

def skipSpaces : Reader Unit := modify (List.dropWhile isSpace)

def isControl (c : Char) : Bool := (c.toNat < 0x20 && c != '\t') || c.toNat == 0x7F

def skipComment : Reader Unit := do
  if (← peek) = some '#' then
    let cs ← get
    let body := cs.takeWhile fun c => c ≠ '\n' ∧ c ≠ '\r'
    if body.any isControl then throw "control character in comment"
    set (cs.drop body.length)

def skipLayout : Nat → Reader Unit
  | 0 => pure ()
  | fuel + 1 => do
    skipSpaces
    skipComment
    match ← peek with
    | some '\n' => advance; skipLayout fuel
    | some '\r' => advance; expect '\n'; skipLayout fuel
    | _ => pure ()

def isBareKeyChar (c : Char) : Bool := c.isAlphanum || c == '_' || c == '-'

def hexDigit? (c : Char) : Option Nat :=
  if '0' ≤ c ∧ c ≤ '9' then some (c.toNat - '0'.toNat)
  else if 'a' ≤ c ∧ c ≤ 'f' then some (c.toNat - 'a'.toNat + 10)
  else if 'A' ≤ c ∧ c ≤ 'F' then some (c.toNat - 'A'.toNat + 10)
  else none

def hexCode : Nat → Nat → Reader Nat
  | 0, acc => pure acc
  | n + 1, acc => do
    match (← peek).bind hexDigit? with
    | some d => advance; hexCode n (acc * 16 + d)
    | none => throw "bad escape"

def scalar (n : Nat) : Reader Char :=
  if n < 0xD800 ∨ (0xDFFF < n ∧ n < 0x110000) then pure (Char.ofNat n)
  else throw "bad escape"

def basicString : Nat → List Char → Reader String
  | 0, _ => throw "unterminated string"
  | fuel + 1, acc => do
    match ← peek with
    | none => throw "unterminated string"
    | some '\n' => throw "unterminated string"
    | some '"' => advance; pure (String.ofList acc.reverse)
    | some '\\' =>
      advance
      let c ← peek
      advance
      let e ← match c with
        | some 'b' => pure '\x08'
        | some 't' => pure '\t'
        | some 'n' => pure '\n'
        | some 'f' => pure '\x0c'
        | some 'r' => pure '\r'
        | some '"' => pure '"'
        | some '\\' => pure '\\'
        | some 'u' => scalar (← hexCode 4 0)
        | some 'U' => scalar (← hexCode 8 0)
        | _ => throw "bad escape"
      basicString fuel (e :: acc)
    | some c =>
      if isControl c then throw "control character in string"
      advance
      basicString fuel (c :: acc)

def literalString : Reader String := do
  let cs ← get
  let body := cs.takeWhile (fun c => c ≠ '\x27' && c ≠ '\n')
  let rest := cs.dropWhile (fun c => c ≠ '\x27' && c ≠ '\n')
  if body.any isControl then throw "control character in string"
  match rest with
  | '\x27' :: rest => set rest; pure (String.ofList body)
  | _ => throw "unterminated string"

def skipFirstBreak : Reader Unit := do
  match ← get with
  | '\n' :: rest => set rest
  | '\r' :: '\n' :: rest => set rest
  | _ => pure ()

def lineChar (c : Char) : Reader Char := do
  advance
  if c = '\n' then pure c
  else if c = '\r' then
    if (← peek) = some '\n' then advance; pure '\n'
    else throw "control character in string"
  else if isControl c then throw "control character in string"
  else pure c

def closingRun (delimiter : Char) : Reader (Option Nat) := do
  let cs ← get
  let run := (cs.takeWhile (· = delimiter)).length
  if run < 3 then return none
  if 5 < run then throw "too many quotes"
  set (cs.drop run)
  return some (run - 3)

def dropBlankLines : List Char → List Char
  | ' ' :: cs | '\t' :: cs | '\n' :: cs => dropBlankLines cs
  | '\r' :: '\n' :: cs => dropBlankLines cs
  | cs => cs

def multilineBasic : Nat → List Char → Reader String
  | 0, _ => throw "unterminated string"
  | fuel + 1, acc => do
    match ← peek with
    | none => throw "unterminated string"
    | some '"' =>
      match ← closingRun '"' with
      | some extra => pure (String.ofList (acc.reverse ++ List.replicate extra '"'))
      | none => advance; multilineBasic fuel ('"' :: acc)
    | some '\\' =>
      advance
      let rest ← get
      let blank := rest.takeWhile isSpace
      match rest.drop blank.length with
      | '\n' :: _ | '\r' :: '\n' :: _ =>
        set (dropBlankLines rest)
        multilineBasic fuel acc
      | _ =>
        let c ← peek
        advance
        let e ← match c with
          | some 'b' => pure '\x08'
          | some 't' => pure '\t'
          | some 'n' => pure '\n'
          | some 'f' => pure '\x0c'
          | some 'r' => pure '\r'
          | some '"' => pure '"'
          | some '\\' => pure '\\'
          | some 'u' => scalar (← hexCode 4 0)
          | some 'U' => scalar (← hexCode 8 0)
          | _ => throw "bad escape"
        multilineBasic fuel (e :: acc)
    | some c => do
      let c ← lineChar c
      multilineBasic fuel (c :: acc)

def multilineLiteral : Nat → List Char → Reader String
  | 0, _ => throw "unterminated string"
  | fuel + 1, acc => do
    match ← peek with
    | none => throw "unterminated string"
    | some '\x27' =>
      match ← closingRun '\x27' with
      | some extra => pure (String.ofList (acc.reverse ++ List.replicate extra '\x27'))
      | none => advance; multilineLiteral fuel ('\x27' :: acc)
    | some c => do
      let c ← lineChar c
      multilineLiteral fuel (c :: acc)

def simpleKey : Reader String := do
  match ← peek with
  | some '"' => advance; basicString ((← get).length + 1) []
  | some '\x27' => advance; literalString
  | _ =>
    let cs ← get
    let k := cs.takeWhile isBareKeyChar
    if k.isEmpty then throw "expected a key"
    set (cs.dropWhile isBareKeyChar)
    pure (String.ofList k)

def key : Nat → Reader (List String)
  | 0 => throw "key too long"
  | fuel + 1 => do
    let k ← simpleKey
    skipSpaces
    if (← peek) = some '.' then
      advance
      skipSpaces
      return k :: (← key fuel)
    else return [k]

def isTokenChar (c : Char) : Bool :=
  c.isAlphanum || c == '_' || c == '+' || c == '-' || c == '.' || c == ':'

def grouped (digit : Char → Bool) : List Char → Bool
  | [] => false
  | c :: cs => digit c && groupedRest digit cs
where
  groupedRest (digit : Char → Bool) : List Char → Bool
    | [] => true
    | '_' :: c :: cs => digit c && groupedRest digit cs
    | c :: cs => digit c && groupedRest digit cs

def digitsValue (base : Nat) (cs : List Char) : Nat :=
  (cs.filter (· ≠ '_')).foldl (fun acc c => acc * base + ((hexDigit? c).getD 0)) 0

def decimalDigits? (cs : List Char) : Option Nat :=
  if grouped Char.isDigit cs ∧ (cs.head? ≠ some '0' ∨ cs.length = 1) then
    some (digitsValue 10 cs)
  else none

def isFloat (token : List Char) : Bool :=
  let body := match token with
    | '+' :: rest | '-' :: rest => rest
    | _ => token
  if body = ['i', 'n', 'f'] || body = ['n', 'a', 'n'] then true
  else
    let whole := body.takeWhile fun c => c.isDigit || c = '_'
    let rest := body.drop whole.length
    let exponent (cs : List Char) : Bool :=
      match cs with
      | e :: more =>
        (e = 'e' || e = 'E') &&
          grouped Char.isDigit (match more with
            | '+' :: ds | '-' :: ds => ds
            | ds => ds)
      | [] => false
    (decimalDigits? whole).isSome &&
      match rest with
      | '.' :: more =>
        let fraction := more.takeWhile fun c => c.isDigit || c = '_'
        let after := more.drop fraction.length
        grouped Char.isDigit fraction && (after.isEmpty || exponent after)
      | _ => exponent rest

def floatOverflows (token : List Char) : Bool :=
  let body := (match token with
    | '+' :: rest | '-' :: rest => rest
    | _ => token).filter (· ≠ '_')
  let whole := body.takeWhile Char.isDigit
  let rest := body.drop whole.length
  let (fraction, rest) := match rest with
    | '.' :: more => (more.takeWhile Char.isDigit, more.dropWhile Char.isDigit)
    | _ => ([], rest)
  let exponent : Int := match rest with
    | _ :: '-' :: ds => -(digitsValue 10 ds : Int)
    | _ :: '+' :: ds => digitsValue 10 ds
    | _ :: ds => digitsValue 10 ds
    | [] => 0
  if whole.isEmpty || token.head? == some '-' then false
  else (Decimal.nearest (digitsValue 10 (whole ++ fraction)) (exponent - fraction.length)).isInf

def fixedDigits (n : Nat) (cs : List Char) : Option (Nat × List Char) :=
  let ds := cs.take n
  if ds.length = n ∧ ds.all Char.isDigit then some (digitsValue 10 ds, cs.drop n) else none

def daysIn (year month : Nat) : Nat :=
  if month = 2 then
    if year % 4 = 0 ∧ (year % 100 ≠ 0 ∨ year % 400 = 0) then 29 else 28
  else if month = 4 ∨ month = 6 ∨ month = 9 ∨ month = 11 then 30
  else 31

def date? (cs : List Char) : Option (List Char) := do
  let (year, cs) ← fixedDigits 4 cs
  let cs ← match cs with | '-' :: rest => some rest | _ => none
  let (month, cs) ← fixedDigits 2 cs
  let cs ← match cs with | '-' :: rest => some rest | _ => none
  let (day, cs) ← fixedDigits 2 cs
  if 1 ≤ month ∧ month ≤ 12 ∧ 1 ≤ day ∧ day ≤ daysIn year month then some cs else none

def time? (cs : List Char) : Option (List Char) := do
  let (hour, cs) ← fixedDigits 2 cs
  let cs ← match cs with | ':' :: rest => some rest | _ => none
  let (minute, cs) ← fixedDigits 2 cs
  let cs ← match cs with | ':' :: rest => some rest | _ => none
  let (second, cs) ← fixedDigits 2 cs
  if 23 < hour ∨ 59 < minute ∨ 60 < second then none
  else
    match cs with
    | '.' :: rest =>
      let fraction := rest.takeWhile Char.isDigit
      if fraction.isEmpty then none else some (rest.drop fraction.length)
    | _ => some cs

def offset? (cs : List Char) : Option (List Char) :=
  match cs with
  | 'Z' :: rest | 'z' :: rest => some rest
  | '+' :: rest | '-' :: rest => do
    let (hour, rest) ← fixedDigits 2 rest
    let rest ← match rest with | ':' :: more => some more | _ => none
    let (minute, rest) ← fixedDigits 2 rest
    if 23 < hour ∨ 59 < minute then none else some rest
  | _ => none

def isDateTime (token : List Char) : Bool :=
  match date? token with
  | some [] => true
  | some (sep :: rest) =>
    (sep = 'T' || sep = 't' || sep = ' ') &&
      match time? rest with
      | some [] => true
      | some more => offset? more = some []
      | none => false
  | none => time? token = some []

def classify (token : List Char) : Except String Value :=
  match token with
  | ['t', 'r', 'u', 'e'] => .ok (.boolean true)
  | ['f', 'a', 'l', 's', 'e'] => .ok (.boolean false)
  | '0' :: 'x' :: rest => radix 16 rest
  | '0' :: 'o' :: rest => radix 8 rest
  | '0' :: 'b' :: rest => radix 2 rest
  | _ =>
    let (negative, digits) := match token with
      | '-' :: rest => (true, rest)
      | '+' :: rest => (false, rest)
      | _ => (false, token)
    match decimalDigits? digits with
    | some n =>
      let i : Int := if negative then -(n : Int) else n
      if i < -(Int.pow 2 63) || Int.pow 2 63 ≤ i then .error "integer out of range"
      else .ok (.integer i)
    | none =>
      if isFloat token then
        if floatOverflows token then .error "float out of range" else .ok .float
      else if isDateTime token then .ok .datetime
      else .error "not a value"
where
  radix (base : Nat) (cs : List Char) : Except String Value :=
    if grouped (fun c => match hexDigit? c with | some d => d < base | none => false) cs then
      let v := digitsValue base cs
      if Nat.pow 2 63 ≤ v then .error "integer out of range" else .ok (.integer v)
    else .error "bad integer"

inductive Entry where
  | pair (key : List String) (v : Value)
  | header (path : List String) (array : Bool)
  deriving DecidableEq, Repr

inductive Node where
  | value
  | table (implicit dotted : Bool) (entries : List (String × Node))
  | tables (elements : List Node)
  deriving Repr

def Node.empty : Node := .table false false []

def setEntry (entries : List (String × Node)) (key : String) (n : Node) :
    List (String × Node) :=
  if entries.any (·.1 == key) then entries.map fun (k, v) => if k == key then (k, n) else (k, v)
  else entries ++ [(key, n)]

def Node.descend {α : Type} (dotted : Bool) (f : Node → Option (Node × α)) :
    List String → Node → Option (Node × α)
  | [], n => f n
  | key :: rest, .table i d es => do
    let child := (es.lookup key).getD (.table true dotted [])
    let (child, out) ← match child with
      | .value => none
      | .tables (last :: earlier) => do
        let (last, out) ← Node.descend dotted f rest last
        pure (Node.tables (last :: earlier), out)
      | .tables [] => none
      | .table ci cd ces =>
        if dotted && !ci then none else Node.descend dotted f rest (.table ci cd ces)
    pure (.table i d (setEntry es key child), out)
  | _ :: _, _ => none

/-- A document being built: the tables defined so far, the table being filled and where it goes. -/
structure Builder where
  root : Node := .empty
  current : Node := .empty
  place : Option (List String × Bool) := none
  deriving Repr

def Builder.finalize (b : Builder) : Option Node :=
  match b.place with
  | none => some b.current
  | some (path, array) => do
    let key ← path.getLast?
    let (root, _) ← b.root.descend false (fun t =>
      match t with
      | .table i d es =>
        match array, es.lookup key with
        | true, none => some (.table i d (setEntry es key (.tables [b.current])), ())
        | true, some (.tables els) =>
          some (.table i d (setEntry es key (.tables (b.current :: els))), ())
        | false, none | false, some (.table true _ _) =>
          some (.table i d (setEntry es key b.current), ())
        | _, _ => none
      | _ => none) path.dropLast
    pure root

/-- Starts the table a header opens, or a new element of an array of tables. -/
def Builder.open (b : Builder) (path : List String) (array : Bool) : Option Builder := do
  let root ← b.finalize
  let key ← path.getLast?
  if array then
    let (root, _) ← root.descend false (fun t =>
      match t with
      | .table i d es =>
        match es.lookup key with
        | none => some (.table i d (setEntry es key (.tables [])), ())
        | some (.tables _) => some (t, ())
        | some _ => none
      | _ => none) path.dropLast
    pure ⟨root, .empty, some (path, true)⟩
  else
    let (root, taken) ← root.descend false (fun t =>
      match t with
      | .table i d es => some (.table i d (es.filter (·.1 != key)), es.lookup key)
      | _ => none) path.dropLast
    let current ← match taken with
      | none => some Node.empty
      | some (.table true false es) => some (.table false false es)
      | some _ => none
    pure ⟨root, current, some (path, false)⟩

/-- Gives a value to a key of the table being filled, making the tables of a dotted key. -/
def Builder.assign (b : Builder) (key : List String) : Option Builder := do
  let last ← key.getLast?
  let before := key.dropLast
  let (current, _) ← b.current.descend true (fun t =>
    match t with
    | .table i d es =>
      if d == before.isEmpty || (es.lookup last).isSome then none
      else some (.table i d (es ++ [(last, .value)]), ())
    | _ => none) before
  pure { b with current }

def Builder.add (b : Builder) : Entry → Option Builder
  | .header path array => b.open path array
  | .pair key _ => b.assign key

def wellShaped (entries : List Entry) : Bool :=
  ((entries.foldlM Builder.add {}).bind Builder.finalize).isSome

def keysWellShaped (keys : List (List String)) : Bool :=
  (keys.foldlM Builder.assign {}).isSome

mutual

def value : Nat → Reader Value
  | 0 => throw "value too deep"
  | fuel + 1 => do
    match ← get with
    | '"' :: '"' :: '"' :: rest =>
      set rest
      skipFirstBreak
      return .string (← multilineBasic ((← get).length + 1) [])
    | '\x27' :: '\x27' :: '\x27' :: rest =>
      set rest
      skipFirstBreak
      return .string (← multilineLiteral ((← get).length + 1) [])
    | '"' :: _ => advance; return .string (← basicString ((← get).length + 1) [])
    | '\x27' :: _ => advance; return .string (← literalString)
    | '[' :: _ => advance; arrayItems fuel; return .array
    | '\x7b' :: _ =>
      advance
      let keys ← inlineTable fuel true
      if !keysWellShaped keys then throw "duplicate key"
      return .table
    | _ =>
      let cs ← get
      let token := cs.takeWhile isTokenChar
      if token.isEmpty then throw "expected a value"
      let rest := cs.dropWhile isTokenChar
      -- A date and a time may stand apart, separated by one blank.
      let (token, rest) := match date? token, rest with
        | some [], ' ' :: more =>
          match time? more with
          | some _ => (token ++ ' ' :: more.takeWhile isTokenChar, more.dropWhile isTokenChar)
          | none => (token, rest)
        | _, _ => (token, rest)
      set rest
      match classify token with
      | .ok v => return v
      | .error e => throw e

def arrayItems : Nat → Reader Unit
  | 0 => throw "array too long"
  | fuel + 1 => do
    skipLayout ((← get).length + 1)
    if (← peek) = some ']' then advance; return
    discard <| value fuel
    skipLayout ((← get).length + 1)
    match ← peek with
    | some ',' => advance; arrayItems fuel
    | some ']' => advance
    | _ => throw "expected , or ]"

def inlineTable : Nat → Bool → Reader (List (List String))
  | 0, _ => throw "table too long"
  | fuel + 1, first => do
    skipSpaces
    if first ∧ (← peek) = some '\x7d' then advance; return []
    let k ← key ((← get).length + 1)
    skipSpaces
    expect '='
    skipSpaces
    discard <| value fuel
    skipSpaces
    match ← peek with
    | some ',' => advance; return k :: (← inlineTable fuel false)
    | some '\x7d' => advance; return [k]
    | _ => throw "expected , or end of table"

end

def lineEnd : Reader Unit := do
  skipSpaces
  skipComment
  match ← peek with
  | none => pure ()
  | some '\n' => advance
  | some '\r' => advance; expect '\n'
  | _ => throw "expected the end of the line"

def header : Reader (List String) := do
  let double := (← peek) = some '['
  if double then advance
  skipSpaces
  let k ← key ((← get).length + 1)
  skipSpaces
  expect ']'
  if double then expect ']'
  pure k

def document : Nat → List Entry → Reader (List Entry)
  | 0, _ => throw "document too long"
  | fuel + 1, acc => do
    skipLayout ((← get).length + 1)
    match ← peek with
    | none => pure acc.reverse
    | some '[' =>
      advance
      let array := (← peek) = some '['
      let h ← header
      lineEnd
      document fuel (.header h array :: acc)
    | _ =>
      let k ← key ((← get).length + 1)
      skipSpaces
      expect '='
      skipSpaces
      let v ← value ((← get).length + 1)
      lineEnd
      document fuel (.pair k v :: acc)

end Toml

namespace Settings

open Toml

def wordValue (limit : Nat) : Value → Except SettingsFault Nat
  | .integer i => if 0 ≤ i ∧ i < limit then .ok i.toNat else .error (.malformed "out of range")
  | _ => .error (.malformed "expected an integer")

def textValue : Value → Except SettingsFault String
  | .string s => .ok s
  | _ => .error (.malformed "expected a string")

def setField (s : Settings) (name : String) (v : Value) : Except SettingsFault Settings :=
  match name with
  | "backend" => do
    match Backend.ofSettingName? (← textValue v) with
    | some b => pure { s with backend := b }
    | none => throw (.malformed "unknown variant")
  | "kernel" => do pure { s with kernel := ← textValue v }
  | "pattern" => do pure { s with pattern := ← textValue v }
  | "delta" => do pure { s with delta := ← wordValue wordLimit v }
  | "count" => do pure { s with count := some (← wordValue wordLimit v) }
  | "nruns" => do pure { s with nruns := ← wordValue wordLimit v }
  | "verbosity" => do pure { s with verbosity := ← wordValue 256 v }
  | "seed" => do pure { s with seed := ← wordValue wordLimit v }
  | "threads" => do pure { s with threads := ← wordValue wordLimit v }
  | "device_index" => do pure { s with deviceIndex := ← wordValue wordLimit v }
  | "distributed" =>
    match v with
    | .boolean b => pure { s with distributed := b }
    | _ => throw (.malformed "expected a boolean")
  | _ => pure s

def fieldNames : List String :=
  ["backend", "kernel", "pattern", "delta", "count", "nruns", "verbosity", "seed", "threads",
   "device_index", "distributed"]

/-- Reads settings from a settings file; what the file does not set keeps its default. -/
def ofToml? (text : String) : Except SettingsFault Settings := do
  let chars := match text.toList with
    | c :: rest => if c.toNat = 0xFEFF then rest else c :: rest
    | [] => []
  let entries ← match (document (chars.length + 1) []).run chars with
    | .ok (entries, _) => pure entries
    | .error e => throw (.malformed e)
  if !wellShaped entries then throw (.malformed "duplicate key")
  let (s, _) ← entries.foldlM (fun (acc : Settings × List String) entry =>
    let (s, table) := acc
    match entry, table with
    | .header path _, _ =>
      match path with
      | name :: _ =>
        if fieldNames.contains name then throw (.malformed "expected a value") else pure (s, path)
      | [] => pure (s, path)
    | .pair [name] v, [] => do pure (← setField s name v, table)
    | .pair (name :: _ :: _) _, [] =>
      if fieldNames.contains name then throw (.malformed "expected a value") else pure (s, table)
    | .pair _ _, _ => pure (s, table)) ({}, [])
  pure s

/-- Settings from a settings file with the environment's overrides, then checked. -/
def fromToml (text : String) (env : Environment) : Except SettingsFault Settings := do
  let s ← ofToml? text
  let s ← s.applyEnv env
  s.validate
  pure s

def loadToml (text : String) (env : Environment) : Except SettingsFault Settings := do
  (← ofToml? text).applyEnv env

end Settings

end GatherScatter
