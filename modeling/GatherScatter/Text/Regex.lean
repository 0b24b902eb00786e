import GatherScatter.Text.Letters
/-!
# Field patterns

`builds` decides whether a regular expression builds with a builder that carries no Unicode
tables; each scanning step consumes a character, so the pattern's length bounds the steps.
-/

namespace GatherScatter.Text.Regex

structure Flags where
  unicode : Bool
  caseless : Bool
  verbose : Bool
  deriving DecidableEq, Repr

def Flags.initial : Flags := ⟨true, false, false⟩

def Flags.apply (f : Flags) (items : List (Char × Bool)) : Flags :=
  items.foldl (fun f (c, on) =>
    if c == 'i' then { f with caseless := on }
    else if c == 'u' then { f with unicode := on }
    else if c == 'x' then { f with verbose := on }
    else f) f

def skipSpace (verbose inComment : Bool) : List Char → List Char
  | [] => []
  | c :: cs =>
    if inComment then skipSpace verbose (c != '\n') cs
    else if verbose && isWhitespace c then skipSpace verbose false cs
    else if verbose && c == '#' then skipSpace verbose true cs
    else c :: cs

def isMeta (c : Char) : Bool := "\\.+*?()|[]{}^$#&-~".toList.contains c

def isEscapable (c : Char) : Bool :=
  isMeta c || (c.toNat < 128 && !c.isAlphanum && c != '<' && c != '>')

def isHex (c : Char) : Bool :=
  c.isDigit || ('a' ≤ c && c ≤ 'f') || ('A' ≤ c && c ≤ 'F')

def hexValue (ds : List Char) : Nat :=
  ds.foldl (fun acc c =>
    acc * 16 + (if c.isDigit then c.toNat - 48 else if c ≤ 'F' then c.toNat - 55
      else c.toNat - 87)) 0

def scalar? (n : Nat) : Option Char :=
  if n < 0xD800 || (0xDFFF < n && n < 0x110000) then some (Char.ofNat n) else none

inductive Atom where
  | char (c : Char) (byte : Bool)
  | perl (negated : Bool)
  | boundary
  | anchor
  deriving DecidableEq, Repr

def hexDigits (verbose : Bool) : Nat → List Char → Option (List Char × List Char)
  | 0, cs => some ([], cs)
  | _ + 1, [] => none
  | n + 1, c :: cs =>
    if isHex c then
      (hexDigits verbose n (skipSpace verbose false cs)).map fun (ds, r) => (c :: ds, r)
    else none

def braceDigits (verbose : Bool) : Nat → List Char → Option (List Char × List Char)
  | 0, _ => none
  | _ + 1, [] => none
  | fuel + 1, c :: cs =>
    if c == '}' then some ([], skipSpace verbose false cs)
    else if isHex c then
      (braceDigits verbose fuel (skipSpace verbose false cs)).map fun (ds, r) => (c :: ds, r)
    else none

def hexEscape (verbose : Bool) (width : Nat) (cs : List Char) : Option (Atom × List Char) :=
  match skipSpace verbose false cs with
  | [] => none
  | '{' :: rest =>
    match braceDigits verbose (rest.length + 1) (skipSpace verbose false rest) with
    | some (ds, r) =>
      if ds.isEmpty then none else (scalar? (hexValue ds)).map fun c => (.char c false, r)
    | none => none
  | c :: rest =>
    match hexDigits verbose width (c :: rest) with
    | some (ds, r) => (scalar? (hexValue ds)).map fun ch => (.char ch (width == 2), r)
    | none => none

def boundaryName (verbose : Bool) : Nat → List Char → Option (List Char × List Char)
  | 0, _ => none
  | _ + 1, [] => none
  | fuel + 1, c :: cs =>
    if c == '}' then some ([], cs)
    else if c.isAlpha || c == '-' then
      (boundaryName verbose fuel (skipSpace verbose false cs)).map fun (n, r) => (c :: n, r)
    else none

def afterBoundary (verbose : Bool) (cs : List Char) : Option (List Char) :=
  match cs with
  | '{' :: rest =>
    match skipSpace verbose false rest with
    | [] => none
    | c :: more =>
      if c.isAlpha || c == '-' then
        match boundaryName verbose (more.length + 2) (c :: more) with
        | some (name, r) =>
          if ["start", "end", "start-half", "end-half"].contains (String.ofList name) then some r
          else none
        | none => none
      else some cs
  | _ => some cs

def controlEscape? (c : Char) : Option Char :=
  match c with
  | 'a' => some (Char.ofNat 7)
  | 'f' => some (Char.ofNat 12)
  | 't' => some (Char.ofNat 9)
  | 'n' => some (Char.ofNat 10)
  | 'r' => some (Char.ofNat 13)
  | 'v' => some (Char.ofNat 11)
  | _ => none

def escape (verbose : Bool) : List Char → Option (Atom × List Char)
  | [] => none
  | c :: cs =>
    if c.isDigit then none
    else if c == 'x' then hexEscape verbose 2 cs
    else if c == 'u' then hexEscape verbose 4 cs
    else if c == 'U' then hexEscape verbose 8 cs
    else if c == 'p' || c == 'P' then none
    else if c == 'd' || c == 's' || c == 'w' then some (.perl false, cs)
    else if c == 'D' || c == 'S' || c == 'W' then some (.perl true, cs)
    else if isEscapable c then some (.char c false, cs)
    else match controlEscape? c with
      | some ch => some (.char ch false, cs)
      | none =>
        if c == 'A' || c == 'z' then some (.anchor, cs)
        else if c == 'b' then (afterBoundary verbose cs).map fun r => (.boundary, r)
        else if c == 'B' || c == '<' || c == '>' then some (.boundary, cs)
        else none

def Atom.buildsAlone (f : Flags) : Atom → Bool
  | .char c byte => if f.unicode then !f.caseless else !(byte && 128 ≤ c.toNat)
  | .perl negated => !f.unicode && !negated
  | .boundary => !f.unicode
  | .anchor => true

def Atom.buildsInClass (f : Flags) : Atom → Bool
  | .char c _ => f.unicode || c.toNat < 128
  | .perl negated => !f.unicode && !negated
  | .boundary | .anchor => false

def asciiClassNames : List String :=
  ["alnum", "alpha", "ascii", "blank", "cntrl", "digit", "graph", "lower", "print", "punct",
    "space", "upper", "word", "xdigit"]

def asciiClass? (cs : List Char) : Option (Bool × List Char) :=
  match cs with
  | '[' :: ':' :: rest =>
    let (negated, body) := match rest with
      | '^' :: more => (true, more)
      | more => (false, more)
    match body.span (· ≠ ':') with
    | (name, ':' :: ']' :: after) =>
      if asciiClassNames.contains (String.ofList name) then some (negated, after) else none
    | _ => none
  | _ => none

def openHyphens (verbose : Bool) : Nat → List Char → Option (List Char)
  | 0, _ => none
  | _ + 1, [] => none
  | fuel + 1, c :: cs =>
    if c == '-' then openHyphens verbose fuel (skipSpace verbose false cs) else some (c :: cs)

def classOpen (f : Flags) (cs : List Char) : Option (Bool × List Char) :=
  let sp := skipSpace f.verbose false
  let opened : Option (Bool × List Char) := match sp cs with
    | [] => none
    | '^' :: rest =>
      match sp rest with
      | [] => none
      | more => some (true, more)
    | more => some (false, more)
  opened.bind fun (negated, body) =>
    match body with
    | '-' :: _ => (openHyphens f.verbose (body.length + 1) body).map fun r => (negated, r)
    | ']' :: rest =>
      match sp rest with
      | [] => none
      | more => some (negated, more)
    | _ => some (negated, body)

def classAtom (f : Flags) : List Char → Option (Atom × List Char)
  | [] => none
  | '\\' :: rest => escape f.verbose rest
  | c :: rest => some (.char c false, rest)

def classMember (f : Flags) (cs : List Char) : Option (List Char) :=
  let sp := skipSpace f.verbose false
  (classAtom f cs).bind fun (a, rest) =>
    match sp rest with
    | [] => none
    | '-' :: more =>
      match sp more with
      | [] => none
      | c :: tail =>
        if c == ']' || c == '-' then
          if a.buildsInClass f then some ('-' :: more) else none
        else
          (classAtom f (c :: tail)).bind fun (b, after) =>
            match a, b with
            | .char x _, .char y _ =>
              if x ≤ y && a.buildsInClass f && b.buildsInClass f then some after else none
            | _, _ => none
    | other => if a.buildsInClass f then some other else none

def classItems (f : Flags) (negated : Bool) : Nat → List Char → Option (List Char)
  | 0, _ => none
  | fuel + 1, cs =>
    match skipSpace f.verbose false cs with
    | [] => none
    | ']' :: rest =>
      if (f.unicode && f.caseless) || (!f.unicode && negated) then none else some rest
    | '[' :: rest =>
      match asciiClass? ('[' :: rest) with
      | some (neg, after) =>
        if !f.unicode && neg then none else classItems f negated fuel after
      | none =>
        match classOpen f rest with
        | some (neg, body) =>
          match classItems f neg fuel body with
          | some after => classItems f negated fuel after
          | none => none
        | none => none
    | '&' :: '&' :: rest => classItems f negated fuel rest
    | '-' :: '-' :: rest => classItems f negated fuel rest
    | '~' :: '~' :: rest => classItems f negated fuel rest
    | other =>
      match classMember f other with
      | some after => classItems f negated fuel after
      | none => none

def digits (verbose : Bool) : Nat → List Char → List Char × List Char
  | 0, cs => ([], cs)
  | _ + 1, [] => ([], [])
  | fuel + 1, c :: cs =>
    if c.isDigit then
      let (ds, r) := digits verbose fuel (skipSpace verbose false cs)
      (c :: ds, r)
    else ([], c :: cs)

def count (verbose : Bool) (cs : List Char) : Option Nat × List Char :=
  let start := cs.dropWhile isWhitespace
  let (ds, rest) := digits verbose (start.length + 1) start
  let rest := (skipSpace verbose false rest).dropWhile isWhitespace
  let n := ds.foldl (fun acc d => acc * 10 + (d.toNat - 48)) 0
  (if ds.isEmpty || Nat.pow 2 32 ≤ n then none else some n, rest)

def counted (verbose : Bool) (cs : List Char) : Option (List Char) :=
  let sp := skipSpace verbose false
  let close (rs : List Char) : Option (List Char) :=
    match rs with
    | '}' :: after =>
      match sp after with
      | '?' :: more => some more
      | more => some more
    | _ => none
  match sp cs with
  | [] => none
  | body =>
    let (first, r1) := count verbose body
    match r1 with
    | [] => none
    | ',' :: r2 =>
      match sp r2 with
      | [] => none
      | '}' :: more => first.bind fun _ => close ('}' :: more)
      | r3 =>
        let (second, r4) := count verbose r3
        match first, second with
        | some lo, some hi => if lo ≤ hi then close r4 else none
        | _, _ => none
    | r2 => first.bind fun _ => close r2

def readFlags (items : List (Char × Bool)) (negated lastNegation : Bool) :
    List Char → Option (List (Char × Bool) × Char × List Char)
  | [] => none
  | c :: cs =>
    if c == ':' || c == ')' then
      if lastNegation then none else some (items.reverse, c, cs)
    else if c == '-' then
      if negated then none else readFlags items true true cs
    else if "imsUuxR".toList.contains c && !(items.any (·.1 == c)) then
      readFlags ((c, !negated) :: items) negated false cs
    else none

def captureName (cs : List Char) : Option (String × List Char) :=
  match cs.span (· ≠ '>') with
  | (c :: more, '>' :: rest) =>
    if (c == '_' || isAlphabetic c) &&
        more.all (fun d => d == '_' || d == '.' || d == '[' || d == ']' || isAlphanumeric d) then
      some (String.ofList (c :: more), rest)
    else none
  | _ => none

structure Scan where
  flags : Flags
  groups : List Flags
  repeatable : Bool
  names : List String
  deriving Repr

/-- Scans a pattern from left to right and tells whether it builds: every group closed, every
repetition after something to repeat, every construct built under the flags in force. -/
def scan : Nat → Scan → List Char → Bool
  | 0, _, _ => false
  | fuel + 1, s, cs =>
    let sp := skipSpace s.flags.verbose false
    match sp cs with
    | [] => s.groups.isEmpty
    | '(' :: rest =>
      let opened := { s with groups := s.flags :: s.groups, repeatable := false }
      match sp rest with
      | '?' :: '=' :: _ | '?' :: '!' :: _ | '?' :: '<' :: '=' :: _ | '?' :: '<' :: '!' :: _ =>
        false
      | '?' :: 'P' :: '<' :: more | '?' :: '<' :: more =>
        match captureName more with
        | some (name, after) =>
          !s.names.contains name && scan fuel { opened with names := name :: s.names } after
        | none => false
      | '?' :: more =>
        match readFlags [] false false more with
        | some (items, ')', after) =>
          !items.isEmpty &&
            scan fuel { s with flags := s.flags.apply items, repeatable := false } after
        | some (items, _, after) => scan fuel { opened with flags := s.flags.apply items } after
        | none => false
      | more => scan fuel opened more
    | ')' :: rest =>
      match s.groups with
      | [] => false
      | saved :: outer =>
        scan fuel { s with flags := saved, groups := outer, repeatable := true } rest
    | '|' :: rest => scan fuel { s with repeatable := false } rest
    | '[' :: rest =>
      match classOpen s.flags rest with
      | some (negated, body) =>
        match classItems s.flags negated (body.length + 1) body with
        | some after => scan fuel { s with repeatable := true } after
        | none => false
      | none => false
    | '?' :: rest | '*' :: rest | '+' :: rest =>
      s.repeatable &&
        scan fuel s (match rest with
          | '?' :: more => more
          | more => more)
    | '{' :: rest =>
      s.repeatable &&
        (match counted s.flags.verbose rest with
          | some after => scan fuel s after
          | none => false)
    | '\\' :: rest =>
      match escape s.flags.verbose rest with
      | some (a, after) => a.buildsAlone s.flags && scan fuel { s with repeatable := true } after
      | none => false
    | '.' :: rest => s.flags.unicode && scan fuel { s with repeatable := true } rest
    | '^' :: rest | '$' :: rest => scan fuel { s with repeatable := true } rest
    | _ :: rest =>
      (!s.flags.unicode || !s.flags.caseless) && scan fuel { s with repeatable := true } rest

/-- Whether a pattern builds into an automaton. -/
def builds (pattern : String) : Bool :=
  scan (pattern.length + 1) ⟨Flags.initial, [], false, []⟩ pattern.toList

end GatherScatter.Text.Regex
