import GatherScatter.Settings.Env
import GatherScatter.Text.Unsigned
/-! # The command line -/

namespace GatherScatter.Cli

inductive Opt where
  | kernel
  | pattern
  | delta
  | count
  | runs
  | backend
  | verbosity
  | seed
  | threads
  | device
  | distributed
  | config
  | logLevel
  | help
  | version
  deriving DecidableEq, Repr

def dashes : String := String.ofList ['-', '-']

namespace Opt

def all : List Opt :=
  [.kernel, .pattern, .delta, .count, .runs, .backend, .verbosity, .seed, .threads, .device,
   .distributed, .config, .logLevel, .help, .version]

def long : Opt → String
  | .kernel => "kernel"
  | .pattern => "pattern"
  | .delta => "delta"
  | .count => "count"
  | .runs => "runs"
  | .backend => "backend"
  | .verbosity => "verbosity"
  | .seed => "seed"
  | .threads => "threads"
  | .device => "device"
  | .distributed => "distributed"
  | .config => "config"
  | .logLevel => "log-level"
  | .help => "help"
  | .version => "version"

def short? : Opt → Option Char
  | .kernel => some 'k'
  | .pattern => some 'p'
  | .delta => some 'd'
  | .count => some 'l'
  | .runs => some 'r'
  | .backend => some 'b'
  | .verbosity => some 'v'
  | .config => some 'c'
  | .help => some 'h'
  | .version => some 'V'
  | _ => none

def valueName? : Opt → Option String
  | .kernel => some "KERNEL"
  | .pattern => some "SPEC"
  | .delta | .count | .runs | .threads => some "N"
  | .backend => some "BACKEND"
  | .verbosity | .logLevel => some "LEVEL"
  | .seed => some "SEED"
  | .device => some "INDEX"
  | .config => some "PATH"
  | _ => none

def takesValue (o : Opt) : Bool := o.valueName?.isSome

def shown (o : Opt) : String :=
  match o.valueName? with
  | some v => dashes ++ s!"{o.long} <{v}>"
  | none => dashes ++ o.long

def about : Opt → String
  | .kernel => "Kernel to run (gather or scatter)"
  | .pattern => "Pattern specification"
  | .delta => "Offset added to each successive pattern repetition"
  | .count => "Number of pattern repetitions [default: 1, or 1024 with --delta]"
  | .runs => "Number of timed runs"
  | .backend => "Backend (serial, parallel/openmp, cuda)"
  | .verbosity => "Report verbosity (0-3)"
  | .seed => "Seed for buffer contents"
  | .threads => "Worker threads for the parallel backend (0 = all CPUs)"
  | .device => "CUDA device index"
  | .distributed => "Synchronize MPI ranks before every kernel call"
  | .config => "Configuration file path (TOML)"
  | .logLevel => "Log level (trace, debug, info, warn, error)"
  | .help => "Print help"
  | .version => "Print version"

def ofLong? (name : String) : Option Opt := all.find? (·.long == name)

def ofShort? (c : Char) : Option Opt := all.find? (·.short? == some c)

end Opt

/-- The options as given; absent ones are `none`. -/
structure Options where
  kernel : Option String := none
  pattern : Option String := none
  delta : Option Nat := none
  count : Option Nat := none
  nruns : Option Nat := none
  backend : Option String := none
  verbosity : Option Nat := none
  seed : Option Nat := none
  threads : Option Nat := none
  deviceIndex : Option Nat := none
  distributed : Bool := false
  config : Option String := none
  logLevel : Option String := none
  deriving DecidableEq, Repr

/-- What the command line asks for. -/
inductive Request where
  | run (options : Options)
  | version
  | help (long : Bool)
  | refused (text : String)
  deriving DecidableEq, Repr

def usageLine (given : List Opt) : String :=
  if given.isEmpty then "Usage: spatter [OPTIONS]"
  else "Usage: spatter " ++ " ".intercalate (given.map Opt.shown)

def usageTailFor (given : List Opt) : String :=
  "\n\n" ++ usageLine given ++ "\n\nFor more information, try '--help'.\n"

def usageTail : String := usageTailFor []

def helpTail : String := "\n\nFor more information, try '--help'.\n"

def unexpectedArgument (token : String) : Request :=
  .refused (s!"error: unexpected argument '{token}' found" ++ usageTail)

def unknownLong (token : String) (similar : Option Opt) (given : List Opt) : Request :=
  match similar with
  | some o =>
    let shown := if given.contains o then given else given ++ [o]
    .refused (s!"error: unexpected argument '{token}' found\n\n" ++
      s!"  tip: a similar argument exists: '{dashes}{o.long}'" ++ usageTailFor shown)
  | none => .refused (s!"error: unexpected argument '{token}' found" ++ usageTailFor given)

def missingValue (o : Opt) : Request :=
  .refused (s!"error: a value is required for '{o.shown}' but none was supplied" ++ helpTail)

def givenTwice (o : Opt) : Request :=
  .refused (s!"error: the argument '{o.shown}' cannot be used multiple times" ++ usageTail)

def invalidValue (o : Opt) (value reason : String) : Request :=
  .refused (s!"error: invalid value '{value}' for '{o.shown}': {reason}" ++ helpTail)

def Opt.inGroup (o : Opt) : Bool := o != .help && o != .version

def groupShown : String :=
  "<" ++ "|".intercalate ((Opt.all.filter Opt.inGroup).map Opt.shown) ++ ">"

def valueUsageLine (o : Opt) (given : List Opt) : String :=
  if given.isEmpty then usageLine [o]
  else "Usage: spatter " ++ (if o.inGroup then "" else o.shown ++ " ") ++ groupShown

def unexpectedValue (o : Opt) (value : String) (given : List Opt) : Request :=
  .refused (s!"error: unexpected value '{value}' for '{o.shown}' found; no more were expected" ++
    "\n\n" ++ valueUsageLine o given ++ helpTail)

def jaro (a b : List Char) : Float :=
  let la := a.length
  let lb := b.length
  if la = 0 ∧ lb = 0 then 1
  else if la = 0 ∨ lb = 0 then 0
  else
    let range := max la lb / 2 - 1
    let bs := b.toArray
    let (fa, fb) := (List.range la).zip a |>.foldl (fun (acc : List Bool × Array Bool) (i, c) =>
      let (fa, fb) := acc
      let lo := i - range
      let hi := min lb (i + range + 1)
      match (List.range' lo (hi - lo)).find? (fun j => bs.getD j ' ' == c && !fb.getD j true) with
      | some j => (fa ++ [true], fb.set! j true)
      | none => (fa ++ [false], fb)) ([], Array.replicate lb false)
    let pickA := (a.zip fa).filterMap fun (c, f) => if f then some c else none
    let pickB := (b.zip fb.toList).filterMap fun (c, f) => if f then some c else none
    let m := pickA.length
    let t := ((pickA.zip pickB).filter fun (x, y) => x != y).length / 2
    if m = 0 then 0
    else
      (m.toFloat / la.toFloat + m.toFloat / lb.toFloat + (m - t).toFloat / m.toFloat) / 3

def similarLong (word : String) : Option Opt :=
  (Opt.all.foldl (fun (best : Option (Opt × Float)) o =>
    let score := jaro word.toList o.long.toList
    if score > 0.7 then
      match best with
      | some (_, b) => if score < b then best else some (o, score)
      | none => some (o, score)
    else best) none).map (·.1)

def readWord (o : Opt) (value : String) : Except Request Nat :=
  match Text.readUnsigned wordLimit value with
  | .ok n => pure n
  | .error e => throw (invalidValue o value e.message)

def readVerbosity (value : String) : Except Request Nat :=
  let cs := value.toList
  let (negative, digits) := match cs with
    | '-' :: rest => (true, rest)
    | '+' :: rest => (false, rest)
    | _ => (false, cs)
  let bound := if negative then Nat.pow 2 63 + 1 else Nat.pow 2 63
  if cs.isEmpty then throw (invalidValue .verbosity value "cannot parse integer from empty string")
  else
    match digits with
    | [] => throw (invalidValue .verbosity value "invalid digit found in string")
    | _ =>
      match Text.readDigits bound 0 digits with
      | .error .tooLarge =>
        throw (invalidValue .verbosity value
          (if negative then "number too small to fit in target type"
           else "number too large to fit in target type"))
      | .error e => throw (invalidValue .verbosity value e.message)
      | .ok n =>
        if negative ∧ n ≠ 0 then throw (invalidValue .verbosity value s!"-{n} is not in 0..=255")
        else if 255 < n then throw (invalidValue .verbosity value s!"{n} is not in 0..=255")
        else pure n

structure Reading where
  options : Options := {}
  given : List Opt := []

def Reading.give (r : Reading) (o : Opt) (value : Option String) (viaLong : Bool) :
    Except Request Reading := do
  if o = .help then throw (.help viaLong)
  if o = .version then throw .version
  if r.given.contains o then throw (givenTwice o)
  let s := r.options
  let options ← match o, value with
    | .distributed, none => pure { s with distributed := true }
    | .distributed, some v => throw (unexpectedValue o v r.given)
    | _, none => throw (missingValue o)
    | .kernel, some v => pure { s with kernel := some v }
    | .pattern, some v => pure { s with pattern := some v }
    | .backend, some v => pure { s with backend := some v }
    | .logLevel, some v => pure { s with logLevel := some v }
    | .config, some v =>
      if v.isEmpty then throw (missingValue o) else pure { s with config := some v }
    | .delta, some v => pure { s with delta := some (← readWord o v) }
    | .count, some v => pure { s with count := some (← readWord o v) }
    | .runs, some v => pure { s with nruns := some (← readWord o v) }
    | .seed, some v => pure { s with seed := some (← readWord o v) }
    | .threads, some v => pure { s with threads := some (← readWord o v) }
    | .device, some v => pure { s with deviceIndex := some (← readWord o v) }
    | .verbosity, some v => pure { s with verbosity := some (← readVerbosity v) }
    | _, some _ => pure s
  pure { options, given := r.given ++ [o] }

def looksLikeOption (token : String) : Bool := token.startsWith "-" && token != "-"

abbrev Pending := Option (Opt × Bool × Option String)

def Reading.settle (r : Reading) : Pending → Except Request Reading
  | none => pure r
  | some (o, _, none) => throw (missingValue o)
  | some (o, viaLong, some v) => r.give o (some v) viaLong

def Reading.givenAtStop (r : Reading) : Pending → List Opt
  | some (o, _, some _) => if r.given.contains o then r.given.erase o else r.given ++ [o]
  | _ => r.given

def Reading.shorts (r : Reading) (pending : Pending) :
    List Char → Except Request (Reading × Pending)
  | [] => pure (r, pending)
  | c :: cs =>
    match Opt.ofShort? c with
    | none => throw (unexpectedArgument (String.ofList ['-', c]))
    | some o => do
      let r ← r.settle pending
      if o.takesValue then
        match cs with
        | [] => pure (r, some (o, false, none))
        | '=' :: v => pure (← r.give o (some (String.ofList v)) false, none)
        | v => pure (← r.give o (some (String.ofList v)) false, none)
      else
        let r ← r.give o none false
        r.shorts none cs

def Reading.token (r : Reading) (pending : Pending) (t : String) :
    Except Request (Reading × Pending) :=
  if t.startsWith dashes then
    let body := String.ofList (t.toList.drop 2)
    let (name, attached) := match Text.splitOnce (Char.ofNat 61) body with
      | some (n, v) => (n, some v)
      | none => (body, none)
    match Opt.ofLong? name with
    | none => throw (unknownLong (dashes ++ name) (similarLong name) (r.givenAtStop pending))
    | some o =>
      match attached with
      | some v =>
        if o.takesValue then do pure (← (← r.settle pending).give o (some v) true, none)
        else throw (unexpectedValue o v r.given)
      | none => do
        let r ← r.settle pending
        if o.takesValue then pure (r, some (o, true, none))
        else pure (← r.give o none true, none)
  else r.shorts pending (t.toList.drop 1)

def Reading.tokens (r : Reading) (pending : Pending) : List String → Except Request Reading
  | [] => r.settle pending
  | t :: rest =>
    match pending with
    | some (o, viaLong, none) =>
      if o = .pattern || !looksLikeOption t then r.tokens (some (o, viaLong, some t)) rest
      else if t = dashes then
        match rest with
        | [] => r.settle pending
        | u :: _ => throw (unexpectedArgument u)
      else do
        let (r, pending) ← r.token pending t
        r.tokens pending rest
    | _ =>
      if t = dashes then
        match rest with
        | [] => r.settle pending
        | u :: _ => throw (unexpectedArgument u)
      else if looksLikeOption t then do
        let (r, pending) ← r.token pending t
        r.tokens pending rest
      else throw (unexpectedArgument t)

/-- What a command line asks for, with the environment for the log level's fallback. -/
def readCommandLine (args : List String) (env : Environment) : Request :=
  match ({} : Reading).tokens none args with
  | .error request => request
  | .ok r =>
    let o := r.options
    .run { o with logLevel := o.logLevel.orElse fun _ => env "SPATTER_LOG_LEVEL" }

/-- The settings with the options given on the command line put over them. The backend's name
must read as a backend. -/
def Options.applyTo (o : Options) (s : Settings) : Except Fault Settings := do
  let backend ← match o.backend with
    | some name => Backend.parse name
    | none => pure s.backend
  pure { s with
    kernel := o.kernel.getD s.kernel
    pattern := o.pattern.getD s.pattern
    backend
    delta := o.delta.getD s.delta
    count := o.count.orElse fun _ => s.count
    nruns := o.nruns.getD s.nruns
    verbosity := o.verbosity.getD s.verbosity
    seed := o.seed.getD s.seed
    threads := o.threads.getD s.threads
    deviceIndex := o.deviceIndex.getD s.deviceIndex
    distributed := s.distributed || o.distributed }

def versionText : String := "spatter 0.1.0\n"

def Opt.helpNames (o : Opt) : String × Nat :=
  let names := match o.short? with
    | some c => String.ofList ['-', c, ',', ' ']
    | none => "    "
  let spec := (match o.valueName? with
    | some v => dashes ++ s!"{o.long} <{v}>"
    | none => dashes ++ o.long)
  ("  " ++ names ++ spec, 19 - spec.length)

def Opt.helpText (o : Opt) (env : Environment) (long : Bool) : String :=
  match o with
  | .logLevel =>
    let current := (env "SPATTER_LOG_LEVEL").getD ""
    let shown := s!"[env: SPATTER_LOG_LEVEL={current}]"
    o.about ++ (if long then "\n\n" else " ") ++ shown
  | .help => if long then "Print help (see a summary with '-h')" else "Print help (see more with '--help')"
  | _ => o.about

def indentHelp (indent : Nat) (text : String) : String :=
  ("\n" ++ String.ofList (List.replicate indent ' ')).intercalate (Text.split '\n' text)

def longDescription : String :=
  "Spatter measures the memory bandwidth achieved by gather (dense[i] = sparse[p[i]])\n" ++
  "and scatter (sparse[p[i]] = dense[i]) for an index pattern p.\n\n" ++
  "Patterns:\n" ++
  "  0,4,8,12                explicit index list\n" ++
  "  MS1:8:4:32              mostly stride-1: len 8, gap of 32 at position 4\n" ++
  "  MS1:8:2,3:20,22         one gap per break location\n" ++
  "  UNIFORM:8:4             len 8, stride 4\n\n" ++
  "Examples:\n" ++
  "  spatter -k gather -p MS1:8:4:32 -l 1048576 -d 8 -r 10\n" ++
  "  spatter -k scatter -p UNIFORM:16:1 -b parallel --threads 8 -v 2\n"

def helpText (env : Environment) (long : Bool) : String :=
  let head := if long then longDescription ++ "\n\n" else
    "Gather/scatter memory bandwidth benchmark\n\n"
  let lines := Opt.all.map fun o =>
    if long then
      o.helpNames.1 ++ "\n          " ++ indentHelp 10 (o.helpText env true) ++ "\n"
    else
      o.helpNames.1 ++ String.ofList (List.replicate (o.helpNames.2 + 2) ' ') ++
        indentHelp 27 (o.helpText env false) ++ "\n"
  head ++ "Usage: spatter [OPTIONS]\n\nOptions:\n" ++
    (if long then "\n".intercalate lines else String.join lines)

end GatherScatter.Cli
