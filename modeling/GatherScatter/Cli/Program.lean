import GatherScatter.Cli.Options
import GatherScatter.Cli.Filter
import GatherScatter.Bench
import GatherScatter.Settings.Toml
import GatherScatter.Pattern.Notation
/-!
# The benchmark program

The program runs in any monad through a `Host` that reads files, writes the two streams and
reads a clock; its first failure stops it with that failure's exit status.
-/

namespace GatherScatter

def Settings.plan (s : Settings) (p : Pattern) : Plan :=
  { kernel := s.kernel, pattern := p, nruns := s.nruns, verbosity := s.verbosity,
    threads := s.threadCount?, deviceIndex := s.deviceIndex }

end GatherScatter

namespace GatherScatter.Cli

/-- What the program can do to the world. -/
structure Host (m : Type → Type) where
  readFile : String → m (Except String String)
  writeOut : String → m (Except String Unit)
  writeErr : String → m Unit
  clock : m Nat

/-- One invocation: the arguments after the program's name, the environment and the machine it
runs on. -/
structure Invocation where
  args : List String
  env : Environment
  machine : Machine

inductive Failure where
  | fault (context : List String) (f : Fault)
  | output (reason : String)
  deriving DecidableEq, Repr

namespace Failure

def chain : Failure → List String
  | .fault context f => context ++ f.chain
  | .output reason => [reason]

def text (e : Failure) : String := ": ".intercalate e.chain

def exitCode : Failure → Nat
  | .fault _ f => f.exitCode
  | .output _ => 1

end Failure

def secondsOf (nanos : Nat) : Float :=
  (nanos / 1000000000).toFloat + (nanos % 1000000000).toFloat / 1000000000

section

variable {m : Type → Type} [Monad m]

abbrev Run (m : Type → Type) := ExceptT Failure m

def emit (host : Host m) (f : Filter) (r : Record) : m Unit :=
  if f.allows r then host.writeErr (r.line ++ "\n") else pure ()

def emitAll (host : Host m) (f : Filter) (rs : List Record) : m Unit := rs.forM (emit host f)

def orStop {α : Type} (context : List String) : Except Fault α → Run m α
  | .ok a => pure a
  | .error f => throw (.fault context f)

def present (host : Host m) (text : String) : Run m Unit := do
  if text.isEmpty then return
  match ← (host.writeOut text : m _) with
  | .ok () => pure ()
  | .error reason => throw (.output reason)

def loadSettings (host : Host m) (inv : Invocation) (o : Options) : Run m Settings := do
  let base ← match o.config with
    | some path =>
      let context := [s!"failed to load config {path}"]
      match ← (host.readFile path : m _) with
      | .error reason => throw (.fault context (.settings (.unreadable reason)))
      | .ok text => orStop context ((Settings.loadToml text inv.env).mapError .settings)
    | none => orStop [] ((Settings.applyEnv inv.env {}).mapError .settings)
  let s ← orStop [] (o.applyTo base)
  orStop [] ((s.validate).mapError .settings)
  pure s

def runOnce (host : Host m) (f : Filter) (b : Bench) (timed : Bool) : Run m Bench := do
  let start ← (host.clock : m _)
  match b.execute with
  | .error e => throw (.fault [] e)
  | .ok b =>
    let stop ← (host.clock : m _)
    let (b, records) := b.finish timed (secondsOf (stop - start))
    (emitAll host f records : m _)
    pure b

def timedRuns (host : Host m) (f : Filter) : Nat → Bench → Run m Bench
  | 0, b => pure b
  | n + 1, b => do timedRuns host f n (← runOnce host f b true)

/-- The benchmark, from the settings to the teardown. -/
def benchmark (host : Host m) (inv : Invocation) (f : Filter) (o : Options) : Run m Unit := do
  let s ← loadSettings host inv o
  let log (r : Record) : Run m Unit := (emit host f r : m _)
  log ⟨.debug, .front, s!"capabilities: {Capabilities.built.summary}", []⟩
  log ⟨.debug, .front, s!"resolved configuration config={s.describe}", ["config"]⟩
  let compiler : Compiler := { delta := s.delta, count := s.count }
  let (compiled, records) := compiler.compileLogged inv.machine.allocator s.pattern
  (emitAll host f records : m _)
  let p ← orStop [s!"invalid pattern '{s.pattern}'"] (compiled.mapError PatternFault.toFault)
  let coordinator ← if s.distributed then orStop [] Coordinator.joinGroup else pure {}
  let b ← orStop [] (Bench.configure s.backend (s.plan p))
  log b.configuredRecord
  let b := b.withCoordinator coordinator
  let root := b.coordinator.isRoot
  if root then present host b.display
  let (prepared, records) := b.setup s.seed inv.machine
  (emitAll host f records : m _)
  let b ← orStop ["setup failed"] prepared
  if root then present host b.setupBanner
  let b ← runOnce host f b false
  let b ← timedRuns host f s.nruns b
  if root then present host b.report
  let (result, records) := b.teardown
  (emitAll host f records : m _)
  let t ← orStop [] result
  log ⟨.info, .front, s!"benchmark complete timed_runs={t.timedRuns} " ++
    s!"seconds={Decimal.debugText t.seconds}", ["timed_runs", "seconds"]⟩

/-- The program: answers the command line and gives the exit status. -/
def program (host : Host m) (inv : Invocation) : m Nat := do
  match readCommandLine inv.args inv.env with
  | .version =>
    let _ ← host.writeOut versionText
    pure 0
  | .help long =>
    let _ ← host.writeOut (helpText inv.env long)
    pure 0
  | .refused text =>
    host.writeErr text
    pure 2
  | .run o =>
    let (f, notices) := Filter.choose (inv.env "RUST_LOG") o.logLevel
    notices.forM fun n => host.writeErr (n ++ "\n")
    match ← (benchmark host inv f o).run with
    | .ok () => pure 0
    | .error e =>
      emit host f ⟨.error, .front, s!"spatter failed: {e.text}", []⟩
      host.writeErr s!"Error: {e.text}\n"
      pure e.exitCode

end

end GatherScatter.Cli
