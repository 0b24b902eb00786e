import GatherScatter.Buffers
import GatherScatter.Capabilities
/-!
# Engines

An engine runs a kernel over a pattern and a pair of buffers. A parallel engine's stores take
effect in any order (`Engine.Admits`); `runIn` takes them in a given one.
-/

namespace GatherScatter

structure OutOfBounds where
  len : Nat
  index : Nat
  deriving DecidableEq, Repr

def OutOfBounds.message (e : OutOfBounds) : String :=
  s!"index out of bounds: the len is {e.len} but the index is {e.index}"

namespace Kernel

def firstOutOfBounds (p : List Nat) (denseSize sparseSize : Nat) : Option OutOfBounds :=
  ((p.take denseSize).find? (sparseSize ≤ ·)).map fun i => ⟨sparseSize, i⟩

def gatherInto (p : List Nat) (dense sparse : Array Float) : Array Float :=
  let gathered := (p.take dense.size).map fun i => sparse.getD i 0
  gathered.toArray ++ dense.extract gathered.length dense.size

def storeAll (stores : List (Nat × Float)) (sparse : Array Float) : Array Float :=
  stores.foldl (fun s (i, v) => s.setIfInBounds i v) sparse

def scatterInto (p : List Nat) (dense sparse : Array Float) : Array Float :=
  storeAll (p.zip dense.toList) sparse

def apply (k : Kernel) (p : List Nat) (b : Buffers) : Buffers :=
  match k with
  | .gather => { b with dense := gatherInto p b.dense b.sparse }
  | .scatter => { b with sparse := scatterInto p b.dense b.sparse }

def run (k : Kernel) (p : List Nat) (b : Buffers) : Except OutOfBounds Buffers :=
  match firstOutOfBounds p b.dense.size b.sparse.size with
  | some e => .error e
  | none => .ok (apply k p b)

/-- The store of position `i`: a gather copies `sparse[p[i]]` into `dense[i]`, a scatter copies
`dense[i]` into `sparse[p[i]]` as one whole word. -/
def storeAt (k : Kernel) (p : List Nat) (b : Buffers) (i : Nat) : Buffers :=
  match k with
  | .gather => { b with dense := b.dense.setIfInBounds i (b.sparse.getD (p.getD i 0) 0) }
  | .scatter => { b with sparse := b.sparse.setIfInBounds (p.getD i 0) (b.dense.getD i 0) }

/-- The buffers after the stores of the positions in `order`, taking effect one after another,
or nothing when a position's index is past the end of the sparse buffer. -/
def runIn (k : Kernel) (p : List Nat) (order : List Nat) (b : Buffers) : Option Buffers :=
  order.foldlM (fun b i => if b.sparse.size ≤ p.getD i 0 then none else some (k.storeAt p b i)) b

def slotWrites (p : List Nat) (denseSize sparseSize : Nat) : Array Nat :=
  (p.take denseSize).foldl (fun c i => c.modify i (· + 1)) (Array.replicate sparseSize 0)

/-- The sparse slots named by two or more positions: after a parallel scatter their values are
one of the competing writes, unspecified. -/
def contestedSlots (p : List Nat) (denseSize sparseSize : Nat) : List Nat :=
  let writes := slotWrites p denseSize sparseSize
  (List.range sparseSize).filter fun j => 2 ≤ writes.getD j 0

end Kernel

/-- A host engine: one thread, or a pool of threads (one per processor when not given). -/
inductive Engine where
  | serial
  | parallel (threads : Option Nat)
  deriving DecidableEq, Repr

namespace Engine

def name : Engine → String
  | .serial => "serial"
  | .parallel _ => "parallel"

def notCompiled (b : Backend) : Fault :=
  .configuration (s!"backend '{b.name}' is not compiled in (enable the " ++
    s!"\x60{b.name}\x60 feature)")

def poolFault (reason : String) : Fault := .configuration s!"failed to build thread pool: {reason}"

/-- The host engine of a backend. A parallel engine needs at least one thread and a pool that
the machine starts; `poolRefusal threads` is why it cannot. -/
def create (poolRefusal : Option Nat → Option String) (backend : Backend) (threads : Option Nat) :
    Except Fault Engine :=
  match backend with
  | .serial => .ok .serial
  | .parallel =>
    if threads = some 0 then .error (.configuration "thread count must be at least 1")
    else match poolRefusal threads with
      | some reason => .error (poolFault reason)
      | none => .ok (.parallel threads)
  | b => .error (notCompiled b)

section Create

variable {pool : Option Nat → Option String} {backend : Backend} {threads : Option Nat}

@[simp] theorem create_serial : create pool .serial threads = .ok .serial := rfl

@[simp] theorem create_cuda : create pool .cuda threads = .error (notCompiled .cuda) := rfl

theorem create_parallel (h : threads ≠ some 0) :
    create pool .parallel threads =
      match pool threads with
      | some reason => .error (poolFault reason)
      | none => .ok (.parallel threads) := by
  simp only [create, h, if_false]

theorem create_eq_ok {e : Engine} (h : create pool backend threads = .ok e) :
    (backend = .serial ∧ e = .serial) ∨
      (backend = .parallel ∧ threads ≠ some 0 ∧ pool threads = none ∧ e = .parallel threads) := by
  cases backend with
  | serial =>
    cases h
    exact .inl ⟨rfl, rfl⟩
  | parallel =>
    by_cases ht : threads = some 0
    · subst ht
      cases h
    · rw [create_parallel ht] at h
      cases hp : pool threads with
      | some reason => rw [hp] at h; cases h
      | none =>
        rw [hp] at h
        cases h
        exact .inr ⟨rfl, ht, rfl, rfl⟩
  | cuda => cases h

theorem create_eq_error {f : Fault} (h : create pool backend threads = .error f) :
    (backend = .parallel ∧ threads = some 0 ∧
        f = .configuration "thread count must be at least 1") ∨
      (backend = .parallel ∧ threads ≠ some 0 ∧
        ∃ reason, pool threads = some reason ∧ f = poolFault reason) ∨
      (backend = .cuda ∧ f = notCompiled .cuda) := by
  cases backend with
  | serial => cases h
  | parallel =>
    by_cases ht : threads = some 0
    · subst ht
      cases h
      exact .inl ⟨rfl, rfl, rfl⟩
    · rw [create_parallel ht] at h
      cases hp : pool threads with
      | some reason =>
        rw [hp] at h
        cases h
        exact .inr (.inl ⟨rfl, ht, reason, rfl, rfl⟩)
      | none => rw [hp] at h; cases h
  | cuda =>
    cases h
    exact .inr (.inr ⟨rfl, rfl⟩)

theorem create_error_isConfiguration {f : Fault} (h : create pool backend threads = .error f) :
    f.isConfiguration = true := by
  rcases create_eq_error h with ⟨-, -, rfl⟩ | ⟨-, -, reason, -, rfl⟩ | ⟨-, rfl⟩ <;> rfl

theorem poolFault_ne_configuration {reason msg : String} (h : msg.toList.take 1 ≠ ['f']) :
    poolFault reason ≠ .configuration msg := by
  intro hf
  simp only [poolFault, Fault.configuration.injEq] at hf
  apply h
  rw [← hf]
  simp [toString]

end Create

def threads? : Engine → Option Nat
  | .serial => none
  | .parallel t => t

def describe : Engine → Option String
  | .serial => some "SerialKernel"
  | .parallel (some n) => some s!"ParallelKernel \x7b threads: {n} \x7d"
  | .parallel none => none

/-- The orders in which the engine's stores over `m` positions may take effect: in turn on one
thread, in any order on a pool of threads. -/
def Admits : Engine → Nat → List Nat → Prop
  | .serial, m, order => order = List.range m
  | .parallel _, m, order => order.Perm (List.range m)

def races (e : Engine) (k : Kernel) : Bool :=
  match e, k with
  | .parallel _, .scatter => true
  | _, _ => false

end Engine

/-- What the machine a bench is set up on answers: its number of processors, its allocator, and
why it cannot start a pool of threads, so many or one per processor (nothing when it can). -/
structure Machine where
  cpus : Nat
  allocator : Allocator
  poolRefusal : Option Nat → Option String

def Machine.withMemory (cpus bytes : Nat) : Machine := ⟨cpus, .upTo bytes, fun _ => none⟩

end GatherScatter
