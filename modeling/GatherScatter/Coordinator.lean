import GatherScatter.Fault
/-! # The local process group -/

namespace GatherScatter

/-- The local process group with the number of barriers passed so far. -/
structure Coordinator where
  barriers : Nat := 0
  deriving DecidableEq, Repr

namespace Coordinator

def kind (_ : Coordinator) : String := "local"

def rank (_ : Coordinator) : Nat := 0

def size (_ : Coordinator) : Nat := 1

def isRoot (c : Coordinator) : Bool := c.rank == 0

def barrier (c : Coordinator) : Coordinator := { barriers := c.barriers + 1 }

def joinGroup : Except Fault Coordinator :=
  .error (.configuration "distributed mode requires the `mpi` feature")

def describe (c : Coordinator) : String :=
  s!"Coordinator \x7b kind: \"{c.kind}\", rank: {c.rank}, size: {c.size}, barriers: {c.barriers} \x7d"

@[simp] theorem barriers_barrier (c : Coordinator) : c.barrier.barriers = c.barriers + 1 := rfl

end Coordinator

end GatherScatter
