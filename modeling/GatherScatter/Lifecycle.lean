import GatherScatter.Bench
/-! # Sequences of operations on a bench -/

namespace GatherScatter

inductive Op where
  | setup (seed : Nat) (m : Machine)
  | run (timed : Bool) (elapsed : Float)
  | synchronize
  | writeSetup
  | report
  | measurement

namespace Op

def isRun : Op → Bool
  | .run _ _ => true
  | _ => false

def keepsBench : Op → Bool
  | .synchronize | .writeSetup | .report | .measurement => true
  | _ => false

def isTimedRun : Op → Bool
  | .run timed _ => timed
  | _ => false

def succeeds (op : Op) (b : Bench) : Bool :=
  match op with
  | .setup seed m => (b.setup seed m).1.isOk
  | .run timed elapsed => (b.run timed elapsed).1.isOk
  | _ => true

@[simp] theorem succeeds_setup (b : Bench) (seed : Nat) (m : Machine) :
    (Op.setup seed m).succeeds b = (b.setup seed m).1.isOk := rfl

@[simp] theorem succeeds_run (b : Bench) (timed : Bool) (elapsed : Float) :
    (Op.run timed elapsed).succeeds b = b.ready := Bench.isOk_run b timed elapsed

end Op

namespace Bench

/-- A run whose stores take effect in `order`: `none` when the program stops, else what the run
returns. -/
def runChecked (b : Bench) (timed : Bool) (elapsed : Float) (order : List Nat) :
    Option (Except Fault Bench) :=
  match b.stage with
  | none => some (.error notSetUp)
  | some st =>
    let p := b.plan.pattern
    if wordMax ≤ b.coordinator.barriers then none
    else if st.buffers.dense.size ≠ p.length ∨ st.buffers.sparse.size ≠ p.sparseLength then none
    else
      match b.kernel.runIn p.indices order st.buffers, b.timer.start.stop elapsed with
      | some buffers, .ok _ =>
        if timed ∧ wordMax ≤ b.tally.timedRuns then none
        else some (.ok ({ b with coordinator := b.coordinator.barrier, timer := b.timer.start,
                                 stage := some { st with buffers } }.finish timed elapsed).1)
      | _, _ => none

end Bench

/-- One operation on a bench and the bench it leaves; a run takes its stores in an order its
engine admits, and one that stops the program leaves no bench. -/
inductive Step : Bench → Op → Bench → Prop where
  | setup (b : Bench) (seed : Nat) (m : Machine) :
      Step b (.setup seed m) (((b.setup seed m).1.toOption).getD b)
  | run {b : Bench} {timed : Bool} {elapsed : Float} {r : Except Fault Bench} (order : List Nat)
      (horder : ∀ st, b.stage = some st →
        st.engine.Admits (min st.buffers.dense.size b.plan.pattern.length) order)
      (hrun : b.runChecked timed elapsed order = some r) :
      Step b (.run timed elapsed) (r.toOption.getD b)
  | keep (b : Bench) {op : Op} (h : op.keepsBench = true) : Step b op b

inductive Reach (b : Bench) : List Op → Bench → Prop where
  | nil : Reach b [] b
  | snoc {ops : List Op} {op : Op} {b' b'' : Bench} :
      Reach b ops b' → Step b' op b'' → Reach b (ops ++ [op]) b''

/-- A sequence of operations from `b`, each with the bench it was applied to, and the bench it
ends at. -/
inductive Trace (b : Bench) : List (Bench × Op) → Bench → Prop where
  | nil : Trace b [] b
  | snoc {h : List (Bench × Op)} {op : Op} {b' b'' : Bench} :
      Trace b h b' → Step b' op b'' → Trace b (h ++ [(b', op)]) b''

end GatherScatter
