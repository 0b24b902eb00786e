import GatherScatter.Word
import GatherScatter.Decimal.Fixed
/-! # Reports -/

namespace GatherScatter

inductive Bandwidth where
  | rate (mbPerSec : Float)
  | undefined

namespace Bandwidth

def mbPerSec? : Bandwidth → Option Float
  | .rate v => some v
  | .undefined => none

def render : Bandwidth → String
  | .rate v => Decimal.fixed 6 v
  | .undefined => "undefined"

end Bandwidth

/-- A measurement: runs, pattern length, element width in bytes and seconds taken. -/
structure Report where
  nruns : Nat
  patternLength : Nat
  elementSize : Nat := elementBytes
  seconds : Float

namespace Report

def bytesPerRun (r : Report) : Nat := saturatingMul r.patternLength r.elementSize

def totalBytes (r : Report) : Nat := saturatingMul r.nruns r.bytesPerRun

/-- The rate of moving bytes; only a finite, positive time gives one. -/
def bandwidth (r : Report) : Bandwidth :=
  if r.seconds.isFinite && 0 < r.seconds then
    .rate (r.totalBytes.toUInt64.toFloat / r.seconds / 1000000)
  else .undefined

def render (r : Report) : String :=
  s!"{r.totalBytes} Total Bytes Moved\n" ++
  s!"{r.bytesPerRun} Bytes Moved per Run\n" ++
  s!"{r.nruns} Runs took {Decimal.fixed 6 r.seconds} Seconds\n" ++
  s!"Average Bandwidth: {r.bandwidth.render} MB/s\n"

theorem totalBytes_le (r : Report) : r.totalBytes ≤ wordMax := saturatingMul_le _ _

end Report

end GatherScatter
