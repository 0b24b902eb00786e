/-! # Timers -/

namespace GatherScatter

structure Timer where
  running : Bool := false
  last : Float := 0

namespace Timer

def unmatchedStop : String := "Timer::stop called without a matching Timer::start"

def start (t : Timer) : Timer := { t with running := true }

/-- Stops the timer after `elapsed` seconds. -/
def stop (t : Timer) (elapsed : Float) : Except String Timer :=
  if t.running then .ok { running := false, last := elapsed } else .error unmatchedStop

def isZero (t : Timer) : Bool := t.last == 0

end Timer

end GatherScatter
