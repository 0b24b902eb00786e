import GatherScatter.Fault
import GatherScatter.Text.Unsigned
/-! # Why a pattern cannot be built -/

namespace GatherScatter

inductive Field where
  | index
  | strideOneLength
  | gapLocation
  | gap
  | uniformLength
  | uniformStride
  deriving DecidableEq, Repr

def Field.label : Field → String
  | .index => "pattern index"
  | .strideOneLength => "MS1 length"
  | .gapLocation => "MS1 gap location"
  | .gap => "MS1 gap"
  | .uniformLength => "UNIFORM length"
  | .uniformStride => "UNIFORM stride"

inductive Generator where
  | strideOne
  | uniform
  deriving DecidableEq, Repr

/-- Why a pattern cannot be built. -/
inductive PatternFault where
  | emptyList (what : Field)
  | missing (what : Field)
  | badNumber (what : Field) (text : String) (why : Text.ReadError)
  | fieldCount (generator : Generator) (got : Nat)
  | unknownGenerator (name : String)
  | strideOneEmpty
  | noGapLocation
  | gapCount (locations gaps : Nat)
  | repeatedLocation (location : Nat)
  | locationOutOfRange (location len : Nat)
  | strideOneOverflow
  | uniformEmpty
  | uniformOverflow
  | zeroCount
  | lengthOverflow
  | offsetOverflow
  | indexOverflow
  | empty
  | indexTooLarge (max : Nat)
  | refused (shortfall : Shortfall)
  deriving DecidableEq, Repr

def PatternFault.reason : PatternFault → String
  | .emptyList what => s!"empty {what.label} list"
  | .missing what => s!"missing {what.label}"
  | .badNumber what text why => s!"invalid {what.label} '{text}': {why.message}"
  | .fieldCount .strideOne got => s!"MS1 expects MS1:<len>:<locations>:<gaps>, got {got} field(s)"
  | .fieldCount .uniform got => s!"UNIFORM expects UNIFORM:<len>:<stride>, got {got} field(s)"
  | .unknownGenerator name => s!"unknown pattern generator '{name}'"
  | .strideOneEmpty => "MS1 length must be at least 1"
  | .noGapLocation => "MS1 requires at least one gap location"
  | .gapCount locations gaps =>
    s!"MS1 expects 1 gap or one gap per location ({locations}), got {gaps}"
  | .repeatedLocation location => s!"MS1 gap location {location} given twice"
  | .locationOutOfRange location len => s!"MS1 gap location {location} out of range 1..{len}"
  | .strideOneOverflow => "MS1 pattern index overflows usize"
  | .uniformEmpty => "UNIFORM length must be at least 1"
  | .uniformOverflow => "UNIFORM pattern index overflows usize"
  | .zeroCount => "pattern count must be at least 1"
  | .lengthOverflow => "pattern length overflows usize"
  | .offsetOverflow => "pattern delta offset overflows usize"
  | .indexOverflow => "pattern index overflows usize"
  | .empty => "pattern needs to have length of at least 1"
  | .indexTooLarge max => s!"pattern index {max} is too large: sparse length would overflow usize"
  | .refused s => s.refusal.message

/-- A pattern fault as a fault of the benchmark: a refused buffer is an allocation fault, every
other cause a configuration fault. -/
def PatternFault.toFault : PatternFault → Fault
  | .refused s => s.toFault
  | f => .configuration f.reason

end GatherScatter
