/-! # Reading unsigned numbers -/

namespace GatherScatter.Text

inductive ReadError where
  | empty
  | invalidDigit
  | tooLarge
  deriving DecidableEq, Repr

def ReadError.message : ReadError → String
  | .empty => "cannot parse integer from empty string"
  | .invalidDigit => "invalid digit found in string"
  | .tooLarge => "number too large to fit in target type"

def digitValue? (c : Char) : Option Nat :=
  if '0' ≤ c ∧ c ≤ '9' then some (c.toNat - '0'.toNat) else none

def readDigits (limit : Nat) : Nat → List Char → Except ReadError Nat
  | acc, [] => .ok acc
  | acc, c :: cs =>
    match digitValue? c with
    | none => .error .invalidDigit
    | some d =>
      if acc * 10 + d < limit then readDigits limit (acc * 10 + d) cs
      else .error .tooLarge

def readUnsignedChars (limit : Nat) : List Char → Except ReadError Nat
  | [] => .error .empty
  | c :: rest =>
    match (if c = '+' then rest else c :: rest) with
    | [] => .error .invalidDigit
    | d :: ds => readDigits limit 0 (d :: ds)

/-- Reads an unsigned number below `limit` from a text, as it stands (no trimming). -/
def readUnsigned (limit : Nat) (s : String) : Except ReadError Nat :=
  readUnsignedChars limit s.toList

/-! ## Small laws -/

theorem readDigits_cons_lt (limit : Nat) :
    ∀ (cs : List Char) (acc : Nat) (c : Char) (n : Nat),
      readDigits limit acc (c :: cs) = .ok n → n < limit := by
  intro cs
  induction cs with
  | nil =>
    intro acc c n h
    simp only [readDigits] at h
    split at h
    · simp at h
    · split at h
      · simp only [Except.ok.injEq] at h; omega
      · simp at h
  | cons c' cs ih =>
    intro acc c n h
    simp only [readDigits] at h
    split at h
    · simp at h
    · split at h
      · exact ih _ c' n h
      · simp at h

theorem lt_of_readUnsigned {limit : Nat} {s : String} {n : Nat}
    (h : readUnsigned limit s = .ok n) : n < limit := by
  unfold readUnsigned at h
  generalize s.toList = cs at h
  cases cs with
  | nil => simp [readUnsignedChars] at h
  | cons c rest =>
    simp only [readUnsignedChars] at h
    split at h
    · simp at h
    · exact readDigits_cons_lt limit _ 0 _ n h

end GatherScatter.Text
