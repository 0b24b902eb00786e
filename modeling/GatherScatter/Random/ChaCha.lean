/-! # The ChaCha block function with eight rounds -/

namespace GatherScatter.Random

abbrev Block := Vector UInt32 16

def rotl (x : UInt32) (n : UInt32) : UInt32 := (x <<< n) ||| (x >>> (32 - n))

def quarter (s : Block) (a b c d : Fin 16) : Block :=
  let wa := s[a] + s[b]
  let wd := rotl (s[d] ^^^ wa) 16
  let wc := s[c] + wd
  let wb := rotl (s[b] ^^^ wc) 12
  let wa := wa + wb
  let wd := rotl (wd ^^^ wa) 8
  let wc := wc + wd
  let wb := rotl (wb ^^^ wc) 7
  ((s.set a wa).set b wb |>.set c wc).set d wd

def doubleRound (s : Block) : Block :=
  let s := quarter s 0 4 8 12
  let s := quarter s 1 5 9 13
  let s := quarter s 2 6 10 14
  let s := quarter s 3 7 11 15
  let s := quarter s 0 5 10 15
  let s := quarter s 1 6 11 12
  let s := quarter s 2 7 8 13
  quarter s 3 4 9 14

def constants : Vector UInt32 4 := #v[0x61707865, 0x3320646e, 0x79622d32, 0x6b206574]

def input (key : Vector UInt32 8) (counter : Nat) : Block :=
  constants ++ key ++ #v[counter.toUInt32, (counter / Nat.pow 2 32).toUInt32, 0, 0]

/-- The output block of eight rounds: four double rounds, added word by word to the input. -/
def block (key : Vector UInt32 8) (counter : Nat) : Block :=
  let start := input key counter
  let mixed := doubleRound (doubleRound (doubleRound (doubleRound start)))
  Vector.zipWith (· + ·) mixed start

def blockWords (key : Vector UInt32 8) (first : Nat) : Nat → List UInt32
  | 0 => []
  | n + 1 => (block key first).toList ++ blockWords key (first + 1) n

/-- The `count` words of the key stream from position `start` on. -/
def words (key : Vector UInt32 8) (start count : Nat) : List UInt32 :=
  let first := start / 16
  let blocks := (start + count + 15) / 16 - first
  ((blockWords key first blocks).drop (start % 16)).take count

theorem length_blockWords (key : Vector UInt32 8) (first n : Nat) :
    (blockWords key first n).length = 16 * n := by
  induction n generalizing first with
  | zero => rfl
  | succ n ih => simp [blockWords, ih]; omega

theorem length_words (key : Vector UInt32 8) (start count : Nat) :
    (words key start count).length = count := by
  simp only [words, List.length_take, List.length_drop, length_blockWords]
  omega

end GatherScatter.Random
