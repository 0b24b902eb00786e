import GatherScatter.Text.Escape
/-! # Letters, digits and blanks -/

namespace GatherScatter.Text

def alphabeticText : String :=
  "41 1a 6 1a 2f 1 a 1 4 1 5 17 1 1f 1 1ca 4 c e 5 7 1 1 1 56 1 1d 12 1 2 2 4 1 1 6 1 1 " ++
  "3 1 1 1 14 1 53 1 8b 8 a6 1 26 2 1 6 29 27 e 1 1 1 2 1 2 1 1 8 1b 4 4 1d b 5 38 1 7 " ++
  "e 66 1 8 4 8 4 3 a 3 2 1 10 30 d 65 18 21 9 2 4 1 5 18 2 13 13 19 7 b 5 18 1 7 7 1 8 " ++
  "2a a c 3 7 6 4c 1 10 1 3 4 f d 13 1 8 2 2 2 16 1 7 1 1 3 4 3 8 2 2 2 2 1 1 8 1 4 2 1 " ++
  "5 c 2 a 1 4 3 1 6 4 2 2 16 1 7 1 2 1 2 1 2 4 5 4 2 2 2 4 1 7 4 1 1 11 6 b 3 1 9 1 3 " ++
  "1 16 1 7 1 2 1 5 3 9 1 3 1 2 3 1 f 4 15 4 4 3 1 8 2 2 2 16 1 7 1 2 1 5 3 8 2 2 2 2 9 " ++
  "2 4 2 1 5 d 1 10 2 1 6 3 3 1 4 3 2 1 1 1 2 3 2 3 3 3 c 4 5 3 3 1 3 3 1 6 1 28 d 1 3 " ++
  "1 17 1 10 3 8 1 3 1 3 8 2 1 3 1 2 2 4 1c 4 1 8 1 3 1 17 1 a 1 5 3 8 1 3 1 3 8 2 5 3 " ++
  "1 4 d 3 c d 1 3 1 29 2 8 1 3 1 3 1 1 5 4 7 5 16 6 1 3 1 12 3 18 1 9 1 1 2 7 8 6 1 1 " ++
  "1 8 12 2 d 3a 5 7 6 1 33 2 1 1 1 5 1 18 1 1 1 13 1 3 2 5 1 1 6 1 e 4 20 1 3f 8 1 24 " ++
  "4 13 4 10 1 24 43 37 1 1 2 5 10 40 a 4 2 26 1 1 5 1 2 2b 1 14d 1 4 2 7 1 1 1 4 2 29 " ++
  "1 4 2 21 1 4 2 7 1 1 1 4 2 f 1 39 1 4 2 43 25 10 10 56 2 6 3 26c 2 11 1 1a 5 4b 3 b " ++
  "7 14 b 15 c 14 c d 1 3 1 2 c 34 2 13 e 1 4 1 43 59 7 2b 5 46 a 1f 1 c 4 9 17 1e 2 5 " ++
  "b 2c 4 1a 36 1c 4 3f 2 14 32 1 17 2 b 3 31 34 1 f 1 8 33 2a 2 4 a 2c 1 b e 37 16 3 a " ++
  "24 2 b 5 2b 2 3 29 4 1 6 1 2 3 1 5 c0 13 22 b 116 2 6 2 26 2 6 2 8 1 1 1 1 1 1 1 1f " ++
  "2 35 1 7 1 1 3 3 1 7 3 4 2 6 4 d 5 3 1 7 74 1 d 1 10 d 65 1 4 1 2 a 1 1 3 5 6 1 1 1 " ++
  "1 1 1 4 1 b 2 4 5 5 4 1 11 29 32d 34 716 e5 6 4 3 2 c 26 1 1 5 1 2 38 7 1 10 17 9 7 " ++
  "1 7 1 7 1 7 1 7 1 7 1 7 1 7 1 20 2f 1 1d5 3 19 9 7 5 2 5 4 56 6 3 1 5a 1 4 5 2b 1 5e " ++
  "11 20 30 10 200 19c0 40 568d 43 2e 2 10d 3 10 a 2 14 2f 5 8 3 71 27 9 2 67 2 52 14 " ++
  "15 1 21 18 34 c 44 1 1 2c 6 3 1 1 3 a 21 5 23 d 1d 3 33 1 c f 1 10 10 a 5 1 37 9 e " ++
  "12 17 3 45 1 1 1 1 18 3 2 10 2 4 b 6 2 6 2 6 9 7 1 7 1 2b 1 e 6 7b 15 2ba4 c 17 4 31 " ++
  "2104 16e 2 6a 26 7 c 5 5 c 1 d 1 5 1 1 1 2 1 2 1 6c 21 16b 12 40 2 36 28 c 74 5 1 87 " ++
  "24 1a 6 1a b 59 3 6 2 6 2 6 2 3 23 c 1 1a 1 13 1 2 1 f 2 e 22 7b 45 35 10b 1d 3 31 " ++
  "2f 20 d 1e 5 2b 5 1e 2 24 4 8 1 5 2a 9e 12 24 4 24 4 28 8 34 c b 1 f 1 7 1 2 1 b 1 f " ++
  "1 7 1 2 3 34 c 137 9 16 a 8 18 6 1 2a 1 9 45 6 2 1 1 2c 1 2 3 1 2 17 a 17 9 1f 41 13 " ++
  "1 2 a 16 a 1a 6 1a 26 38 6 2 40 4 1 2 5 8 1 3 1 1d 2a 1d 3 1d 23 8 1 1c 1b 36 a 16 a " ++
  "13 d 12 6e 49 37 33 d 33 d 28 22 1c 3 1 5 17 fa 2a 1 2 3 2 10 6 32 3 3 1d a 1 8 16 " ++
  "2a 12 2e 15 1b 17 9 46 2b 5 a 39 9 1 d 19 17 33 11 4 8 23 3 1 9 40 1 4 9 2 a 1 1 1 " ++
  "23 12 1 22 2 1 6 4 3e 7 1 1 1 4 1 f 1 a 7 39 17 4 1 8 2 2 2 16 1 7 1 2 1 5 3 8 2 2 2 " ++
  "2 3 1 6 1 5 7 1c a 1 1 2 1 1 26 1 a 1 1 2 1 1 4 1 2 3 1 1 1 2c 42 1 3 1 4 14 3 1e 42 " ++
  "2 2 1 1 b8 36 2 7 19 6 22 3f 1 1 3 1 3b 36 2 1 47 1b 2 e 15 7 b9 39 67 40 1f 8 2 1 2 " ++
  "8 1 2 1 1e 1 2 2 2 2 4 5d 8 2 2e 2 6 1 1 1 2 1b 33 2 a 11 48 5 1 12 49 67 8 58 21 1f " ++
  "9 1 2d 1 7 1 1 31 1e 2 16 1 e 49 7 1 2 1 2c 3 1 1 2 1 3 1 1 2 2 18 6 1 2 1 25 1 2 1 " ++
  "4 1 1 17 2c 104 17 9 11 1 29 3 3 6f 1 4f 39a 66 6f 11 c4 a4c 61 f 430 11 6 19 f9b 5 " ++
  "247 1ab9 2f 6d1 239 7 1f 11 4f 11 1e 12 30 10 4 1f 15 5 13 1b0 2d d3 40 20 19 2 19 " ++
  "2c 4b 4 39 7 11 40 2 1 1 c 7 9 1cd6 29 20 61 73 21fd 4 1 7 1 2 1 123 f 1 1d 3 2 1 e " ++
  "4 8 18c 904 6b 5 d 3 9 7 a 4 1 1761 55 1 47 1 2 2 1 2 2 2 4 1 c 1 1 1 7 1 41 1 4 2 8 " ++
  "1 7 1 1c 1 4 1 5 1 1 3 7 1 154 2 19 1 19 1 1f 1 19 1 1f 1 19 1 1f 1 19 1 1f 1 19 1 8 " ++
  "734 1f 6 6 d5 7 1 11 2 7 1 2 1 5 5 3e 21 1 70 2d a 7 10 1 141 1e 12 2c 1e4 1c e4 1e " ++
  "2 1 cf 1f 1 16 8 2 e0 7 1 4 1 2 1 f 1 c5 3b 44 3 1 3 1 4b4 4 1 1b 1 2 1 1 2 1 1 a 1 " ++
  "4 1 1 1 1 6 1 4 1 1 1 1 1 1 3 1 2 1 1 2 1 1 1 1 1 1 1 1 1 1 2 1 1 2 4 1 7 1 4 1 4 1 " ++
  "1 1 a 1 11 5 3 1 5 1 11 274 1a 6 1a 6 1a e76 a6e0 20 111e 2 168e 2 1d31 f 26e 9a2 " ++
  "21e 5e2 134b 5 212a"

def numericText : String :=
  "30 a 78 2 5 1 2 3 5a1 a 86 a c6 a 19c a 76 a 4 6 6c a 76 a 76 a 2 6 6e d 73 a 8 7 67 " ++
  "a 68 7 7 13 6d a 60 a 76 a 46 14 10c a 46 a 2cf 14 371 3 ef a 6 a 16 a 12c a 80 b a5 " ++
  "a 6 a b6 a 56 a 86 a 6 a 416 1 3 6 6 a c6 33 2 5 2d6 3c 4e 16 276 1e 569 1 309 1 19 " ++
  "9 e 3 157 4 8a a 1e 8 1 f 20 a 27 f 7360 a bc a 140 6 9a a 26 a c6 a 16 a 56 a 196 a " ++
  "5316 a 1ed 2d c 39 11 2 155 1b 24 4 1d 1 8 1 86 5 ca a 3ae 8 19 7 27 9 4b 5 16 6 a0 " ++
  "2 2 10 2 2e 40 9 34 2 1e 3 4b 5 68 8 18 8 29 7 14a 6 30 a 6 a 116 1f 9e a 2a 4 70 7 " ++
  "86 1e 80 a 3c a 90 a 7 14 fb a 156 a 76 a 176 a 66 a 6 14 4c c 1a4 13 5d a 296 a 56 " ++
  "1d e3 a 46 a 36 a 166 a 66 15 42b 6f 3cc1 a 926 a 56 a 86 a 1 7 20e a 106 17 15d 3 " ++
  "5cf9 a 5c6 14 c 14 6c 19 455 32 940 a 1a6 a 1f6 a f7 a 2cc 9 80 a 317 3b 1 3 1 4 4c " ++
  "2d 1 f 3c2 d ae3 a"

def alphabetic : Array Nat := readBounds alphabeticText

def numeric : Array Nat := readBounds numericText

def isAlphabetic (c : Char) : Bool := Bounds.contains alphabetic c.toNat

def isAlphanumeric (c : Char) : Bool :=
  Bounds.contains alphabetic c.toNat || Bounds.contains numeric c.toNat

/-- Whether a character is white space: the ASCII blanks and line breaks, the next line
character, and the Unicode spaces and separators. -/
def isWhitespace (c : Char) : Bool :=
  let n := c.toNat
  (9 ≤ n && n ≤ 13) || n == 32 || n == 0x85 || n == 0xA0 || n == 0x1680 ||
    (0x2000 ≤ n && n ≤ 0x200A) || n == 0x2028 || n == 0x2029 || n == 0x202F ||
    n == 0x205F || n == 0x3000

end GatherScatter.Text
