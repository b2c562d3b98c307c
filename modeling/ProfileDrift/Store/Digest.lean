namespace ProfileDrift.Digest

/-- The first 32 bits of the fractional parts of the cube roots of the first
sixty-four primes. -/
def roundConstants : List UInt32 := [
  0x428a2f98, 0x71374491, 0xb5c0fbcf, 0xe9b5dba5, 0x3956c25b, 0x59f111f1, 0x923f82a4, 0xab1c5ed5,
  0xd807aa98, 0x12835b01, 0x243185be, 0x550c7dc3, 0x72be5d74, 0x80deb1fe, 0x9bdc06a7, 0xc19bf174,
  0xe49b69c1, 0xefbe4786, 0x0fc19dc6, 0x240ca1cc, 0x2de92c6f, 0x4a7484aa, 0x5cb0a9dc, 0x76f988da,
  0x983e5152, 0xa831c66d, 0xb00327c8, 0xbf597fc7, 0xc6e00bf3, 0xd5a79147, 0x06ca6351, 0x14292967,
  0x27b70a85, 0x2e1b2138, 0x4d2c6dfc, 0x53380d13, 0x650a7354, 0x766a0abb, 0x81c2c92e, 0x92722c85,
  0xa2bfe8a1, 0xa81a664b, 0xc24b8b70, 0xc76c51a3, 0xd192e819, 0xd6990624, 0xf40e3585, 0x106aa070,
  0x19a4c116, 0x1e376c08, 0x2748774c, 0x34b0bcb5, 0x391c0cb3, 0x4ed8aa4a, 0x5b9cca4f, 0x682e6ff3,
  0x748f82ee, 0x78a5636f, 0x84c87814, 0x8cc70208, 0x90befffa, 0xa4506ceb, 0xbef9a3f7, 0xc67178f2]

/-- The eight words that a digest is made of. -/
structure Words where
  a : UInt32
  b : UInt32
  c : UInt32
  d : UInt32
  e : UInt32
  f : UInt32
  g : UInt32
  h : UInt32
  deriving DecidableEq

/-- The first 32 bits of the fractional parts of the square roots of the first
eight primes. -/
def Words.initial : Words :=
  ⟨0x6a09e667, 0xbb67ae85, 0x3c6ef372, 0xa54ff53a, 0x510e527f, 0x9b05688c, 0x1f83d9ab, 0x5be0cd19⟩

def Words.add (left right : Words) : Words :=
  ⟨left.a + right.a, left.b + right.b, left.c + right.c, left.d + right.d,
    left.e + right.e, left.f + right.f, left.g + right.g, left.h + right.h⟩

def Words.toList (words : Words) : List UInt32 :=
  [words.a, words.b, words.c, words.d, words.e, words.f, words.g, words.h]

def rotateRight (word : UInt32) (places : UInt32) : UInt32 :=
  (word >>> places) ||| (word <<< (32 - places))

/-- The word after the sixteen before it, given newest first. -/
def nextWord (recent : List UInt32) : UInt32 :=
  let late := recent.getD 1 0
  let early := recent.getD 14 0
  let mixedLate := rotateRight late 17 ^^^ rotateRight late 19 ^^^ (late >>> 10)
  let mixedEarly := rotateRight early 7 ^^^ rotateRight early 18 ^^^ (early >>> 3)
  mixedLate + recent.getD 6 0 + mixedEarly + recent.getD 15 0

/-- Extends the words of a block, newest first, by so many more. -/
def extend : Nat → List UInt32 → List UInt32
  | 0, words => words
  | count + 1, words => extend count (nextWord words :: words)

def round (words : Words) (constant word : UInt32) : Words :=
  let turnedE := rotateRight words.e 6 ^^^ rotateRight words.e 11 ^^^ rotateRight words.e 25
  let chosen := (words.e &&& words.f) ^^^ (~~~words.e &&& words.g)
  let first := words.h + turnedE + chosen + constant + word
  let turnedA := rotateRight words.a 2 ^^^ rotateRight words.a 13 ^^^ rotateRight words.a 22
  let majority := (words.a &&& words.b) ^^^ (words.a &&& words.c) ^^^ (words.b &&& words.c)
  ⟨first + (turnedA + majority), words.a, words.b, words.c,
    words.d + first, words.e, words.f, words.g⟩

/-- Mixes one block of sixteen words, newest first, into the digest so far. -/
def compress (state : Words) (block : List UInt32) : Words :=
  let schedule := roundConstants.zip (extend 48 block).reverse
  state.add (schedule.foldl (fun words (constant, word) => round words constant word) state)

/-- Takes bytes four at a time, the most significant first, and mixes in a block
whenever sixteen words have come together. -/
def absorb (state : Words) (block : List UInt32) (count : Nat) : List UInt8 → Words
  | a :: b :: c :: d :: rest =>
    let word :=
      (a.toUInt32 <<< 24) ||| (b.toUInt32 <<< 16) ||| (c.toUInt32 <<< 8) ||| d.toUInt32
    if count = 15 then absorb (compress state (word :: block)) [] 0 rest
    else absorb state (word :: block) (count + 1) rest
  | _ => state

/-- The bytes of a number that fills so many, the most significant first. -/
def bigEndian : Nat → Nat → List UInt8
  | 0, _ => []
  | width + 1, number => UInt8.ofNat (number / Nat.pow 256 width) :: bigEndian width number

/-- A message is closed by a one bit, zeros and its length in bits, so that it
fills whole blocks of sixty-four bytes. -/
def padded (message : List UInt8) : List UInt8 :=
  let zeros := (119 - message.length % 64) % 64
  message ++ 0x80 :: (List.replicate zeros 0 ++ bigEndian 8 (8 * message.length))

def sha256 (message : List UInt8) : Words := absorb .initial [] 0 (padded message)

def hexOfWord (word : UInt32) : List Char :=
  (bigEndian 4 word.toNat).flatMap fun byte =>
    [Nat.digitChar (byte.toNat / 16), Nat.digitChar (byte.toNat % 16)]

/-- The SHA-256 digest of the UTF-8 bytes of a text, as sixty-four hexadecimal
digits. -/
def hexDigest (text : String) : String :=
  String.ofList ((sha256 text.toUTF8.toList).toList.flatMap hexOfWord)

end ProfileDrift.Digest
