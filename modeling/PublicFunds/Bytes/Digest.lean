import PublicFunds.Bytes.Basic

/-!
# The SHA-256 digest

A digest turns a seed of any length into thirty-two bytes, from which an address can be derived
that does not depend on who derives it.  The message is padded to whole blocks of sixty-four
bytes; each block is spread over a schedule of sixty-four words and mixed, one word a round, into
eight words of state.

* `Digest.sha256`: the digest of a byte string.
-/

namespace PublicFunds

namespace Digest

/-- A word turned to the right. -/
def turn (x : UInt32) (n : UInt32) : UInt32 := (x >>> n) ||| (x <<< (32 - n))

/-- The first thirty-two bits of the fractional parts of the cube roots of the first sixty-four
primes. -/
def roundConstants : List UInt32 :=
  [0x428a2f98, 0x71374491, 0xb5c0fbcf, 0xe9b5dba5, 0x3956c25b, 0x59f111f1,
   0x923f82a4, 0xab1c5ed5, 0xd807aa98, 0x12835b01, 0x243185be, 0x550c7dc3,
   0x72be5d74, 0x80deb1fe, 0x9bdc06a7, 0xc19bf174, 0xe49b69c1, 0xefbe4786,
   0x0fc19dc6, 0x240ca1cc, 0x2de92c6f, 0x4a7484aa, 0x5cb0a9dc, 0x76f988da,
   0x983e5152, 0xa831c66d, 0xb00327c8, 0xbf597fc7, 0xc6e00bf3, 0xd5a79147,
   0x06ca6351, 0x14292967, 0x27b70a85, 0x2e1b2138, 0x4d2c6dfc, 0x53380d13,
   0x650a7354, 0x766a0abb, 0x81c2c92e, 0x92722c85, 0xa2bfe8a1, 0xa81a664b,
   0xc24b8b70, 0xc76c51a3, 0xd192e819, 0xd6990624, 0xf40e3585, 0x106aa070,
   0x19a4c116, 0x1e376c08, 0x2748774c, 0x34b0bcb5, 0x391c0cb3, 0x4ed8aa4a,
   0x5b9cca4f, 0x682e6ff3, 0x748f82ee, 0x78a5636f, 0x84c87814, 0x8cc70208,
   0x90befffa, 0xa4506ceb, 0xbef9a3f7, 0xc67178f2]

/-- The eight words that the rounds mix. -/
structure State where
  a : UInt32
  b : UInt32
  c : UInt32
  d : UInt32
  e : UInt32
  f : UInt32
  g : UInt32
  h : UInt32
  deriving DecidableEq, Repr

namespace State

/-- The first thirty-two bits of the fractional parts of the square roots of the first eight
primes. -/
def initial : State :=
  ⟨0x6a09e667, 0xbb67ae85, 0x3c6ef372, 0xa54ff53a, 0x510e527f, 0x9b05688c, 0x1f83d9ab, 0x5be0cd19⟩

/-- One round: a word of the schedule and its constant enter the state. -/
def round (s : State) (constant word : UInt32) : State :=
  let s1 := turn s.e 6 ^^^ turn s.e 11 ^^^ turn s.e 25
  let choice := (s.e &&& s.f) ^^^ (~~~s.e &&& s.g)
  let first := s.h + s1 + choice + constant + word
  let s0 := turn s.a 2 ^^^ turn s.a 13 ^^^ turn s.a 22
  let majority := (s.a &&& s.b) ^^^ (s.a &&& s.c) ^^^ (s.b &&& s.c)
  ⟨first + s0 + majority, s.a, s.b, s.c, s.d + first, s.e, s.f, s.g⟩

/-- The words of two states added place by place. -/
def add (s t : State) : State :=
  ⟨s.a + t.a, s.b + t.b, s.c + t.c, s.d + t.d, s.e + t.e, s.f + t.f, s.g + t.g, s.h + t.h⟩

/-- The words in order. -/
def toList (s : State) : List UInt32 := [s.a, s.b, s.c, s.d, s.e, s.f, s.g, s.h]

end State

/-- The word after sixteen others: each new one is a sum over four of the last sixteen. -/
def nextWord (first : UInt32) (rest : List UInt32) : UInt32 :=
  let second := rest.getD 0 0
  let fifteenth := rest.getD 13 0
  let s0 := turn second 7 ^^^ turn second 18 ^^^ (second >>> 3)
  let s1 := turn fifteenth 17 ^^^ turn fifteenth 19 ^^^ (fifteenth >>> 10)
  first + s0 + rest.getD 8 0 + s1

/-- The first `n` words of the schedule that starts with a window of sixteen. -/
def schedule : Nat → List UInt32 → List UInt32
  | 0, _ => []
  | _ + 1, [] => []
  | n + 1, first :: rest => first :: schedule n (rest ++ [nextWord first rest])

/-- The words in a byte string, four bytes a word. -/
def words : Bytes → List UInt32
  | a :: b :: c :: d :: rest => UInt32.ofNat (Bytes.ofBig [a, b, c, d]) :: words rest
  | _ => []

/-- The state after one block. -/
def absorb (s : State) (block : Bytes) : State :=
  let mixed := (roundConstants.zip (schedule 64 (words block))).foldl
    (fun t entry => t.round entry.1 entry.2) s
  s.add mixed

/-- The state after all blocks of a padded message. -/
def absorbAll (s : State) (message : Bytes) : State :=
  if 64 ≤ message.length then absorbAll (absorb s (message.take 64)) (message.drop 64) else s
termination_by message.length
decreasing_by simp only [List.length_drop]; omega

/-- A message with the mark of its end, as many zeros as complete a block, and its length in
bits. -/
def pad (message : Bytes) : Bytes :=
  message ++ [0x80] ++ List.replicate ((119 - message.length % 64) % 64) 0 ++
    Bytes.big 8 (8 * message.length)

/-- The digest of a message. -/
def sha256 (message : Bytes) : Bytes :=
  (absorbAll .initial (pad message)).toList.flatMap fun w => Bytes.big 4 w.toNat

/-- A padded message is a whole number of blocks. -/
theorem length_pad (message : Bytes) : (pad message).length % 64 = 0 := by
  simp only [pad, List.length_append, List.length_replicate, Bytes.length_big, List.length_cons,
    List.length_nil]
  omega

/-- A digest has thirty-two bytes. -/
theorem length_sha256 (message : Bytes) : (sha256 message).length = 32 := by
  simp [sha256, State.toList]

end Digest

end PublicFunds
