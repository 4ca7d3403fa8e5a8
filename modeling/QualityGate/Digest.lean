import QualityGate.Text.Basic

/-!
# SHA-256

The message is padded to whole blocks of sixteen words; each block is expanded to sixty-four words
and folded into a state of eight words.
-/

namespace QualityGate
namespace Digest

/-- A 32-bit word. -/
abbrev Word := UInt32

/-- The state of the compression function. -/
structure State where
  a : Word
  b : Word
  c : Word
  d : Word
  e : Word
  f : Word
  g : Word
  h : Word
deriving Repr, DecidableEq, Inhabited

namespace State

/-- The first 32 bits of the fractional parts of the square roots of the first eight primes. -/
def initial : State :=
  ⟨0x6a09e667, 0xbb67ae85, 0x3c6ef372, 0xa54ff53a, 0x510e527f, 0x9b05688c, 0x1f83d9ab, 0x5be0cd19⟩

/-- Add two states word by word. -/
def add (first second : State) : State :=
  ⟨first.a + second.a, first.b + second.b, first.c + second.c, first.d + second.d,
    first.e + second.e, first.f + second.f, first.g + second.g, first.h + second.h⟩

/-- The words of a state in order. -/
def toList (state : State) : List Word :=
  [state.a, state.b, state.c, state.d, state.e, state.f, state.g, state.h]

end State

/-- The first 32 bits of the fractional parts of the cube roots of the first sixty-four primes. -/
def roundConstants : List Word :=
  [0x428a2f98, 0x71374491, 0xb5c0fbcf, 0xe9b5dba5, 0x3956c25b, 0x59f111f1, 0x923f82a4, 0xab1c5ed5,
   0xd807aa98, 0x12835b01, 0x243185be, 0x550c7dc3, 0x72be5d74, 0x80deb1fe, 0x9bdc06a7, 0xc19bf174,
   0xe49b69c1, 0xefbe4786, 0x0fc19dc6, 0x240ca1cc, 0x2de92c6f, 0x4a7484aa, 0x5cb0a9dc, 0x76f988da,
   0x983e5152, 0xa831c66d, 0xb00327c8, 0xbf597fc7, 0xc6e00bf3, 0xd5a79147, 0x06ca6351, 0x14292967,
   0x27b70a85, 0x2e1b2138, 0x4d2c6dfc, 0x53380d13, 0x650a7354, 0x766a0abb, 0x81c2c92e, 0x92722c85,
   0xa2bfe8a1, 0xa81a664b, 0xc24b8b70, 0xc76c51a3, 0xd192e819, 0xd6990624, 0xf40e3585, 0x106aa070,
   0x19a4c116, 0x1e376c08, 0x2748774c, 0x34b0bcb5, 0x391c0cb3, 0x4ed8aa4a, 0x5b9cca4f, 0x682e6ff3,
   0x748f82ee, 0x78a5636f, 0x84c87814, 0x8cc70208, 0x90befffa, 0xa4506ceb, 0xbef9a3f7, 0xc67178f2]

/-- Rotate a word to the right. -/
def rotate (word : Word) (places : Word) : Word :=
  (word >>> places) ||| (word <<< (32 - places))

/-- One round of compression with one round constant and one word of the schedule. -/
def round (state : State) (constant word : Word) : State :=
  let sum1 := rotate state.e 6 ^^^ rotate state.e 11 ^^^ rotate state.e 25
  let choice := (state.e &&& state.f) ^^^ (~~~state.e &&& state.g)
  let first := state.h + sum1 + choice + constant + word
  let sum0 := rotate state.a 2 ^^^ rotate state.a 13 ^^^ rotate state.a 22
  let majority := (state.a &&& state.b) ^^^ (state.a &&& state.c) ^^^ (state.b &&& state.c)
  ⟨first + (sum0 + majority), state.a, state.b, state.c, state.d + first, state.e, state.f, state.g⟩

/-- The next word of a schedule whose last words are given from the newest to the oldest. -/
def nextWord (newest : List Word) : Word :=
  let word (index : Nat) : Word := newest.getD index 0
  let sigma0 := rotate (word 14) 7 ^^^ rotate (word 14) 18 ^^^ (word 14 >>> 3)
  let sigma1 := rotate (word 1) 17 ^^^ rotate (word 1) 19 ^^^ (word 1 >>> 10)
  word 15 + sigma0 + word 6 + sigma1

/-- Put `count` further words in front of a schedule kept from the newest word to the oldest. -/
def extend : Nat → List Word → List Word
  | 0, newest => newest
  | count + 1, newest => extend count (nextWord newest :: newest)

/-- Fold one block of sixteen words into the state. -/
def compress (state : State) (block : List Word) : State :=
  let schedule := (extend 48 block.reverse).reverse
  let rounds := roundConstants.zip schedule
  state.add (rounds.foldl (fun current pair => round current pair.1 pair.2) state)

/-- Four bytes as one word, the first byte highest; missing bytes count as zero. -/
def wordOfBytes : List UInt8 → Word
  | [b0, b1, b2, b3] =>
    (b0.toUInt32 <<< 24) ||| (b1.toUInt32 <<< 16) ||| (b2.toUInt32 <<< 8) ||| b3.toUInt32
  | _ => 0

/-- Cut a list into consecutive pieces of `size` elements; the fuel bounds their number. -/
def chunks {α : Type} (size : Nat) : Nat → List α → List (List α)
  | 0, _ => []
  | _ + 1, [] => []
  | fuel + 1, items => items.take size :: chunks size fuel (items.drop size)

/-- The message followed by one set bit, zeros, and its length in bits as eight bytes. -/
def padded (message : List UInt8) : List UInt8 :=
  let length := message.length
  let zeros := (119 - length % 64) % 64
  let bits := length * 8
  let lengthBytes := (List.range 8).map fun index => UInt8.ofNat (bits >>> (8 * (7 - index)))
  message ++ 0x80 :: List.replicate zeros 0 ++ lengthBytes

/-- The digest of a message as a state of eight words. -/
def ofBytes (message : List UInt8) : State :=
  let bytes := padded message
  let blocks := (chunks 64 bytes.length bytes).map fun block =>
    (chunks 4 block.length block).map wordOfBytes
  blocks.foldl compress State.initial

/-- The digest of a text, in lowercase hexadecimal. -/
def ofText (text : String) : String :=
  String.join ((ofBytes text.toUTF8.toList).toList.map fun word => Text.hex 8 word.toNat)

end Digest
end QualityGate
