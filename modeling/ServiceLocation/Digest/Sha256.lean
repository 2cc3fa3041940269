/-!
**SHA-256.**

* `pad`: the message, a one bit, zeros, and its length in bits, filling whole blocks of 64 bytes;
* `schedule`: the 64 words of a block;
* `compress`: one block folded into the chaining state;
* `sha256`: the digest, always 32 bytes (`length_sha256`).
-/

namespace ServiceLocation.Digest

/-- The chaining state: eight words. -/
structure ChainState where
  a : UInt32
  b : UInt32
  c : UInt32
  d : UInt32
  e : UInt32
  f : UInt32
  g : UInt32
  h : UInt32
  deriving Repr, DecidableEq

namespace ChainState

/-- The initial chaining state. -/
def initial : ChainState :=
  { a := 0x6a09e667, b := 0xbb67ae85, c := 0x3c6ef372, d := 0xa54ff53a
    e := 0x510e527f, f := 0x9b05688c, g := 0x1f83d9ab, h := 0x5be0cd19 }

/-- The sum of two states, word by word. -/
def add (first second : ChainState) : ChainState :=
  { a := first.a + second.a, b := first.b + second.b, c := first.c + second.c
    d := first.d + second.d, e := first.e + second.e, f := first.f + second.f
    g := first.g + second.g, h := first.h + second.h }

end ChainState

/-- The constants of the 64 rounds. -/
def roundConstants : List UInt32 :=
  [0x428a2f98, 0x71374491, 0xb5c0fbcf, 0xe9b5dba5, 0x3956c25b, 0x59f111f1, 0x923f82a4, 0xab1c5ed5,
   0xd807aa98, 0x12835b01, 0x243185be, 0x550c7dc3, 0x72be5d74, 0x80deb1fe, 0x9bdc06a7, 0xc19bf174,
   0xe49b69c1, 0xefbe4786, 0x0fc19dc6, 0x240ca1cc, 0x2de92c6f, 0x4a7484aa, 0x5cb0a9dc, 0x76f988da,
   0x983e5152, 0xa831c66d, 0xb00327c8, 0xbf597fc7, 0xc6e00bf3, 0xd5a79147, 0x06ca6351, 0x14292967,
   0x27b70a85, 0x2e1b2138, 0x4d2c6dfc, 0x53380d13, 0x650a7354, 0x766a0abb, 0x81c2c92e, 0x92722c85,
   0xa2bfe8a1, 0xa81a664b, 0xc24b8b70, 0xc76c51a3, 0xd192e819, 0xd6990624, 0xf40e3585, 0x106aa070,
   0x19a4c116, 0x1e376c08, 0x2748774c, 0x34b0bcb5, 0x391c0cb3, 0x4ed8aa4a, 0x5b9cca4f, 0x682e6ff3,
   0x748f82ee, 0x78a5636f, 0x84c87814, 0x8cc70208, 0x90befffa, 0xa4506ceb, 0xbef9a3f7, 0xc67178f2]

/-- A word turned right by `count` bits. -/
def rotateRight (word count : UInt32) : UInt32 := (word >>> count) ||| (word <<< (32 - count))

/-- The mixing function on the word two places back in the schedule. -/
def lateMix (word : UInt32) : UInt32 :=
  rotateRight word 17 ^^^ rotateRight word 19 ^^^ (word >>> 10)

/-- The mixing function on the word fifteen places back in the schedule. -/
def earlyMix (word : UInt32) : UInt32 :=
  rotateRight word 7 ^^^ rotateRight word 18 ^^^ (word >>> 3)

/-- Four bytes as a word, the most significant byte first. -/
def wordOfBytes (b0 b1 b2 b3 : UInt8) : UInt32 :=
  (b0.toUInt32 <<< 24) ||| (b1.toUInt32 <<< 16) ||| (b2.toUInt32 <<< 8) ||| b3.toUInt32

/-- A word as four bytes, the most significant byte first. -/
def bytesOfWord (word : UInt32) : List UInt8 :=
  [(word >>> 24).toUInt8, (word >>> 16).toUInt8, (word >>> 8).toUInt8, word.toUInt8]

/-- The words of a list of bytes; up to three bytes at the end are dropped. -/
def wordsOfBytes : List UInt8 → List UInt32
  | b0 :: b1 :: b2 :: b3 :: rest => wordOfBytes b0 b1 b2 b3 :: wordsOfBytes rest
  | _ => []

/-- A schedule, latest word first, extended by `count` words. -/
def extendSchedule : Nat → List UInt32 → List UInt32
  | 0, words => words
  | count + 1, words =>
    let next := lateMix (words.getD 1 0) + words.getD 6 0 +
      earlyMix (words.getD 14 0) + words.getD 15 0
    extendSchedule count (next :: words)

/-- The 64 words of a block. -/
def schedule (block : List UInt8) : List UInt32 :=
  (extendSchedule 48 (wordsOfBytes block).reverse).reverse

/-- One round, with the sum of its constant and its word of the schedule. -/
def round (state : ChainState) (input : UInt32) : ChainState :=
  let mixE := rotateRight state.e 6 ^^^ rotateRight state.e 11 ^^^ rotateRight state.e 25
  let choice := (state.e &&& state.f) ^^^ (~~~state.e &&& state.g)
  let first := state.h + mixE + choice + input
  let mixA := rotateRight state.a 2 ^^^ rotateRight state.a 13 ^^^ rotateRight state.a 22
  let majority := (state.a &&& state.b) ^^^ (state.a &&& state.c) ^^^ (state.b &&& state.c)
  let second := mixA + majority
  { a := first + second, b := state.a, c := state.b, d := state.c
    e := state.d + first, f := state.e, g := state.f, h := state.g }

/-- One block folded into the chaining state. -/
def compress (state : ChainState) (block : List UInt8) : ChainState :=
  state.add ((List.zipWith (· + ·) roundConstants (schedule block)).foldl round state)

/-- A number in eight bytes, the most significant byte first. -/
def bytesOfLength (bits : Nat) : List UInt8 :=
  [56, 48, 40, 32, 24, 16, 8, 0].map fun shift => (bits >>> shift).toUInt8

/-- How many zero bytes stand between the one bit and the length. -/
def zeroCount (size : Nat) : Nat := (119 - size % 64) % 64

/-- The message with its padding: whole blocks of 64 bytes. -/
def pad (message : List UInt8) : List UInt8 :=
  message ++ 0x80 :: (List.replicate (zeroCount message.length) 0 ++
    bytesOfLength (8 * message.length))

/-- The bytes folded into the state, block by block; fewer than 64 bytes are left alone. -/
def absorb (state : ChainState) (bytes : List UInt8) : ChainState :=
  match _whole : bytes.drop 63 with
  | [] => state
  | _ :: rest => absorb (compress state (bytes.take 64)) rest
  termination_by bytes.length
  decreasing_by
    have lengths := congrArg List.length _whole
    simp only [List.length_drop, List.length_cons] at lengths
    omega

/-- A state as bytes. -/
def ChainState.bytes (state : ChainState) : List UInt8 :=
  bytesOfWord state.a ++ bytesOfWord state.b ++ bytesOfWord state.c ++ bytesOfWord state.d ++
  bytesOfWord state.e ++ bytesOfWord state.f ++ bytesOfWord state.g ++ bytesOfWord state.h

/-- The SHA-256 digest of a message. -/
def sha256 (message : List UInt8) : List UInt8 := (absorb .initial (pad message)).bytes

/-- A digest has 32 bytes. -/
@[simp] theorem length_sha256 (message : List UInt8) : (sha256 message).length = 32 := rfl

/-- The digest of `abc` that the standard publishes. -/
example : wordsOfBytes (sha256 "abc".toUTF8.toList) =
    [0xba7816bf, 0x8f01cfea, 0x414140de, 0x5dae2223, 0xb00361a3, 0x96177a9c, 0xb410ff61,
     0xf20015ad] := by
  decide +kernel

/-- Its digest of a message that fills two blocks. -/
example : wordsOfBytes (sha256
      "abcdbcdecdefdefgefghfghighijhijkijkljklmklmnlmnomnopnopq".toUTF8.toList) =
    [0x248d6a61, 0xd20638b8, 0xe5c02693, 0x0c3e6039, 0xa33ce459, 0x64ff2167, 0xf6ecedd4,
     0x19db06c1] := by
  decide +kernel

end ServiceLocation.Digest
