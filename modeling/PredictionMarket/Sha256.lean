import PredictionMarket.Text

/-!
# SHA-256

The hash that keys outbound transfers and digests a snapshot. A message is padded to a multiple of
sixteen words, and each block of sixteen is expanded to sixty-four and mixed into eight words of
state in as many rounds.
-/

namespace PredictionMarket.Sha256

/-- The eight words that one block is mixed into. -/
structure State where
  /-- First word. -/
  a : UInt32
  /-- Second word. -/
  b : UInt32
  /-- Third word. -/
  c : UInt32
  /-- Fourth word. -/
  d : UInt32
  /-- Fifth word. -/
  e : UInt32
  /-- Sixth word. -/
  f : UInt32
  /-- Seventh word. -/
  g : UInt32
  /-- Eighth word. -/
  h : UInt32

/-- The fractional parts of the square roots of the first eight primes. -/
def initial : State :=
  ⟨0x6a09e667, 0xbb67ae85, 0x3c6ef372, 0xa54ff53a,
    0x510e527f, 0x9b05688c, 0x1f83d9ab, 0x5be0cd19⟩

/-- The fractional parts of the cube roots of the first sixty-four primes. -/
def roundConstants : Array UInt32 := #[
  0x428a2f98, 0x71374491, 0xb5c0fbcf, 0xe9b5dba5, 0x3956c25b, 0x59f111f1, 0x923f82a4, 0xab1c5ed5,
  0xd807aa98, 0x12835b01, 0x243185be, 0x550c7dc3, 0x72be5d74, 0x80deb1fe, 0x9bdc06a7, 0xc19bf174,
  0xe49b69c1, 0xefbe4786, 0x0fc19dc6, 0x240ca1cc, 0x2de92c6f, 0x4a7484aa, 0x5cb0a9dc, 0x76f988da,
  0x983e5152, 0xa831c66d, 0xb00327c8, 0xbf597fc7, 0xc6e00bf3, 0xd5a79147, 0x06ca6351, 0x14292967,
  0x27b70a85, 0x2e1b2138, 0x4d2c6dfc, 0x53380d13, 0x650a7354, 0x766a0abb, 0x81c2c92e, 0x92722c85,
  0xa2bfe8a1, 0xa81a664b, 0xc24b8b70, 0xc76c51a3, 0xd192e819, 0xd6990624, 0xf40e3585, 0x106aa070,
  0x19a4c116, 0x1e376c08, 0x2748774c, 0x34b0bcb5, 0x391c0cb3, 0x4ed8aa4a, 0x5b9cca4f, 0x682e6ff3,
  0x748f82ee, 0x78a5636f, 0x84c87814, 0x8cc70208, 0x90befffa, 0xa4506ceb, 0xbef9a3f7, 0xc67178f2]

/-- A word with its bits turned to the right. -/
def rotate (x : UInt32) (bits : UInt32) : UInt32 :=
  (x >>> bits) ||| (x <<< (32 - bits))

/-- The words of a block and the forty-eight that are derived from them. -/
def schedule (block : List UInt32) : Array UInt32 :=
  (List.range 48).foldl
    (fun w i =>
      let x := w.getD (i + 1) 0
      let y := w.getD (i + 14) 0
      let s := rotate x 7 ^^^ rotate x 18 ^^^ (x >>> 3)
      let t := rotate y 17 ^^^ rotate y 19 ^^^ (y >>> 10)
      w.push (w.getD i 0 + s + w.getD (i + 9) 0 + t))
    block.toArray

/-- One round, with its constant and word already added. -/
def State.round (s : State) (k : UInt32) : State :=
  let high := rotate s.e 6 ^^^ rotate s.e 11 ^^^ rotate s.e 25
  let choice := (s.e &&& s.f) ^^^ (~~~s.e &&& s.g)
  let low := rotate s.a 2 ^^^ rotate s.a 13 ^^^ rotate s.a 22
  let majority := (s.a &&& s.b) ^^^ (s.a &&& s.c) ^^^ (s.b &&& s.c)
  let x := s.h + high + choice + k
  ⟨x + low + majority, s.a, s.b, s.c, s.d + x, s.e, s.f, s.g⟩

/-- Mixes one block into the state. -/
def State.absorb (s : State) (block : List UInt32) : State :=
  let w := schedule block
  let t := (List.range 64).foldl
    (fun t i => t.round (roundConstants.getD i 0 + w.getD i 0)) s
  ⟨s.a + t.a, s.b + t.b, s.c + t.c, s.d + t.d, s.e + t.e, s.f + t.f, s.g + t.g, s.h + t.h⟩

/-- Mixes the given number of blocks into the state. -/
def State.absorbAll : (blocks : Nat) → List UInt32 → State → State
  | 0, _, s => s
  | blocks + 1, message, s => absorbAll blocks (message.drop 16) (s.absorb (message.take 16))

/-- The octets of a number, highest first. -/
def octets : (width : Nat) → (n : Nat) → List UInt8
  | 0, _ => []
  | width + 1, n => octets width (n / 256) ++ [UInt8.ofNat n]

/-- The message, a one bit, zero bits, and the length of the message in bits. -/
def padded (message : List UInt8) : List UInt8 :=
  let gap := (119 - message.length % 64) % 64
  message ++ 0x80 :: List.replicate gap 0 ++ octets 8 (8 * message.length)

/-- Octets in groups of four, as words. -/
def toWords : List UInt8 → List UInt32
  | p :: q :: r :: s :: rest =>
    ((p.toUInt32 <<< 24) ||| (q.toUInt32 <<< 16) ||| (r.toUInt32 <<< 8) ||| s.toUInt32) ::
      toWords rest
  | _ => []

/-- The hash of a message. -/
def hash (message : List UInt8) : List UInt8 :=
  let message := toWords (padded message)
  let s := State.absorbAll (message.length / 16) message initial
  [s.a, s.b, s.c, s.d, s.e, s.f, s.g, s.h].flatMap fun w => octets 4 w.toNat

/-- The hash of a message in hexadecimal digits, after `0x`. -/
def hex (message : List UInt8) : Text :=
  "0x" ++ (hash message).flatMap fun o => Text.hex 2 o.toNat

end PredictionMarket.Sha256
