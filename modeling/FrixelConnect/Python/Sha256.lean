import Mathlib.Algebra.Group.Nat.Defs

/-!
# SHA-256

`hashlib.sha256(text.encode()).hexdigest()`. Words are natural numbers below
`2 ^ 32`.
-/

namespace Python.Sha256

/-- Rotation of a word to the right. -/
def rotr (n x : ℕ) : ℕ := (x >>> n) ||| (x <<< (32 - n) % 2 ^ 32)

/-- The fractional parts of the cube roots of the first 64 primes. -/
def K : List ℕ := [
  0x428a2f98, 0x71374491, 0xb5c0fbcf, 0xe9b5dba5, 0x3956c25b, 0x59f111f1, 0x923f82a4, 0xab1c5ed5,
  0xd807aa98, 0x12835b01, 0x243185be, 0x550c7dc3, 0x72be5d74, 0x80deb1fe, 0x9bdc06a7, 0xc19bf174,
  0xe49b69c1, 0xefbe4786, 0x0fc19dc6, 0x240ca1cc, 0x2de92c6f, 0x4a7484aa, 0x5cb0a9dc, 0x76f988da,
  0x983e5152, 0xa831c66d, 0xb00327c8, 0xbf597fc7, 0xc6e00bf3, 0xd5a79147, 0x06ca6351, 0x14292967,
  0x27b70a85, 0x2e1b2138, 0x4d2c6dfc, 0x53380d13, 0x650a7354, 0x766a0abb, 0x81c2c92e, 0x92722c85,
  0xa2bfe8a1, 0xa81a664b, 0xc24b8b70, 0xc76c51a3, 0xd192e819, 0xd6990624, 0xf40e3585, 0x106aa070,
  0x19a4c116, 0x1e376c08, 0x2748774c, 0x34b0bcb5, 0x391c0cb3, 0x4ed8aa4a, 0x5b9cca4f, 0x682e6ff3,
  0x748f82ee, 0x78a5636f, 0x84c87814, 0x8cc70208, 0x90befffa, 0xa4506ceb, 0xbef9a3f7, 0xc67178f2]

structure Digest where
  a : ℕ
  b : ℕ
  c : ℕ
  d : ℕ
  e : ℕ
  f : ℕ
  g : ℕ
  h : ℕ

/-- The fractional parts of the square roots of the first 8 primes. -/
def H : Digest where
  a := 0x6a09e667
  b := 0xbb67ae85
  c := 0x3c6ef372
  d := 0xa54ff53a
  e := 0x510e527f
  f := 0x9b05688c
  g := 0x1f83d9ab
  h := 0x5be0cd19

/-- Extend the schedule, which is kept with the last word first, by `n` words. -/
def schedule : ℕ → List ℕ → List ℕ
  | 0, ws => ws.reverse
  | n + 1, ws =>
      let w (i : ℕ) : ℕ := ws[i - 1]?.getD 0
      let s0 := rotr 7 (w 15) ^^^ rotr 18 (w 15) ^^^ (w 15 >>> 3)
      let s1 := rotr 17 (w 2) ^^^ rotr 19 (w 2) ^^^ (w 2 >>> 10)
      schedule n ((w 16 + s0 + w 7 + s1) % 2 ^ 32 :: ws)

def round (s : Digest) (k w : ℕ) : Digest :=
  let s1 := rotr 6 s.e ^^^ rotr 11 s.e ^^^ rotr 25 s.e
  let ch := (s.e &&& s.f) ^^^ ((2 ^ 32 - 1 - s.e) &&& s.g)
  let t1 := s.h + s1 + ch + k + w
  let s0 := rotr 2 s.a ^^^ rotr 13 s.a ^^^ rotr 22 s.a
  let maj := (s.a &&& s.b) ^^^ (s.a &&& s.c) ^^^ (s.b &&& s.c)
  { a := (t1 + s0 + maj) % 2 ^ 32, b := s.a, c := s.b, d := s.c
    e := (s.d + t1) % 2 ^ 32, f := s.e, g := s.f, h := s.g }

/-- One block of 16 words. -/
def compress (s : Digest) (block : List ℕ) : Digest :=
  let r := (K.zip (schedule 48 block.reverse)).foldl (fun s kw => round s kw.1 kw.2) s
  { a := (s.a + r.a) % 2 ^ 32, b := (s.b + r.b) % 2 ^ 32, c := (s.c + r.c) % 2 ^ 32
    d := (s.d + r.d) % 2 ^ 32, e := (s.e + r.e) % 2 ^ 32, f := (s.f + r.f) % 2 ^ 32
    g := (s.g + r.g) % 2 ^ 32, h := (s.h + r.h) % 2 ^ 32 }

/-- The digits of a number in some base, with the most significant one first. -/
def digits (base width n : ℕ) : List ℕ :=
  (List.range width).map fun i => n / base ^ (width - 1 - i) % base

/-- The message with a one bit, zeros and its length behind it. -/
def pad (bytes : List ℕ) : List ℕ :=
  bytes ++ 0x80 :: List.replicate ((119 - bytes.length % 64) % 64) 0 ++
    digits 256 8 (8 * bytes.length)

/-- Consecutive pieces of `size` elements. -/
def pieces (size : ℕ) (xs : List ℕ) : List (List ℕ) :=
  (List.range (xs.length / size)).map fun i => (xs.drop (size * i)).take size

def words (bytes : List ℕ) : List ℕ :=
  (pieces 4 bytes).map fun ds => ds.foldl (fun n b => 256 * n + b) 0

def digest (bytes : List ℕ) : Digest := ((pieces 16 (words (pad bytes))).foldl compress H)

def hexdigest (s : Digest) : String :=
  String.ofList (([s.a, s.b, s.c, s.d, s.e, s.f, s.g, s.h].flatMap (digits 16 8)).map fun n =>
    if n < 10 then Char.ofNat (48 + n) else Char.ofNat (87 + n))

end Sha256

/-- `hashlib.sha256(text.encode()).hexdigest()`. -/
@[irreducible] def sha256 (text : String) : String :=
  Sha256.hexdigest (Sha256.digest (text.toList.flatMap fun c =>
    (String.utf8EncodeChar c).map UInt8.toNat))

example : sha256 "abc" = "ba7816bf8f01cfea414140de5dae2223b00361a396177a9cb410ff61f20015ad" := by
  decide +kernel

end Python
