import MudClient.Text
/-! The digest of a text: SHA-256 over its bytes in UTF-8. Blocks of sixteen words are mixed one
after another into eight words, in sixty-four rounds each. -/
namespace MudClient

namespace Sha256

/-- What each round adds: the first bits after the point of the cube roots of the primes. -/
def roundConstants : List UInt32 :=
  [0x428a2f98, 0x71374491, 0xb5c0fbcf, 0xe9b5dba5, 0x3956c25b, 0x59f111f1, 0x923f82a4, 0xab1c5ed5,
   0xd807aa98, 0x12835b01, 0x243185be, 0x550c7dc3, 0x72be5d74, 0x80deb1fe, 0x9bdc06a7, 0xc19bf174,
   0xe49b69c1, 0xefbe4786, 0x0fc19dc6, 0x240ca1cc, 0x2de92c6f, 0x4a7484aa, 0x5cb0a9dc, 0x76f988da,
   0x983e5152, 0xa831c66d, 0xb00327c8, 0xbf597fc7, 0xc6e00bf3, 0xd5a79147, 0x06ca6351, 0x14292967,
   0x27b70a85, 0x2e1b2138, 0x4d2c6dfc, 0x53380d13, 0x650a7354, 0x766a0abb, 0x81c2c92e, 0x92722c85,
   0xa2bfe8a1, 0xa81a664b, 0xc24b8b70, 0xc76c51a3, 0xd192e819, 0xd6990624, 0xf40e3585, 0x106aa070,
   0x19a4c116, 0x1e376c08, 0x2748774c, 0x34b0bcb5, 0x391c0cb3, 0x4ed8aa4a, 0x5b9cca4f, 0x682e6ff3,
   0x748f82ee, 0x78a5636f, 0x84c87814, 0x8cc70208, 0x90befffa, 0xa4506ceb, 0xbef9a3f7, 0xc67178f2]

structure State where
  a : UInt32
  b : UInt32
  c : UInt32
  d : UInt32
  e : UInt32
  f : UInt32
  g : UInt32
  h : UInt32

/-- The first bits after the point of the square roots of the primes. -/
def State.initial : State where
  a := 0x6a09e667
  b := 0xbb67ae85
  c := 0x3c6ef372
  d := 0xa54ff53a
  e := 0x510e527f
  f := 0x9b05688c
  g := 0x1f83d9ab
  h := 0x5be0cd19

def State.add (s t : State) : State :=
  ⟨s.a + t.a, s.b + t.b, s.c + t.c, s.d + t.d, s.e + t.e, s.f + t.f, s.g + t.g, s.h + t.h⟩

def State.words (s : State) : List UInt32 := [s.a, s.b, s.c, s.d, s.e, s.f, s.g, s.h]

def rotateRight (x n : UInt32) : UInt32 := (x >>> n) ||| (x <<< (32 - n))

def choose (x y z : UInt32) : UInt32 := (x &&& y) ^^^ (~~~x &&& z)

def majority (x y z : UInt32) : UInt32 := (x &&& y) ^^^ (x &&& z) ^^^ (y &&& z)

/-- One round, for the sum of its word and its constant. -/
def round (s : State) (input : UInt32) : State :=
  let mixed := s.h + (rotateRight s.e 6 ^^^ rotateRight s.e 11 ^^^ rotateRight s.e 25) +
    choose s.e s.f s.g + input
  let top := mixed + (rotateRight s.a 2 ^^^ rotateRight s.a 13 ^^^ rotateRight s.a 22) +
    majority s.a s.b s.c
  ⟨top, s.a, s.b, s.c, s.d + mixed, s.e, s.f, s.g⟩

/-- The word after sixteen words. -/
def nextWord (window : List UInt32) : UInt32 :=
  let word (i : Nat) := window.getD i 0
  let early := rotateRight (word 1) 7 ^^^ rotateRight (word 1) 18 ^^^ (word 1 >>> 3)
  let late := rotateRight (word 14) 17 ^^^ rotateRight (word 14) 19 ^^^ (word 14 >>> 10)
  word 0 + early + word 9 + late

/-- The words of the rounds, each of which takes one constant. `window` has the next sixteen. -/
def rounds (s : State) (window : List UInt32) : List UInt32 → State
  | [] => s
  | constant :: r =>
    rounds (round s (window.getD 0 0 + constant)) (window.drop 1 ++ [nextWord window]) r

def mixBlock (s : State) (block : List UInt32) : State := s.add (rounds s block roundConstants)

/-- The bytes of a number from the highest one on, `count` of them. -/
def bytesOf : Nat → Nat → List UInt8
  | 0, _ => []
  | count + 1, n => .ofNat (n / 256 ^ count) :: bytesOf count n

/-- Four bytes make a word. -/
def words : List UInt8 → List UInt32
  | a :: b :: c :: d :: r =>
    .ofNat (((a.toNat * 256 + b.toNat) * 256 + c.toNat) * 256 + d.toNat) :: words r
  | _ => []

/-- A bit that is set, zeros up to a full block, and the length in bits at its end. -/
def pad (message : List UInt8) : List UInt8 :=
  message ++ 0x80 :: List.replicate ((119 - message.length % 64) % 64) 0 ++
    bytesOf 8 (8 * message.length)

/-- The words of a padded message, of which `count` blocks are left. -/
def mixBlocks (s : State) : Nat → List UInt32 → State
  | 0, _ => s
  | count + 1, ws => mixBlocks (mixBlock s (ws.take 16)) count (ws.drop 16)

def hash (message : List UInt8) : List UInt8 :=
  let ws := words (pad message)
  (mixBlocks .initial (ws.length / 16) ws).words.flatMap fun w => bytesOf 4 w.toNat

end Sha256

/-- The digest of a text, by which it is known again. -/
def Text.digest (t : Text) : List UInt8 := Sha256.hash (t.flatMap String.utf8EncodeChar)

example : Text.digest "abc".toList =
    [0xba, 0x78, 0x16, 0xbf, 0x8f, 0x01, 0xcf, 0xea, 0x41, 0x41, 0x40, 0xde, 0x5d, 0xae, 0x22, 0x23,
      0xb0, 0x03, 0x61, 0xa3, 0x96, 0x17, 0x7a, 0x9c, 0xb4, 0x10, 0xff, 0x61, 0xf2, 0x00, 0x15,
      0xad] := by
  decide +kernel

end MudClient
