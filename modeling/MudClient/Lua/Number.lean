import MudClient.Number.Binary64
/-! Numbers of the language: 64-bit integers that wrap, and binary64 floats, with the numerals that
are read as either and the text that either is written as. -/
namespace MudClient.Lua

inductive Num where
  | int (i : Int64)
  | float (f : Float)
  deriving DecidableEq

namespace Num

/-! ### Between integers and floats -/

/-- The sign bit and the magnitude of a finite float. -/
def magnitude (f : Float) : Bool × Number.Binary64 :=
  let bits := f.toBits.toNat
  (Nat.pow 2 63 ≤ bits, .ofBits (bits % Nat.pow 2 63))

def ofMagnitude (negative : Bool) (x : Number.Binary64) : Float :=
  Float.ofBits (UInt64.ofNat (x.bits + if negative then Nat.pow 2 63 else 0))

/-- The float nearest to a fraction, and infinity past the largest. -/
def floatOfRatio (num den : Nat) : Float :=
  match Number.Binary64.ofRatio? num den with
  | some x => ofMagnitude false x
  | none => 1.0 / 0.0

/-- The largest whole number that is not above a finite float. -/
def floorInt (f : Float) : Int :=
  let (negative, x) := magnitude f
  let (n, d) := x.ratio
  Int.fdiv (if negative then -(n : Int) else n) d

def exactInt? (f : Float) : Option Int64 :=
  if f.isFinite && f.floor == f then
    let n := floorInt f
    if Int64.minValue.toInt ≤ n ∧ n ≤ Int64.maxValue.toInt then some (Int64.ofInt n) else none
  else none

def toFloat : Num → Float
  | int i => i.toFloat
  | float f => f

/-- An integer, or a float that has the value of one. -/
def toInt? : Num → Option Int64
  | int i => some i
  | float f => exactInt? f

/-! ### Comparison, of the exact values -/

def ltIntFloat (i : Int64) (f : Float) : Bool :=
  if f.isNaN then false
  else if !f.isFinite then f > 0
  else i.toInt < -(floorInt (-f))

def leIntFloat (i : Int64) (f : Float) : Bool :=
  if f.isNaN then false
  else if !f.isFinite then f > 0
  else i.toInt ≤ floorInt f

def ltFloatInt (f : Float) (i : Int64) : Bool := !f.isNaN && !leIntFloat i f

def leFloatInt (f : Float) (i : Int64) : Bool := !f.isNaN && !ltIntFloat i f

def lt : Num → Num → Bool
  | int a, int b => a < b
  | float a, float b => a < b
  | int a, float b => ltIntFloat a b
  | float a, int b => ltFloatInt a b

def le : Num → Num → Bool
  | int a, int b => a ≤ b
  | float a, float b => a ≤ b
  | int a, float b => leIntFloat a b
  | float a, int b => leFloatInt a b

def eq : Num → Num → Bool
  | int a, int b => a == b
  | float a, float b => a == b
  | int a, float b | float b, int a => (exactInt? b).any (· == a)

/-! ### Arithmetic -/

def arith (ints : Int64 → Int64 → Int64) (floats : Float → Float → Float) : Num → Num → Num
  | int a, int b => int (ints a b)
  | a, b => float (floats a.toFloat b.toFloat)

def add : Num → Num → Num := arith (· + ·) (· + ·)
def sub : Num → Num → Num := arith (· - ·) (· - ·)
def mul : Num → Num → Num := arith (· * ·) (· * ·)
def div (a b : Num) : Num := float (a.toFloat / b.toFloat)
def pow (a b : Num) : Num := float (a.toFloat ^ b.toFloat)

def neg : Num → Num
  | int a => int (-a)
  | float a => float (-a)

/-- Division toward the floor; integers cannot be divided by zero. -/
def idiv? : Num → Num → Option Num
  | int a, int b => if b == 0 then none else some (int (Int64.ofInt (Int.fdiv a.toInt b.toInt)))
  | a, b => some (float (a.toFloat / b.toFloat).floor)

/-- The remainder toward zero, exactly. -/
def remFloat (a b : Float) : Float :=
  if !a.isFinite || b.isNaN || b == 0 then 0.0 / 0.0
  else if !b.isFinite then a
  else
    let (negative, x) := magnitude a
    let (_, y) := magnitude b
    let (n, d) := x.ratio
    let (m, e) := y.ratio
    let r := floatOfRatio (n * e % (m * d)) (d * e)
    if negative then -r else r

def modFloat (a b : Float) : Float :=
  let r := remFloat a b
  if r * b < 0 then r + b else r

/-- The remainder that has the sign of the divisor. -/
def mod? : Num → Num → Option Num
  | int a, int b => if b == 0 then none else some (int (Int64.ofInt (Int.fmod a.toInt b.toInt)))
  | a, b => some (float (modFloat a.toFloat b.toFloat))

/-- A shift to the left, and to the right by a negative distance; zeros come in. -/
def shiftLeft (a : Int64) (distance : Int) : Int64 :=
  let n := a.toUInt64.toNat
  if distance ≥ 64 ∨ distance ≤ -64 then 0
  else if distance ≥ 0 then Int64.ofInt (n * Nat.pow 2 distance.toNat : Nat)
  else Int64.ofInt (n / Nat.pow 2 (-distance).toNat : Nat)

/-! ### Numerals -/

def isSpace (c : Char) : Bool := c == ' ' || (9 ≤ c.toNat && c.toNat ≤ 13)

def isHexDigit (c : Char) : Bool :=
  c.isDigit || ('a' ≤ c && c ≤ 'f') || ('A' ≤ c && c ≤ 'F')

def hexDigitValue (c : Char) : Nat :=
  if c.isDigit then c.toNat - 48 else if c.isLower then c.toNat - 87 else c.toNat - 55

def hexValue (ds : List Char) : Nat := ds.foldl (fun n c => n * 16 + hexDigitValue c) 0

/-- The binary exponent of a hexadecimal numeral: none is zero. -/
def binaryExponent? : List Char → Option Int
  | [] => some 0
  | c :: r => if c == 'p' || c == 'P' then Number.integer? r else none

def floatOfHex (digits : Nat) (exponent : Int) : Float :=
  if digits = 0 then 0
  else
    let size := (digits.log2 : Int) + exponent
    if 1100 < size then 1.0 / 0.0
    else if size < -1200 then 0
    else
      let (up, down) := Number.scale 2 exponent
      floatOfRatio (digits * up) down

/-- After `0x`. A numeral without point and exponent is an integer, of its lowest 64 bits. -/
def ofHex? (t : List Char) : Option Num :=
  let whole := t.takeWhile isHexDigit
  let rest := t.dropWhile isHexDigit
  match rest with
  | [] => if whole.isEmpty then none else some (int (Int64.ofInt (hexValue whole)))
  | _ =>
    let (fraction, rest) := match rest with
      | '.' :: r => (r.takeWhile isHexDigit, r.dropWhile isHexDigit)
      | _ => ([], rest)
    if whole.isEmpty && fraction.isEmpty then none
    else (binaryExponent? rest).map fun e =>
      float (floatOfHex (hexValue (whole ++ fraction)) (e - 4 * fraction.length))

/-- A decimal numeral. One that is no integer of 64 bits is a float. -/
def ofDecimal? (t : List Char) : Option Num :=
  if !t.isEmpty && t.all Char.isDigit && Number.natOfDigits t < Nat.pow 2 63 then
    some (int (Int64.ofInt (Number.natOfDigits t)))
  else (Number.Decimal.ofText? t).map fun d =>
    match Number.Binary64.ofDecimal? d with
    | some x => float (ofMagnitude false x)
    | none => float (1.0 / 0.0)

def ofUnsigned? : List Char → Option Num
  | '0' :: 'x' :: r | '0' :: 'X' :: r => ofHex? r
  | t => ofDecimal? t

/-- The least integer has a numeral of its own, whose digits alone are too large. -/
def negateNumeral (t : List Char) (n : Num) : Num :=
  if t.all Char.isDigit && Number.natOfDigits t = Nat.pow 2 63 then int Int64.minValue
  else n.neg

/-- The number that a text stands for, with white space around it. -/
def ofText? (t : List Char) : Option Num :=
  let t := ((t.dropWhile isSpace).reverse.dropWhile isSpace).reverse
  let (negative, t) := Number.takeSign t
  (ofUnsigned? t).map fun n => if negative then negateNumeral t n else n

/-! ### Written form -/

/-- The significant digits of a float's text. -/
def precision : Nat := 14

/-- Rounds `num / den` to `precision` digits: the digits, and the exponent of the first one. `guess`
is that exponent, or the one below it. -/
def significant (num den : Nat) (guess : Int) : Nat × Int :=
  let digitsAt (e : Int) : Nat :=
    let (up, down) := Number.scale 10 (precision - 1 - e)
    Number.roundDiv (num * up) (den * down)
  let below := digitsAt guess
  if below < Nat.pow 10 precision then (below, guess) else (digitsAt (guess + 1), guess + 1)

/-- The exponent of the first decimal digit of a fraction, exactly. -/
def leadingExponent (num den : Nat) : Int :=
  if den ≤ num then (Number.digitCount (num / den) : Int) - 1
  else
    -- the first power of ten that brings the fraction to one or above
    let guess := Number.digitCount (den / num)
    if den ≤ num * Nat.pow 10 (guess - 1) then -((guess : Int) - 1) else -(guess : Int)

def dropZeros (ds : List Char) : List Char := (ds.reverse.dropWhile (· == '0')).reverse

/-- Digits with a point after the first `whole` of them, unless nothing but zeros follows. -/
def pointed (whole : Nat) (ds : List Char) : List Char :=
  match dropZeros (ds.drop whole) with
  | [] => ds.take whole
  | fraction => ds.take whole ++ '.' :: fraction

def exponentText (e : Int) : List Char :=
  let ds := Nat.toDigits 10 e.natAbs
  'e' :: (if e < 0 then '-' else '+') :: (if ds.length < 2 then '0' :: ds else ds)

/-- The text of a positive fraction: positional from 10 ^ -4 up to 10 ^ 14, else with an
exponent. -/
def fractionText (num den : Nat) : List Char :=
  let (digits, e) := significant num den (leadingExponent num den)
  let ds := Nat.toDigits 10 digits
  if e < -4 ∨ (precision : Int) ≤ e then pointed 1 ds ++ exponentText e
  else if e < 0 then pointed 1 (List.replicate e.natAbs '0' ++ ds)
  else pointed (e.toNat + 1) ds

/-- A float's text has a point, an exponent, or letters, so that it reads as a float. -/
def floatText (f : Float) : List Char :=
  if f.isNaN then "-nan".toList
  else
    let (negative, x) := magnitude f
    let text :=
      if !f.isFinite then "inf".toList
      else if x.mantissa = 0 then "0.0".toList
      else
        let (n, d) := x.ratio
        let t := fractionText n d
        if t.all Char.isDigit then t ++ ['.', '0'] else t
    if negative then '-' :: text else text

def intText (i : Int64) : List Char :=
  let n := i.toInt
  if n < 0 then '-' :: Nat.toDigits 10 n.natAbs else Nat.toDigits 10 n.natAbs

def text : Num → List Char
  | int i => intText i
  | float f => floatText f

end Num
end MudClient.Lua
