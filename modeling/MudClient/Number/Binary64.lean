import MudClient.Number.Decimal
import MudClient.Number.Rounding
/-! The nonnegative finite numbers of the binary64 format, exactly: a mantissa of at most 53 bits
times a power of two. -/
namespace MudClient.Number

/-- The number `mantissa · 2 ^ exponent`. -/
structure Binary64 where
  mantissa : Nat
  exponent : Int
  deriving DecidableEq, Repr

namespace Binary64

/-- The least exponent that a number of this format has. -/
def minExponent : Int := -1074

/-- The leading bit of a mantissa; only the numbers nearest to zero lack it. -/
def leading : Nat := Nat.pow 2 52

def zero : Binary64 := ⟨0, minExponent⟩

instance : Inhabited Binary64 := ⟨zero⟩

/-- The exact value as numerator and denominator. -/
def ratio (x : Binary64) : Nat × Nat :=
  let (n, d) := scale 2 x.exponent
  (x.mantissa * n, d)

/-- Brings a rounded mantissa back under 54 bits; `none` is past the largest number. -/
def normalize? (mantissa : Nat) (exponent : Int) : Option Binary64 :=
  let x : Binary64 :=
    if mantissa = 2 * leading then ⟨leading, exponent + 1⟩ else ⟨mantissa, exponent⟩
  if 971 < x.exponent then none else some x

/-- The number nearest to `num / den`; a tie goes to the even mantissa. -/
def ofRatio? (num den : Nat) : Option Binary64 :=
  if num = 0 then some zero
  else
    -- the quotient has 53 or 54 bits above this exponent, before the second look
    let guess : Int := num.log2 - den.log2 - 53
    let (up, down) := scale 2 (-guess)
    let wide := num * up / (den * down)
    let exponent := max minExponent (if wide < 2 * leading then guess else guess + 1)
    let (up, down) := scale 2 (-exponent)
    normalize? (roundDiv (num * up) (den * down)) exponent

/-- The number nearest to a decimal; `none` is past the largest number. -/
def ofDecimal? (d : Decimal) : Option Binary64 :=
  let size := digitCount d.digits + d.exponent
  if d.digits = 0 then some zero
  else if 400 < size then none
  else if size < -400 then some zero
  else
    let (up, down) := scale 10 d.exponent
    ofRatio? (d.digits * up) down

def le (x y : Binary64) : Bool :=
  let (a, b) := x.ratio
  let (c, d) := y.ratio
  a * d ≤ c * b

theorem le_refl (x : Binary64) : x.le x := decide_eq_true (Nat.le_refl _)

theorem le_of_not_le {x y : Binary64} (h : ¬ x.le y) : y.le x := by
  simp only [le, decide_eq_true_eq] at h ⊢
  exact Nat.le_of_not_le h

/-- The encoding of the format, in which the sign bit is clear. -/
def bits (x : Binary64) : Nat :=
  if x.mantissa < leading then x.mantissa
  else (x.exponent + 1075).toNat * leading + (x.mantissa - leading)

/-- Reads exponent and fraction of an encoding; the caller has seen that they are finite. -/
def ofBits (bits : Nat) : Binary64 :=
  let exponent : Nat := bits / leading % Nat.pow 2 11
  let fraction := bits % leading
  if exponent = 0 then ⟨fraction, minExponent⟩
  else ⟨leading + fraction, (exponent : Int) - 1075⟩

end Binary64
end MudClient.Number
