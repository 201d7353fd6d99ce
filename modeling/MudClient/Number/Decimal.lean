import MudClient.Text
/-! Decimal numerals: digits with at most one point and at most one exponent. -/
namespace MudClient.Number

/-- The number `digits · 10 ^ exponent`. -/
structure Decimal where
  digits : Nat
  exponent : Int
  deriving DecidableEq, Repr

def digitValue (c : Char) : Nat := c.toNat - 48

def natOfDigits (ds : Text) : Nat := ds.foldl (fun n c => n * 10 + digitValue c) 0

/-- A sign in front of a numeral: is it a minus, and the rest. -/
def takeSign : Text → Bool × Text
  | '-' :: r => (true, r)
  | '+' :: r => (false, r)
  | t => (false, t)

/-- A signed run of digits with nothing after it. -/
def integer? (t : Text) : Option Int :=
  let (negative, ds) := takeSign t
  if ds.isEmpty || !ds.all Char.isDigit then none
  else some (if negative then -(natOfDigits ds) else natOfDigits ds)

/-- The exponent after a numeral: none is zero. -/
def exponent? : Text → Option Int
  | [] => some 0
  | c :: r => if c = 'e' || c = 'E' then integer? r else none

/-- A numeral without sign. There is a digit before the point or after it. -/
def Decimal.ofText? (t : Text) : Option Decimal :=
  let whole := t.takeWhile Char.isDigit
  let rest := t.dropWhile Char.isDigit
  let (fraction, rest) := match rest with
    | '.' :: r => (r.takeWhile Char.isDigit, r.dropWhile Char.isDigit)
    | _ => ([], rest)
  if whole.isEmpty && fraction.isEmpty then none
  else (exponent? rest).map fun e => ⟨natOfDigits (whole ++ fraction), e - fraction.length⟩

def digitCount (n : Nat) : Nat := (Nat.toDigits 10 n).length

end MudClient.Number
