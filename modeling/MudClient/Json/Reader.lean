import MudClient.Json.Basic
/-! Reading JSON. Only what the grammar has is accepted: no comments, no commas at the end of a
list, no zeros in front of a numeral, and nothing but white space after the value. -/
namespace MudClient.Json

namespace Reader

def isSpace (c : Char) : Bool := c == ' ' || c == '\t' || c == '\n' || c == '\r'

def skip (t : Text) : Text := t.dropWhile isSpace

def hexValue? (c : Char) : Option Nat :=
  if c.isDigit then some (c.toNat - 48)
  else if 'a' ≤ c ∧ c ≤ 'f' then some (c.toNat - 87)
  else if 'A' ≤ c ∧ c ≤ 'F' then some (c.toNat - 55)
  else none

/-- One part of a string: a character, or a UTF-16 unit that was written as an escape. -/
inductive Piece where
  | char (c : Char)
  | unit (n : Nat)

/-- What a letter after a backslash stands for. -/
def escaped? (c : Char) : Option Char :=
  if c = '"' ∨ c = '\\' ∨ c = '/' then some c
  else (controlEscapes.find? (·.2 = c)).map (·.1)

/-- The pieces up to the closing quote, and what follows it. -/
def pieces : Text → Option (List Piece × Text)
  | [] => none
  | '"' :: r => some ([], r)
  | '\\' :: 'u' :: a :: b :: c :: d :: r => do
    let n := (← hexValue? a) * 4096 + (← hexValue? b) * 256 + (← hexValue? c) * 16 + (← hexValue? d)
    let (ps, rest) ← pieces r
    return (.unit n :: ps, rest)
  | '\\' :: c :: r => do
    let e ← escaped? c
    let (ps, rest) ← pieces r
    return (.char e :: ps, rest)
  | c :: r =>
    if c.toNat < 0x20 then none
    else do
      let (ps, rest) ← pieces r
      return (.char c :: ps, rest)

def isHigh (n : Nat) : Bool := 0xD800 ≤ n && n < 0xDC00

def isLow (n : Nat) : Bool := 0xDC00 ≤ n && n < 0xE000

/-- Joins surrogate pairs; half a pair has no text. -/
def textOfPieces? : List Piece → Option Text
  | [] => some []
  | .char c :: r => (textOfPieces? r).map (c :: ·)
  | .unit hi :: .unit lo :: r =>
    if isHigh hi && isLow lo then
      (textOfPieces? r).map (Char.ofNat (0x10000 + (hi - 0xD800) * 1024 + (lo - 0xDC00)) :: ·)
    else if isHigh hi || isLow hi then none
    else (textOfPieces? (.unit lo :: r)).map (Char.ofNat hi :: ·)
  | .unit n :: r =>
    if isHigh n || isLow n then none else (textOfPieces? r).map (Char.ofNat n :: ·)

/-- A string, read after its opening quote. -/
def string (t : Text) : Option (Option Text × Text) :=
  (pieces t).map fun (ps, rest) => (textOfPieces? ps, rest)

def digits? (t : Text) : Option (Text × Text) :=
  match t.takeWhile Char.isDigit with
  | [] => none
  | ds => some (ds, t.dropWhile Char.isDigit)

/-- The whole part of a numeral: a zero stands alone. -/
def whole? : Text → Option (Text × Text)
  | '0' :: r => some (['0'], r)
  | t => digits? t

def fraction? : Text → Option (Text × Text)
  | '.' :: r => (digits? r).map fun (ds, rest) => ('.' :: ds, rest)
  | t => some ([], t)

def exponentDigits? : Text → Option (Text × Text)
  | '+' :: r => (digits? r).map fun (ds, rest) => ('+' :: ds, rest)
  | '-' :: r => (digits? r).map fun (ds, rest) => ('-' :: ds, rest)
  | t => digits? t

def exponent? : Text → Option (Text × Text)
  | c :: r =>
    if c = 'e' ∨ c = 'E' then (exponentDigits? r).map fun (ds, rest) => (c :: ds, rest)
    else some ([], c :: r)
  | [] => some ([], [])

/-- The sign of a numeral, which may be missing, and what follows it. -/
def sign : Text → Text × Text
  | '-' :: r => (['-'], r)
  | t => ([], t)

def numeral? (t : Text) : Option (Text × Text) := do
  let (sign, t) := sign t
  let (ds, t) ← whole? t
  let (frac, t) ← fraction? t
  let (exp, t) ← exponent? t
  return (sign ++ ds ++ frac ++ exp, t)

mutual

/-- A value and what follows it. `fuel` bounds the steps of the reader; each takes a character. -/
def value (fuel : Nat) (t : Text) : Option (Json × Text) :=
  match fuel with
  | 0 => none
  | fuel + 1 =>
    match skip t with
    | '"' :: r => (string r).map fun (s, rest) => (.string s, rest)
    | '[' :: r =>
      match skip r with
      | ']' :: rest => some (.array [], rest)
      | r => (items fuel r).map fun (js, rest) => (.array js, rest)
    | '\x7b' :: r =>
      match skip r with
      | '\x7d' :: rest => some (.object [], rest)
      | r => (members fuel r).map fun (ms, rest) => (.object ms, rest)
    | 'n' :: 'u' :: 'l' :: 'l' :: r => some (.null, r)
    | 't' :: 'r' :: 'u' :: 'e' :: r => some (.bool true, r)
    | 'f' :: 'a' :: 'l' :: 's' :: 'e' :: r => some (.bool false, r)
    | r => (numeral? r).map fun (n, rest) => (.number n, rest)
termination_by structural fuel

/-- The items of a list that is not empty, up to its closing bracket. -/
def items (fuel : Nat) (t : Text) : Option (List Json × Text) :=
  match fuel with
  | 0 => none
  | fuel + 1 => do
    let (j, rest) ← value fuel t
    match skip rest with
    | ',' :: r => (items fuel r).map fun (js, rest) => (j :: js, rest)
    | ']' :: r => some ([j], r)
    | _ => none
termination_by structural fuel

/-- The members of an object that is not empty, up to its closing brace. -/
def members (fuel : Nat) (t : Text) : Option (List (Option Text × Json) × Text) :=
  match fuel with
  | 0 => none
  | fuel + 1 =>
    match skip t with
    | '"' :: r => do
      let (name, rest) ← string r
      match skip rest with
      | ':' :: r =>
        let (j, rest) ← value fuel r
        match skip rest with
        | ',' :: r => (members fuel r).map fun (ms, rest) => ((name, j) :: ms, rest)
        | '\x7d' :: r => some ([(name, j)], r)
        | _ => none
      | _ => none
    | _ => none
termination_by structural fuel

end

end Reader

def read? (t : Text) : Option Json := do
  let (j, rest) ← Reader.value (2 * t.length + 1) t
  if (Reader.skip rest).isEmpty then some j else none

end MudClient.Json
