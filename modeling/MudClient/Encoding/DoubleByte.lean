import MudClient.Encoding.Index.Big5
import MudClient.Encoding.Index.EucKr
import MudClient.Encoding.Index.Gb18030
import MudClient.Encoding.Index.Jis0208
import MudClient.Encoding.Index.Jis0212
import MudClient.Encoding.Reading
/-! The encodings of the ideographs. A first byte tells that others follow, and together they give
the number of a character. If there is no such character, a second byte of ASCII is read again. -/
namespace MudClient.Encoding

def within (lo hi b : UInt8) : Bool := lo ≤ b && b ≤ hi

/-- The character of two bytes, of which `b` is the second. -/
def ofPair (b : UInt8) : Option Char → Reading
  | some c => .text [c]
  | none => if b < 0x80 then .bad 0 else .bad 1

/-- A byte of ASCII is its character; another one starts a character or is none. -/
def single (starts : Bool) (b : UInt8) : Reading :=
  if b < 0x80 then .char b.toNat else if starts then .more else .bad 0

def writeAscii (c : Char) (other : Char → Option Bytes) : Option Bytes :=
  if c.toNat < 0x80 then some [c.toNat.toUInt8] else other c

def isHalfKatakana (c : Char) : Bool := 0xFF61 ≤ c.toNat && c.toNat ≤ 0xFF9F

/-- A minus sign is written as the one that Japanese encodings have. -/
def japaneseMinus (c : Char) : Char := if c = '\u2212' then '\uff0d' else c

namespace Big5

def number? (a b : UInt8) : Option Nat :=
  if within 0x40 0x7E b then some ((a.toNat - 0x81) * 157 + (b.toNat - 0x40))
  else if within 0xA1 0xFE b then some ((a.toNat - 0x81) * 157 + (b.toNat - 0x62))
  else none

/-- Numbers that stand for a letter and a mark above it. -/
def pairs : List (Nat × Text) :=
  [(1133, ['Ê', '\u0304']), (1135, ['Ê', '\u030c']), (1164, ['ê', '\u0304']),
    (1166, ['ê', '\u030c'])]

def read : Bytes → Reading
  | [a] => single (within 0x81 0xFE a) a
  | [a, b] =>
    match (number? a b).bind (pairs.lookup ·) with
    | some t => .text t
    | none => ofPair b ((number? a b).bind Index.big5.char?)
  | _ => .bad 0

/-- The extensions before this number are read but not written. -/
def firstWritten : Nat := 5024

/-- Characters of which the last number is written, and not the first. -/
def writtenLast : List Char := ['═', '╞', '╡', '╪', '十', '卅']

def written : Index :=
  ⟨Index.big5.chars.mapIdx fun i c => if i < firstWritten then Index.hole else c⟩

/-- The greatest number of a character. -/
def lastNumber? (c : Char) : Option Nat :=
  (Index.big5.chars.reverse.idxOf? c).map fun i => Index.big5.chars.size - 1 - i

def write (c : Char) : Option Bytes := writeAscii c fun c => do
  let n ← if writtenLast.contains c then lastNumber? c else written.number? c
  let b := n % 157
  return [(n / 157 + 0x81).toUInt8, (if b < 0x3F then b + 0x40 else b + 0x62).toUInt8]

end Big5

namespace EucKr

def read : Bytes → Reading
  | [a] => single (within 0x81 0xFE a) a
  | [a, b] =>
    ofPair b (if within 0x41 0xFE b then
      Index.eucKr.char? ((a.toNat - 0x81) * 190 + (b.toNat - 0x41)) else none)
  | _ => .bad 0

def write (c : Char) : Option Bytes := writeAscii c fun c => do
  let n ← Index.eucKr.number? c
  return [(n / 190 + 0x81).toUInt8, (n % 190 + 0x41).toUInt8]

end EucKr

namespace ShiftJis

def number? (a b : UInt8) : Option Nat :=
  if within 0x40 0x7E b || within 0x80 0xFC b then
    let row := if a < 0xA0 then a.toNat - 0x81 else a.toNat - 0xC1
    some (row * 188 + (if b < 0x7F then b.toNat - 0x40 else b.toNat - 0x41))
  else none

/-- The first and the last number for private use. -/
def privateUse : Nat × Nat := (8836, 10715)

def char? (n : Nat) : Option Char :=
  if privateUse.1 ≤ n ∧ n ≤ privateUse.2 then some (Char.ofNat (0xE000 + (n - privateUse.1)))
  else Index.jis0208.char? n

def read : Bytes → Reading
  | [a] =>
    if a ≤ 0x80 then .char a.toNat
    else if within 0xA1 0xDF a then .char (0xFF61 - 0xA1 + a.toNat)
    else if within 0x81 0x9F a || within 0xE0 0xFC a then .more
    else .bad 0
  | [a, b] => ofPair b ((number? a b).bind char?)
  | _ => .bad 0

/-- The characters that occur twice are written with their later numbers. -/
def written : Index :=
  ⟨Index.jis0208.chars.mapIdx fun i c => if 8272 ≤ i ∧ i ≤ 8835 then Index.hole else c⟩

def write (c : Char) : Option Bytes :=
  if c.toNat ≤ 0x80 then some [c.toNat.toUInt8]
  else if c = '¥' then some [0x5C]
  else if c = '‾' then some [0x7E]
  else if isHalfKatakana c then some [(c.toNat - 0xFF61 + 0xA1).toUInt8]
  else do
    let n ← written.number? (japaneseMinus c)
    let row := n / 188
    let b := n % 188
    return [(if row < 0x1F then row + 0x81 else row + 0xC1).toUInt8,
      (if b < 0x3F then b + 0x40 else b + 0x41).toUInt8]

end ShiftJis

namespace EucJp

/-- The character of an index at two bytes. -/
def char? (index : Index) (a b : UInt8) : Option Char :=
  if within 0xA1 0xFE a && within 0xA1 0xFE b then
    index.char? ((a.toNat - 0xA1) * 94 + (b.toNat - 0xA1))
  else none

def read : Bytes → Reading
  | [a] => single (a == 0x8E || a == 0x8F || within 0xA1 0xFE a) a
  | [a, b] =>
    if a == 0x8E && within 0xA1 0xDF b then .char (0xFF61 - 0xA1 + b.toNat)
    else if a == 0x8F && within 0xA1 0xFE b then .more
    else ofPair b (char? Index.jis0208 a b)
  | [_, b, c] =>
    match char? Index.jis0212 b c with
    | some d => .text [d]
    | none => if c < 0x80 then .bad 1 else .bad 2
  | _ => .bad 0

def write (c : Char) : Option Bytes := writeAscii c fun c =>
  if c = '¥' then some [0x5C]
  else if c = '‾' then some [0x7E]
  else if isHalfKatakana c then some [0x8E, (c.toNat - 0xFF61 + 0xA1).toUInt8]
  else do
    let n ← Index.jis0208.number? (japaneseMinus c)
    -- the numbers of the table go past what two bytes can have
    if n < 94 * 94 then some [(n / 94 + 0xA1).toUInt8, (n % 94 + 0xA1).toUInt8] else none

end EucJp

namespace Gb18030

def number? (a b : UInt8) : Option Nat :=
  if within 0x40 0x7E b then some ((a.toNat - 0x81) * 190 + (b.toNat - 0x40))
  else if within 0x80 0xFE b then some ((a.toNat - 0x81) * 190 + (b.toNat - 0x41))
  else none

/-- A run of characters from `image` on for the numbers from `first` on. -/
structure Run where
  first : Nat
  count : Nat
  image : Nat

def privateRuns : List Run := Index.gbPrivate.filterMap fun
  | [first, count, image] => some ⟨first, count, image⟩
  | _ => none

/-- Runs of numbers and of the code points of the characters of four bytes, in increasing order. -/
def fourByteRuns : List (Nat × Nat) := Index.gbRanges.filterMap fun
  | [number, code] => some (number, code)
  | _ => none

def char? (n : Nat) : Option Char :=
  Index.gb.char? n <|>
    (privateRuns.find? fun r => r.first ≤ n && n < r.first + r.count).map fun r =>
      Char.ofNat (r.image + (n - r.first))

def charNumber? (c : Char) : Option Nat :=
  Index.gb.number? c <|>
    (privateRuns.find? fun r => r.image ≤ c.toNat && c.toNat < r.image + r.count).map fun r =>
      r.first + (c.toNat - r.image)

/-- The number of the one private character that has four bytes, and its code point. -/
def lonePrivate : Nat × Nat := (7457, 0xE7C7)

/-- The number of the last four-byte character in the basic plane. -/
def lastBasic : Nat := 39419

/-- The number of the first character past the basic plane. -/
def firstSupplementary : Nat := 189000

/-- The code point of a character of four bytes. -/
def fourByteCode? (n : Nat) : Option Nat :=
  if n = lonePrivate.1 then some lonePrivate.2
  else if firstSupplementary ≤ n then
    if n < firstSupplementary + 0x100000 then some (0x10000 + (n - firstSupplementary)) else none
  else if lastBasic < n then none
  else (fourByteRuns.reverse.find? fun run => run.1 ≤ n).map fun run => run.2 + (n - run.1)

def fourByteNumber (code : Nat) : Nat :=
  if code = lonePrivate.2 then lonePrivate.1
  else if 0x10000 ≤ code then firstSupplementary + (code - 0x10000)
  else
    match fourByteRuns.reverse.find? fun run => run.2 ≤ code with
    | some run => run.1 + (code - run.2)
    | none => 0

def fourNumber (a b c d : UInt8) : Nat :=
  (((a.toNat - 0x81) * 10 + (b.toNat - 0x30)) * 126 + (c.toNat - 0x81)) * 10 + (d.toNat - 0x30)

def fourBytes (n : Nat) : Bytes :=
  [(n / 12600 + 0x81).toUInt8, (n / 1260 % 10 + 0x30).toUInt8, (n / 10 % 126 + 0x81).toUInt8,
    (n % 10 + 0x30).toUInt8]

def isDigit (b : UInt8) : Bool := within 0x30 0x39 b

def read : Bytes → Reading
  | [a] => if a == 0x80 then .text ['€'] else single (within 0x81 0xFE a) a
  | [a, b] => if isDigit b then .more else ofPair b ((number? a b).bind char?)
  | [_, _, c] => if within 0x81 0xFE c then .more else .bad 0
  | [a, b, c, d] =>
    if !isDigit d then .bad 0
    else
      match fourByteCode? (fourNumber a b c d) with
      | some code => .char code
      | none => .bad 3
  | _ => .bad 0

/-- Private characters that had two bytes before the standard gave those bytes to others. -/
def formerPrivate : List (Nat × Bytes) :=
  [(0xE81E, [0xFE, 0x59]), (0xE826, [0xFE, 0x61]), (0xE82B, [0xFE, 0x66]), (0xE82C, [0xFE, 0x67]),
    (0xE832, [0xFE, 0x6D]), (0xE843, [0xFE, 0x7E]), (0xE854, [0xFE, 0x90]), (0xE864, [0xFE, 0xA0]),
    (0xE78D, [0xA6, 0xD9]), (0xE78E, [0xA6, 0xDA]), (0xE78F, [0xA6, 0xDB]), (0xE790, [0xA6, 0xDC]),
    (0xE791, [0xA6, 0xDD]), (0xE792, [0xA6, 0xDE]), (0xE793, [0xA6, 0xDF]), (0xE794, [0xA6, 0xEC]),
    (0xE795, [0xA6, 0xED]), (0xE796, [0xA6, 0xF3])]

/-- Writes two bytes, or four where the encoding has them. -/
def write (hasFour : Bool) (c : Char) : Option Bytes := writeAscii c fun c =>
  if c.toNat = 0xE5E5 then none
  else if !hasFour && c = '€' then some [0x80]
  else
    match formerPrivate.lookup c.toNat, charNumber? c with
    | some bytes, _ => some bytes
    | none, some n =>
      let b := n % 190
      some [(n / 190 + 0x81).toUInt8, (if b < 0x3F then b + 0x40 else b + 0x41).toUInt8]
    | none, none => if hasFour then some (fourBytes (fourByteNumber c.toNat)) else none

end Gb18030
end MudClient.Encoding
