import MudClient.Encoding.Reading
/-! The encodings of Unicode. Bytes that are no character are replaced as far as they could have
started one. -/
namespace MudClient.Encoding

namespace Utf8

def isNext (b : UInt8) : Bool := 0x80 ≤ b && b ≤ 0xBF

/-- May `b` follow the first byte `a`? Long forms, surrogates and numbers past the last character
are ruled out here. -/
def isSecond (a b : UInt8) : Bool :=
  isNext b &&
    (if a == 0xE0 then 0xA0 ≤ b else if a == 0xED then b ≤ 0x9F
    else if a == 0xF0 then 0x90 ≤ b else if a == 0xF4 then b ≤ 0x8F else true)

/-- The six bits of a byte that follows the first one. -/
def low (b : UInt8) : Nat := b.toNat % 64

def read : Bytes → Reading
  | [a] =>
    if a < 0x80 then .char a.toNat else if 0xC2 ≤ a && a ≤ 0xF4 then .more else .bad 0
  | [a, b] =>
    if !isSecond a b then .bad 0
    else if a < 0xE0 then .char (a.toNat % 32 * 64 + low b) else .more
  | [a, b, c] =>
    if !isNext c then .bad 1
    else if a < 0xF0 then .char (a.toNat % 16 * 4096 + low b * 64 + low c) else .more
  | [a, b, c, d] =>
    if !isNext d then .bad 2
    else .char (a.toNat % 8 * 262144 + low b * 4096 + low c * 64 + low d)
  | _ => .bad 0

def write (t : Text) : Bytes := (String.ofList t).toUTF8.toList

/-- The text of bytes, if all of them are characters. -/
def decode? (bytes : Bytes) : Option Text := (String.fromUTF8? ⟨bytes.toArray⟩).map (·.toList)

end Utf8

namespace Utf16

def isHigh (unit : Nat) : Bool := 0xD800 ≤ unit && unit < 0xDC00

def isLow (unit : Nat) : Bool := 0xDC00 ≤ unit && unit < 0xE000

def unit (bigEndian : Bool) (a b : UInt8) : Nat :=
  if bigEndian then a.toNat * 256 + b.toNat else b.toNat * 256 + a.toNat

def read (bigEndian : Bool) : Bytes → Reading
  | [a, b] =>
    let u := unit bigEndian a b
    if isHigh u then .more else if isLow u then .bad 1 else .char u
  | [a, b, c, d] =>
    let lo := unit bigEndian c d
    if isLow lo then .char (0x10000 + (unit bigEndian a b - 0xD800) * 1024 + (lo - 0xDC00))
    else .bad 1
  | _ => .more

end Utf16
end MudClient.Encoding
