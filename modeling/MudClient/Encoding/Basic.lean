import MudClient.Encoding.Index.CodePage
import MudClient.Encoding.Iso2022Jp
import MudClient.Encoding.Label
import MudClient.Encoding.Unicode
/-! Character encodings: how a stream of bytes is read as text, and text is written as bytes. -/
namespace MudClient

inductive Encoding where
  | utf8
  | utf16 (bigEndian : Bool)
  /-- One byte for each character, as the table of this name has it. -/
  | codePage (name : String) (index : Encoding.Index)
  | big5 | eucKr | shiftJis | eucJp | iso2022Jp
  /-- `hasFour` is for characters of four bytes. -/
  | gb18030 (hasFour : Bool)
  /-- Bytes past ASCII are characters for private use. -/
  | userDefined
  /-- Never read: the whole stream is replaced by one character. -/
  | replacement

namespace Encoding

def name : Encoding → String
  | utf8 => "UTF-8"
  | utf16 bigEndian => if bigEndian then "UTF-16BE" else "UTF-16LE"
  | codePage name _ => name
  | big5 => "Big5"
  | eucKr => "EUC-KR"
  | shiftJis => "Shift_JIS"
  | eucJp => "EUC-JP"
  | iso2022Jp => "ISO-2022-JP"
  | gb18030 hasFour => if hasFour then "gb18030" else "GBK"
  | userDefined => "x-user-defined"
  | replacement => "replacement"

/-- Visual and logical order of Hebrew have one table. -/
def tableName (name : String) : String := if name = "ISO-8859-8-I" then "ISO-8859-8" else name

def ofName? (name : String) : Option Encoding :=
  let others := [utf8, utf16 true, utf16 false, big5, eucKr, shiftJis, eucJp, iso2022Jp,
    gb18030 true, gb18030 false, userDefined, replacement]
  others.find? (·.name = name) <|>
    (Index.codePages.lookup (tableName name)).map fun table => codePage name (.ofTable table)

def ofLabel? (label : Text) : Option Encoding := (Label.name? label).bind ofName?

/-- Bytes of which the first control characters past ASCII are. -/
def firstPrintable : Nat := 0xA0

def readCodePage (index : Index) : Bytes → Reading
  | [b] =>
    if b < 0x80 then .char b.toNat
    else
      match index.char? b.toNat with
      | some c => .text [c]
      | none => if b.toNat < firstPrintable then .char b.toNat else .bad 0
  | _ => .bad 0

def readUserDefined : Bytes → Reading
  | [b] => if b < 0x80 then .char b.toNat else .char (0xF700 + b.toNat)
  | _ => .bad 0

/-- What a decoder keeps between two reads. -/
inductive DecoderState where
  | bytes (kept : Bytes)
  | escapes (state : Iso2022Jp.State)
  /-- The one character that replaces a stream was given. -/
  | replaced
  deriving DecidableEq, Repr

def initialState : Encoding → DecoderState
  | iso2022Jp => .escapes .initial
  | _ => .bytes []

/-- What the bytes of a character stand for in the encodings that need no more than them. -/
def reading : Encoding → Bytes → Reading
  | utf8 => Utf8.read
  | utf16 bigEndian => Utf16.read bigEndian
  | codePage _ index => readCodePage index
  | big5 => Big5.read
  | eucKr => EucKr.read
  | shiftJis => ShiftJis.read
  | eucJp => EucJp.read
  | gb18030 _ => Gb18030.read
  | userDefined => readUserDefined
  | iso2022Jp | replacement => fun _ => .more

/-- Reads bytes: their text, and what is kept of them. -/
def decode (e : Encoding) : DecoderState → Bytes → Text × DecoderState
  | .bytes kept, bytes =>
    match e, bytes with
    | replacement, [] => ([], .bytes kept)
    | replacement, _ :: _ => ([replacementChar], .replaced)
    | e, bytes =>
      let (t, kept) := Reading.run e.reading kept bytes
      (t, .bytes kept)
  | .escapes s, bytes =>
    let (t, s) := bytes.foldl (fun (t, s) b =>
      let (u, s) := Iso2022Jp.step s b
      (t ++ u, s)) (([] : Text), s)
    (t, .escapes s)
  | .replaced, _ => ([], .replaced)

/-- A character that has no bytes is written by its number. -/
def reference (c : Char) : Bytes := Utf8.write ("&#".toList ++ Text.ofNat c.toNat ++ [';'])

def writeChar (e : Encoding) (c : Char) : Option Bytes :=
  match e with
  | utf8 | utf16 _ | replacement | iso2022Jp => some (Utf8.write [c])
  | codePage _ index =>
    if c.toNat < 0x80 then some [c.toNat.toUInt8]
    else
      match index.number? c with
      | some n => some [n.toUInt8]
      | none =>
        if c.toNat < firstPrintable && (index.char? c.toNat).isNone then some [c.toNat.toUInt8]
        else none
  | big5 => Big5.write c
  | eucKr => EucKr.write c
  | shiftJis => ShiftJis.write c
  | eucJp => EucJp.write c
  | gb18030 hasFour => Gb18030.write hasFour c
  | userDefined =>
    if c.toNat < 0x80 then some [c.toNat.toUInt8]
    else if 0xF780 ≤ c.toNat && c.toNat ≤ 0xF7FF then some [(c.toNat - 0xF700).toUInt8]
    else none

/-- The bytes of a text. Encodings of Unicode other than UTF-8 are only read; text is written as
UTF-8 for them. -/
def encode (e : Encoding) (t : Text) : Bytes :=
  match e with
  | iso2022Jp => Iso2022Jp.writeFrom reference .ascii t
  | e => t.flatMap fun c => (e.writeChar c).getD (reference c)

end Encoding
end MudClient
