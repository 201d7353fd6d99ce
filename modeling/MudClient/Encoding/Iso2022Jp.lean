import MudClient.Encoding.DoubleByte
/-! The encoding ISO-2022-JP, in which escapes change what the bytes after them stand for. -/
namespace MudClient.Encoding.Iso2022Jp

inductive Mode where
  | ascii | roman | katakana | jis0208
  deriving DecidableEq, Repr

namespace Mode

/-- The bytes after the escape that changes to a mode. -/
def escape : Mode → Bytes
  | ascii => [0x28, 0x42]
  | roman => [0x28, 0x4A]
  | katakana => [0x28, 0x49]
  | jis0208 => [0x24, 0x42]

def ofEscape? : Bytes → Option Mode
  | [0x28, 0x42] => some ascii
  | [0x28, 0x4A] => some roman
  | [0x28, 0x49] => some katakana
  | [0x24, 0x40] | [0x24, 0x42] => some jis0208
  | _ => none

end Mode

structure State where
  mode : Mode
  /-- Nothing was read since the last escape, so that another one would make it empty. -/
  afterEscape : Bool
  /-- The bytes of a character or of an escape that is not complete. -/
  kept : Bytes
  deriving DecidableEq, Repr

def State.initial : State := ⟨.ascii, false, []⟩

def esc : UInt8 := 0x1B

/-- A byte that stands alone; shifts are refused. -/
def singleChar? (mode : Mode) (b : UInt8) : Option Char :=
  match mode with
  | .ascii | .roman =>
    if b == 0x0E || b == 0x0F || b ≥ 0x80 then none
    else if mode = .roman && b == 0x5C then some '¥'
    else if mode = .roman && b == 0x7E then some '‾'
    else some (Char.ofNat b.toNat)
  | .katakana => if within 0x21 0x5F b then some (Char.ofNat (0xFF61 - 0x21 + b.toNat)) else none
  | .jis0208 => none

def pairChar? (a b : UInt8) : Option Char :=
  if within 0x21 0x7E b then Index.jis0208.char? ((a.toNat - 0x21) * 94 + (b.toNat - 0x21))
    else none

/-- A byte when no escape is being read. -/
def plain (s : State) (b : UInt8) : Text × State :=
  let read (c : Option Char) : Text × State :=
    ([c.getD replacementChar], { s with afterEscape := false, kept := [] })
  match s.kept with
  | [a] =>
    if b == esc then ([replacementChar], { s with afterEscape := false, kept := [esc] })
    else read (pairChar? a b)
  | _ =>
    if b == esc then ([], { s with kept := [esc] })
    else if s.mode = .jis0208 && within 0x21 0x7E b then
      ([], { s with afterEscape := false, kept := [b] })
    else read (singleChar? s.mode b)

/-- Bytes that looked like an escape are none: the escape byte is replaced and the others are read
as characters. -/
def notEscape (s : State) (bytes : Bytes) : Text × State :=
  bytes.foldl (fun (t, s) b => let (u, s) := plain s b; (t ++ u, s))
    ([replacementChar], { s with afterEscape := false, kept := [] })

def step (s : State) (b : UInt8) : Text × State :=
  match s.kept with
  | [0x1B] =>
    if b == 0x24 || b == 0x28 then ([], { s with kept := [esc, b] }) else notEscape s [b]
  | [0x1B, a] =>
    match Mode.ofEscape? [a, b] with
    | some mode =>
      (if s.afterEscape then [replacementChar] else [], ⟨mode, true, []⟩)
    | none => notEscape s [a, b]
  | _ => plain s b

/-- Full-width forms of Katakana in the order of the half-width ones. -/
def fullKatakana : Array Char :=
  ("。「」、・ヲァィゥェォャュョッーアイウエオカキクケコサシスセソタチツテトナニヌネノハヒフヘホ" ++
    "マミムメモヤユヨラリルレロワン゛゜").toList.toArray

/-- The bytes of a character and the mode that they need; nothing if there are none. -/
def place? (mode : Mode) (c : Char) : Option (Mode × Bytes) :=
  if c = '\x0e' ∨ c = '\x0f' ∨ c = '\x1b' then none
  else if c.toNat < 0x80 then
    let stays := mode = .ascii || (mode = .roman && c ≠ '\\' && c ≠ '~')
    some (if stays then mode else .ascii, [c.toNat.toUInt8])
  else if c = '¥' then some (.roman, [0x5C])
  else if c = '‾' then some (.roman, [0x7E])
  else do
    let c := if isHalfKatakana c then fullKatakana.getD (c.toNat - 0xFF61) c else japaneseMinus c
    let n ← Index.jis0208.number? c
    if n < 94 * 94 then some (.jis0208, [(n / 94 + 0x21).toUInt8, (n % 94 + 0x21).toUInt8])
    else none

def changeTo (old new : Mode) : Bytes := if old = new then [] else esc :: new.escape

/-- `reference` writes a character that has no bytes, in characters of ASCII. -/
def writeFrom (reference : Char → Bytes) (mode : Mode) : Text → Bytes
  | [] => changeTo mode .ascii
  | c :: r =>
    match place? mode c with
    | some (new, bytes) => changeTo mode new ++ bytes ++ writeFrom reference new r
    | none =>
      let new := if mode = .jis0208 then .ascii else mode
      let shown := if c = '\x0e' ∨ c = '\x0f' ∨ c = '\x1b' then replacementChar else c
      changeTo mode new ++ reference shown ++ writeFrom reference new r

end MudClient.Encoding.Iso2022Jp
