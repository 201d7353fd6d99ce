/-! Text is the list of its characters. White space is the `White_Space` property of the standard,
not its ASCII part, because servers and keyboards send the other spaces too. -/
namespace MudClient

abbrev Text := List Char

namespace Text

/-- The `White_Space` property. -/
def isBlank (c : Char) : Bool :=
  let n := c.toNat
  (9 ≤ n && n ≤ 13) || n == 0x20 || n == 0x85 || n == 0xA0 || n == 0x1680 ||
    (0x2000 ≤ n && n ≤ 0x200A) || n == 0x2028 || n == 0x2029 || n == 0x202F || n == 0x205F ||
    n == 0x3000

def trimStart (t : Text) : Text := t.dropWhile isBlank

/-- Drops from the end as long as `p` holds. -/
def dropEndWhile (p : Char → Bool) (t : Text) : Text := (t.reverse.dropWhile p).reverse

def trimEnd (t : Text) : Text := dropEndWhile isBlank t

def trim (t : Text) : Text := trimEnd (trimStart t)

/-- Nothing but white space, which includes nothing at all. -/
def isAllBlank (t : Text) : Bool := t.all isBlank

/-- The parts between the occurrences of one character. -/
def splitAtChar (sep : Char) (t : Text) : List Text := t.splitOnP (· == sep)

def join (sep : Text) (parts : List Text) : Text := sep.intercalate parts

/-- The words of `parts` with one space between neighbours. -/
def unwords (parts : List Text) : Text := join [' '] parts

def ofNat (n : Nat) : Text := Nat.toDigits 10 n

def consFirst (c : Char) : List Text → List Text
  | [] => [[c]]
  | p :: ps => (c :: p) :: ps

/-- `skip` characters of the delimiter found last are still to be passed over. -/
def splitAtFrom (sep : Text) : Nat → Text → List Text
  | _, [] => [[]]
  | skip + 1, _ :: r => splitAtFrom sep skip r
  | 0, c :: r =>
    if sep.isPrefixOf (c :: r) then [] :: splitAtFrom sep (sep.length - 1) r
    else consFirst c (splitAtFrom sep 0 r)

/-- The parts between the occurrences of `sep`, searched from the left and never overlapping. -/
def splitAt (sep : Text) (t : Text) : List Text := splitAtFrom sep 0 t

/-- The text before the first occurrence of `sep` and the text after it. -/
def cut? (sep : Text) : Text → Option (Text × Text)
  | [] => if sep.isEmpty then some ([], []) else none
  | c :: r =>
    if sep.isPrefixOf (c :: r) then some ([], (c :: r).drop sep.length)
    else (cut? sep r).map fun (before, after) => (c :: before, after)

/-- Drops one `c` from the end, if there is one. -/
def dropLast? (c : Char) (t : Text) : Option Text :=
  if t.getLast? = some c then some t.dropLast else none

/-- A line without its carriage return; only a line that a newline ended has one. -/
def dropReturn (t : Text) : Text := (dropLast? '\r' t).getD t

/-- `line` is what was read of the current line, last character first. -/
def linesFrom (line : Text) : Text → List Text
  | [] => if line.isEmpty then [] else [line.reverse]
  | c :: r =>
    if c = '\n' then dropReturn line.reverse :: linesFrom [] r else linesFrom (c :: line) r

/-- The lines of `t`. A newline, or a carriage return and a newline, ends a line; a last line needs
no end, and keeps a carriage return that no newline follows. -/
def lines (t : Text) : List Text := linesFrom [] t

def utf8Length : Text → Nat
  | [] => 0
  | c :: r => c.utf8Size + utf8Length r

/-- Lower case for the letters of ASCII only. -/
def lowerAscii (t : Text) : Text := t.map Char.toLower

end Text
end MudClient
