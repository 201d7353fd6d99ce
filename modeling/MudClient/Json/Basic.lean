import MudClient.Text
/-! JSON values and their written form, with two spaces for each level. -/
namespace MudClient

/-- A value keeps what was written: numbers are numerals, and a string whose escapes stand for half
a surrogate pair has no text. -/
inductive Json where
  | null
  | bool (value : Bool)
  | number (numeral : Text)
  | string (text : Option Text)
  | array (items : List Json)
  /-- Members in their order; a name may occur again. -/
  | object (members : List (Option Text × Json))

namespace Json

instance : Inhabited Json := ⟨null⟩

def ofText (t : Text) : Json := .string (some t)

def ofNat (n : Nat) : Json := .number (Text.ofNat n)

/-- Letters that stand for control characters after a backslash. -/
def controlEscapes : List (Char × Char) :=
  [('\x08', 'b'), ('\x09', 't'), ('\x0a', 'n'), ('\x0c', 'f'), ('\x0d', 'r')]

def hexDigit (n : Nat) : Char := (Nat.toDigits 16 n).getLastD '0'

/-- Control characters, quotes and backslashes are escaped, and nothing else. -/
def escape (c : Char) : Text :=
  if c = '"' ∨ c = '\\' then ['\\', c]
  else
    match controlEscapes.lookup c with
    | some letter => ['\\', letter]
    | none =>
      if c.toNat < 0x20 then ['\\', 'u', '0', '0', hexDigit (c.toNat / 16), hexDigit (c.toNat % 16)]
      else [c]

def quote (t : Text) : Text := '"' :: t.flatMap escape ++ ['"']

/-- Members on lines of their own between braces. -/
def prettyObject (members : List (Text × Text)) : Text :=
  if members.isEmpty then "\x7b\x7d".toList
  else
    let lines := members.map fun (name, value) => "  ".toList ++ quote name ++ ": ".toList ++ value
    "\x7b\n".toList ++ Text.join ",\n".toList lines ++ "\n\x7d".toList

end Json
end MudClient
