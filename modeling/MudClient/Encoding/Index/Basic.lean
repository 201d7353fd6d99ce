import MudClient.Unicode.CodeSet
/-! Numbered characters, as the standard lists them for each encoding. A table is written in fields;
a field that starts with a hexadecimal number and a colon has the characters from that number on,
and the others go on where the one before them ended. A full stop is a number without a character.
-/
namespace MudClient.Encoding

structure Index where
  chars : Array Char

namespace Index

/-- Marks a number without a character. -/
def hole : Char := '.'

/-- Puts the characters of a field behind those that are there. -/
def addField (chars : Array Char) (field : List Char) : Array Char :=
  match field.splitOnP (· == ':') with
  | [number, cs] =>
    let gap := Unicode.ofHexDigits number - chars.size
    chars ++ Array.replicate gap hole ++ cs.toArray
  | _ => chars ++ field.toArray

def ofTable (table : String) : Index := ⟨(Unicode.tableFields table).foldl addField #[]⟩

def char? (i : Index) (number : Nat) : Option Char := i.chars[number]?.filter (· ≠ hole)

/-- The least number of a character. -/
def number? (i : Index) (c : Char) : Option Nat := if c = hole then none else i.chars.idxOf? c

/-- The fields of a table of hexadecimal numbers with colons between them. -/
def hexFields (table : String) : List (List Nat) :=
  (Unicode.tableFields table).map fun field => (field.splitOnP (· == ':')).map Unicode.ofHexDigits

end Index
end MudClient.Encoding
