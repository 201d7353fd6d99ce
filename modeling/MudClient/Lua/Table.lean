import MudClient.Lua.Token
/-! Values and tables. -/
namespace MudClient.Lua

/-- The functions of the client, which stand in the table `mud`. -/
inductive ClientFunction where
  | send | echo | say | feed
  deriving DecidableEq

/-- Functions that are not written in the language. -/
inductive Native where
  | client (f : ClientFunction)
  | assert | error | ipairs | ipairsNext | next | pairs | pcall | rawequal | rawget | rawlen
  | rawset | select | tonumber | tostring | type
  | stringByte | stringChar | stringLen | stringLower | stringRep | stringReverse | stringSub
  | stringUpper
  | mathAbs | mathCeil | mathFloor | mathFmod | mathMax | mathMin | mathSqrt | mathToInteger
  | mathType
  | tableConcat | tableInsert | tableRemove | tableUnpack
  deriving DecidableEq

inductive Value where
  | nil
  | bool (b : Bool)
  | num (n : Num)
  | str (s : Bytes)
  | table (ref : Nat)
  /-- A function, or anything else that is known by its place only. -/
  | closure (ref : Nat)
  | native (f : Native)
  deriving DecidableEq

instance : Inhabited Value := ⟨.nil⟩

namespace Value

/-- Everything but `nil` and `false` counts as true. -/
def isTrue : Value → Bool
  | nil | bool false => false
  | _ => true

def isNil : Value → Bool
  | nil => true
  | _ => false

/-- Equality of values; tables and functions are equal only to themselves. -/
def eq : Value → Value → Bool
  | nil, nil => true
  | bool a, bool b => a == b
  | num a, num b => a.eq b
  | str a, str b => a == b
  | table a, table b => a == b
  | closure a, closure b => a == b
  | native a, native b => a == b
  | _, _ => false

def typeName : Value → String
  | nil => "nil"
  | bool _ => "boolean"
  | num _ => "number"
  | str _ => "string"
  | table _ => "table"
  | closure _ | native _ => "function"

def int (n : Int) : Value := num (.int (Int64.ofInt n))

def ofString (s : String) : Value := str (Token.encode s.toList)

/-- The characters of bytes below 0x80; other bytes occur in no numeral. -/
def asciiChars (s : Bytes) : List Char := s.map fun b => Char.ofNat b.toNat

/-- A number, or a string that reads as one. -/
def toNum? : Value → Option Num
  | num n => some n
  | str s => Num.ofText? (asciiChars s)
  | _ => none

def numBytes (n : Num) : Bytes := n.text.map fun c => UInt8.ofNat c.toNat

def toBytes? : Value → Option Bytes
  | str s => some s
  | num n => some (numBytes n)
  | _ => none

/-- The characters of a string or of a number; bytes that are no UTF-8 are refused. -/
def toText? (v : Value) : Option Text :=
  v.toBytes?.bind fun s => (String.fromUTF8? (ByteArray.mk s.toArray)).map String.toList

/-- What `tostring` gives. Tables and functions have no address here. -/
def display : Value → Bytes
  | nil => Token.encode "nil".toList
  | bool b => Token.encode (toString b).toList
  | num n => numBytes n
  | str s => s
  | table _ => Token.encode "table: 0x0".toList
  | closure _ | native _ => Token.encode "function: 0x0".toList

/-- A float that is whole is the same key as the integer. -/
def asKey : Value → Value
  | num (.float f) =>
    match Num.exactInt? f with
    | some i => num (.int i)
    | none => num (.float f)
  | v => v

end Value

/-- Entries in the order of their keys' first assignment. A key stays when its value becomes `nil`.
`reserved` is the number of items that a constructor made room for. -/
structure Table where
  entries : Array (Value × Value)
  reserved : Nat
  deriving DecidableEq

namespace Table

def empty : Table := ⟨#[], 0⟩

def get (t : Table) (key : Value) : Value :=
  let key := key.asKey
  ((t.entries.find? fun e => e.1.eq key).map (·.2)).getD .nil

def getInt (t : Table) (i : Nat) : Value := t.get (.int i)

def set (t : Table) (key value : Value) : Table :=
  let key := key.asKey
  match t.entries.findIdx? fun e => e.1.eq key with
  | some i => { t with entries := t.entries.set! i (key, value) }
  | none => if value.isNil then t else { t with entries := t.entries.push (key, value) }

/-- A border between `low`, which holds a value or is zero, and `high`, which holds none. -/
def borderBetween (t : Table) : Nat → Nat → Nat → Nat
  | 0, low, _ => low
  | fuel + 1, low, high =>
    if high - low ≤ 1 then low
    else
      let mid := (low + high) / 2
      if (t.getInt mid).isNil then borderBetween t fuel low mid else borderBetween t fuel mid high

/-- The first number from `i` on that is followed by none. -/
def borderAbove (t : Table) : Nat → Nat → Nat
  | 0, i => i
  | fuel + 1, i => if (t.getInt (i + 1)).isNil then i else borderAbove t fuel (i + 1)

/-- A number `n` with a value at `n`, unless it is zero, and none at `n + 1`. -/
def length (t : Table) : Nat :=
  if t.reserved = 0 then t.borderAbove t.entries.size 0
  else if (t.getInt t.reserved).isNil then
    if (t.getInt (t.reserved - 1)).isNil then t.borderBetween t.reserved 0 t.reserved
    else t.reserved - 1
  else t.borderAbove t.entries.size t.reserved

/-- The entry after a key, or the first one; `none` if there is no such key. -/
def next? (t : Table) (key : Value) : Option (Option (Value × Value)) :=
  let from? :=
    if key.isNil then some 0
    else (t.entries.findIdx? fun e => e.1.eq key.asKey).map (· + 1)
  from?.map fun i => (t.entries.toList.drop i).find? fun e => !e.2.isNil

/-- The values of 1, 2, … up to the first that is `nil`. -/
def sequence (t : Table) : List Value :=
  ((List.range t.entries.size).map fun i => t.getInt (i + 1)).takeWhile fun v => !v.isNil

def present (t : Table) : List (Value × Value) := t.entries.toList.filter fun e => !e.2.isNil

/-- The table with these entries under names. -/
def ofFields (fields : List (String × Value)) : Table :=
  fields.foldl (fun t (k, v) => t.set (.ofString k) v) .empty

end Table

/-- Tables, each at the number by which values refer to it. -/
abbrev Tables := Array Table

namespace Tables

def table (tables : Tables) (ref : Nat) : Table := (tables[ref]?).getD .empty

/-- Where the table of the global names stands. -/
def globals : Nat := 0

def global (tables : Tables) (name : String) : Value := (tables.table globals).get (.ofString name)

end Tables
end MudClient.Lua
