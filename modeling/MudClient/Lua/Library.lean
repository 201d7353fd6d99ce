import MudClient.Lua.Block
import MudClient.Lua.Heap
/-! The native functions, except for those that call functions themselves. -/
namespace MudClient.Lua.Library

open Run

def nativeName : Native → String
  | .client .send => "send" | .client .echo => "echo" | .client .say => "say"
  | .client .feed => "feed"
  | .assert => "assert" | .error => "error" | .ipairs => "ipairs" | .ipairsNext => "?"
  | .next => "next" | .pairs => "pairs" | .pcall => "pcall" | .rawequal => "rawequal"
  | .rawget => "rawget" | .rawlen => "rawlen" | .rawset => "rawset" | .select => "select"
  | .tonumber => "tonumber" | .tostring => "tostring" | .type => "type"
  | .stringByte => "byte" | .stringChar => "char" | .stringLen => "len" | .stringLower => "lower"
  | .stringRep => "rep" | .stringReverse => "reverse" | .stringSub => "sub"
  | .stringUpper => "upper"
  | .mathAbs => "abs" | .mathCeil => "ceil" | .mathFloor => "floor" | .mathFmod => "fmod"
  | .mathMax => "max" | .mathMin => "min" | .mathSqrt => "sqrt" | .mathToInteger => "tointeger"
  | .mathType => "type"
  | .tableConcat => "concat" | .tableInsert => "insert" | .tableRemove => "remove"
  | .tableUnpack => "unpack"

def badArgument {α : Type} (f : Native) (i : Nat) (what : String) : Run α :=
  raiseHere s!"bad argument #{i} to '{nativeName f}' ({what})"

/-- The arguments of a call, with the function that complains about them. -/
structure Args where
  function : Native
  values : List Value

namespace Args

def get (a : Args) (i : Nat) : Value := (a.values[i - 1]?).getD .nil

def given (a : Args) (i : Nat) : String :=
  match a.values[i - 1]? with
  | none => "no value"
  | some v => v.typeName

def wrongType {α : Type} (a : Args) (i : Nat) (expected : String) : Run α :=
  badArgument a.function i s!"{expected} expected, got {a.given i}"

def any (a : Args) (i : Nat) : Run Value :=
  match a.values[i - 1]? with
  | some v => return v
  | none => badArgument a.function i "value expected"

def num (a : Args) (i : Nat) : Run Num :=
  match (a.get i).toNum? with
  | some n => return n
  | none => a.wrongType i "number"

def int (a : Args) (i : Nat) : Run Int := do
  match (← a.num i).toInt? with
  | some n => return n.toInt
  | none => badArgument a.function i "number has no integer representation"

def intOr (a : Args) (i : Nat) (default : Int) : Run Int :=
  if (a.get i).isNil then return default else a.int i

def bytes (a : Args) (i : Nat) : Run Bytes :=
  match (a.get i).toBytes? with
  | some s => return s
  | none => a.wrongType i "string"

def tableRef (a : Args) (i : Nat) : Run Nat :=
  match a.get i with
  | .table ref => return ref
  | _ => a.wrongType i "table"

end Args

/-- A call of a function of the client. -/
def callClient (f : ClientFunction) (a : Args) : Run (List Value) := do
  let h ← get
  match Block.call f a.values h.tables with
  | .ok tables =>
    set { h with tables }
    return []
  | .error (.argument place) => a.wrongType place "string"
  | .error (.list message) => raiseHere message

/-! ### Strings -/

/-- A place counted from the start, or from the end if negative. -/
def startPosition (len : Nat) (i : Int) : Nat :=
  if 0 < i then i.toNat else if i = 0 ∨ i < -(len : Int) then 1 else (len + i + 1).toNat

def endPosition (len : Nat) (i : Int) : Nat :=
  if (len : Int) < i then len
  else if 0 ≤ i then i.toNat
  else if i < -(len : Int) then 0
  else (len + i + 1).toNat

/-- From the first to the last place, both included. -/
def subBytes (s : Bytes) (i j : Int) : Bytes :=
  (s.take (endPosition s.length j)).drop (startPosition s.length i - 1)

def upperByte (b : UInt8) : UInt8 := if 97 ≤ b && b ≤ 122 then b - 32 else b

def lowerByte (b : UInt8) : UInt8 := if 65 ≤ b && b ≤ 90 then b + 32 else b

/-- Strings are at most this long. -/
def maxLength : Nat := Nat.pow 2 24

/-- The value of a digit in any base up to 36. -/
def digitValue? (c : Char) : Option Nat :=
  if c.isDigit then some (c.toNat - 48)
  else if c.isAlpha then some (c.toLower.toNat - 87)
  else none

/-- A numeral in a base between 2 and 36. -/
def numeralInBase? (base : Nat) (t : List Char) : Option Int64 := do
  let t := ((t.dropWhile Num.isSpace).reverse.dropWhile Num.isSpace).reverse
  let (negative, t) := match t with
    | '-' :: r => (true, r)
    | t => (false, t)
  let ds ← t.mapM digitValue?
  if ds.isEmpty || ds.any (base ≤ ·) then none
  else
    let n : Int := (ds.foldl (fun n d => n * base + d) 0 : Nat)
    return Int64.ofInt (if negative then -n else n)

/-! ### Numbers -/

/-- A float as an integer if it fits. -/
def wholeFloat (f : Float) : Value :=
  match Num.exactInt? f with
  | some i => .num (.int i)
  | none => .num (.float f)

def absolute : Num → Num
  | .int i => .int (if i < 0 then -i else i)
  | .float f => .float f.abs

def best (better : Num → Num → Bool) (a : Args) : Run (List Value) := do
  let ns ← (List.range (max 1 a.values.length)).mapM fun i => a.num (i + 1)
  match ns with
  | [] => return []
  | n :: ns => return [.num (ns.foldl (fun m n => if better n m then n else m) n)]

/-! ### Tables -/

def concatItems (a : Args) (t : Table) (sep : Bytes) (i : Int) : Nat → Run Bytes
  | 0 => return []
  | n + 1 =>
    match (t.get (.int i)).toBytes? with
    | none => badArgument a.function 1 s!"invalid value (at index {i}) in table for 'concat'"
    | some s =>
      if n = 0 then return s else return s ++ sep ++ (← concatItems a t sep (i + 1) n)

/-- Moves the values from `i` on up by one. -/
def shiftUp (t : Table) (i : Int) : Nat → Table
  | 0 => t
  | n + 1 => shiftUp (t.set (.int (i + n + 1)) (t.get (.int (i + n)))) i n

/-- Moves the values after `i` down by one. -/
def shiftDown (t : Table) (i : Int) : Nat → Table
  | 0 => t
  | n + 1 => shiftDown (t.set (.int i) (t.get (.int (i + 1)))) (i + 1) n

def insert (a : Args) : Run (List Value) := do
  let ref ← a.tableRef 1
  let t ← table ref
  let e : Int := t.length + 1
  match a.values.length with
  | 2 => setTable ref (t.set (.int e) (a.get 2))
  | 3 =>
    let i ← a.int 2
    if i < 1 ∨ e < i then badArgument a.function 2 "position out of bounds"
    setTable ref ((shiftUp t i (e - i).toNat).set (.int i) (a.get 3))
  | _ => raiseHere "wrong number of arguments to 'insert'"
  return []

def remove (a : Args) : Run (List Value) := do
  let ref ← a.tableRef 1
  let t ← table ref
  let size : Int := t.length
  let i ← a.intOr 2 size
  if a.values.length ≥ 2 && size + 1 != i && (i < 1 || size + 1 < i) && !(size == 0 && i == 0) then
    badArgument a.function 2 "position out of bounds"
  let v := t.get (.int i)
  setTable ref ((shiftDown t i (size - i).toNat).set (.int (max i size)) .nil)
  return [v]

/-! ### Calls -/

/-- The message of `error`, with the place that its level asks for. -/
def errorValue (a : Args) : Run Value := do
  let level ← a.intOr 2 1
  match a.get 1 with
  | .str s =>
    let h ← get
    let line := if level = 1 then h.line else if level = 2 then h.callers.headD 0 else 0
    return .str (Token.encode (position line).toList ++ s)
  | v => return v

def runArgs (a : Args) : Run (List Value) := do
  match a.function with
  | .client f => callClient f a
  | .assert => do
    if (← a.any 1).isTrue then return a.values
    match a.values with
    | [_] => raise "assertion failed!"
    | _ => throw (.thrown (a.get 2))
  | .error => do throw (.thrown (← errorValue a))
  | .ipairs => return [.native .ipairsNext, ← a.any 1, .int 0]
  | .ipairsNext => do
    let i := (← a.int 2) + 1
    let v := (← table (← a.tableRef 1)).get (.int i)
    return if v.isNil then [.nil] else [.int i, v]
  | .next => do
    match (← table (← a.tableRef 1)).next? (a.get 2) with
    | none => raiseHere "invalid key to 'next'"
    | some none => return [.nil]
    | some (some (k, v)) => return [k, v]
  | .pairs => return [.native .next, .table (← a.tableRef 1), .nil]
  | .rawequal => return [.bool ((← a.any 1).eq (← a.any 2))]
  | .rawget => return [(← table (← a.tableRef 1)).get (a.get 2)]
  | .rawlen =>
    match a.get 1 with
    | .str s => return [.int s.length]
    | .table ref => return [.int (← table ref).length]
    | _ => badArgument a.function 1 "table or string expected"
  | .rawset => do
    let ref ← a.tableRef 1
    setTable ref ((← table ref).set (a.get 2) (a.get 3))
    return [.table ref]
  | .select => do
    let rest := a.values.drop 1
    match a.get 1 with
    | .str [35] => return [.int rest.length]
    | _ => do
      let n ← a.int 1
      if n < 0 then
        if rest.length < n.natAbs then badArgument a.function 1 "index out of range"
        return rest.drop (rest.length - n.natAbs)
      if n = 0 then badArgument a.function 1 "index out of range"
      return rest.drop (n.toNat - 1)
  | .tonumber =>
    if (a.get 2).isNil then do
      let v ← a.any 1
      return [(v.toNum?.map Value.num).getD .nil]
    else do
      let base ← a.int 2
      match a.get 1 with
      | .str s =>
        if base < 2 ∨ 36 < base then badArgument a.function 2 "base out of range"
        return [((numeralInBase? base.toNat (Value.asciiChars s)).map (.num ∘ .int)).getD .nil]
      | _ => a.wrongType 1 "string"
  | .tostring => return [.str (← a.any 1).display]
  | .type => return [.ofString (← a.any 1).typeName]
  | .stringByte => do
    let s ← a.bytes 1
    let i ← a.intOr 2 1
    let j ← a.intOr 3 i
    return (subBytes s i j).map fun b => .int b.toNat
  | .stringChar => do
    let codes ← (List.range a.values.length).mapM fun i => a.int (i + 1)
    match codes.findIdx? fun n => n < 0 ∨ 255 < n with
    | some i => badArgument a.function (i + 1) "value out of range"
    | none => return [.str (codes.map fun n => UInt8.ofNat n.toNat)]
  | .stringLen => return [.int (← a.bytes 1).length]
  | .stringLower => return [.str ((← a.bytes 1).map lowerByte)]
  | .stringUpper => return [.str ((← a.bytes 1).map upperByte)]
  | .stringRep => do
    let s ← a.bytes 1
    let n ← a.int 2
    let sep ← if (a.get 3).isNil then pure [] else a.bytes 3
    if maxLength < (s.length + sep.length) * n.toNat then raiseHere "resulting string too large"
    return [.str (if (s ++ sep).isEmpty then [] else sep.intercalate (List.replicate n.toNat s))]
  | .stringReverse => return [.str (← a.bytes 1).reverse]
  | .stringSub => return [.str (subBytes (← a.bytes 1) (← a.int 2) (← a.intOr 3 (-1)))]
  | .mathAbs => return [.num (absolute (← a.num 1))]
  | .mathCeil => do
    match ← a.num 1 with
    | .int i => return [.num (.int i)]
    | .float f => return [wholeFloat f.ceil]
  | .mathFloor => do
    match ← a.num 1 with
    | .int i => return [.num (.int i)]
    | .float f => return [wholeFloat f.floor]
  | .mathFmod => do
    match ← a.num 1, ← a.num 2 with
    | .int m, .int n =>
      if n == 0 then badArgument a.function 2 "zero"
      return [.int (Int.tmod m.toInt n.toInt)]
    | m, n => return [.num (.float (Num.remFloat m.toFloat n.toFloat))]
  | .mathMax => best (fun n m => m.lt n) a
  | .mathMin => best Num.lt a
  | .mathSqrt => return [.num (.float (← a.num 1).toFloat.sqrt)]
  | .mathToInteger => do
    match (← a.any 1).toNum?.bind Num.toInt? with
    | some i => return [.num (.int i)]
    | none => return [.nil]
  | .mathType => do
    match ← a.any 1 with
    | .num (.int _) => return [.ofString "integer"]
    | .num (.float _) => return [.ofString "float"]
    | _ => return [.nil]
  | .tableConcat => do
    let t ← table (← a.tableRef 1)
    let sep ← if (a.get 2).isNil then pure [] else a.bytes 2
    let i ← a.intOr 3 1
    let j ← a.intOr 4 t.length
    return [.str (← concatItems a t sep i (j - i + 1).toNat)]
  | .tableInsert => insert a
  | .tableRemove => remove a
  | .tableUnpack => do
    let t ← table (← a.tableRef 1)
    let i ← a.intOr 2 1
    let j ← a.intOr 3 t.length
    if 1000000 ≤ j - i then raiseHere "too many results to unpack"
    return (List.range (j - i + 1).toNat).map fun (k : Nat) => t.get (.int (i + k))
  | .pcall => return []

/-- Runs a native function that calls no function. -/
def run (f : Native) (values : List Value) : Run (List Value) := runArgs ⟨f, values⟩

/-! ### What every run starts with -/

def natives (fs : List Native) : List (String × Value) :=
  fs.map fun f => (nativeName f, .native f)

def strings : Table := .ofFields (natives [.stringByte, .stringChar, .stringLen, .stringLower,
  .stringRep, .stringReverse, .stringSub, .stringUpper])

def numbers : Table := .ofFields (natives [.mathAbs, .mathCeil, .mathFloor, .mathFmod, .mathMax,
  .mathMin, .mathSqrt, .mathToInteger, .mathType] ++
  [("huge", .num (.float (1.0 / 0.0))), ("pi", .num (.float 3.141592653589793)),
    ("maxinteger", .int Int64.maxValue.toInt), ("mininteger", .int Int64.minValue.toInt)])

def tables : Table :=
  .ofFields (natives [.tableConcat, .tableInsert, .tableRemove, .tableUnpack])

/-- The tables of the libraries stand behind those of the client. -/
def stringLibrary : Nat := Block.ownTables

def base : List (String × Value) := natives [.assert, .error, .ipairs, .next, .pairs, .pcall,
  .rawequal, .rawget, .rawlen, .rawset, .select, .tonumber, .tostring, .type] ++
  [("string", .table stringLibrary), ("math", .table (stringLibrary + 1)),
    ("table", .table (stringLibrary + 2)), ("_G", .table Tables.globals),
    ("_VERSION", .ofString "Lua 5.4")]

def openOn (start : Tables) : Heap where
  tables := (start.modify Tables.globals fun t =>
    base.foldl (fun t (k, v) => t.set (.ofString k) v) t) ++ #[strings, numbers, tables]
  cells := #[]
  closures := #[]
  line := 0
  callers := []

end MudClient.Lua.Library
