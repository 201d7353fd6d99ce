import MudClient.Lua.Table
/-! A block of code inside a script: what it is given and what is taken from it when it is done. The
table `vars` holds the variables, `args` the arguments of the last match, and `mud` four functions
that each put text at the end of a list. Every block has tables of its own. The language itself is
a parameter. -/
namespace MudClient

/-- What becomes of a block of code. -/
inductive Lua.Ending where
  | endless
  /-- It raised an error, or it is no code at all. -/
  | failed
  /-- It left these tables, as they are read from outside. -/
  | finished (tables : Lua.Tables)

/-- The language of the blocks. A block is run on the tables that the client made; what else it
needs it makes itself, behind them. -/
class Lua where
  exec : Text → Lua.Tables → Lua.Ending

namespace Lua.Block

/-! ### What a block is given -/

def mudRef : Nat := 1

def listNames : List String := ["commands", "echos", "speech", "feeds"]

def varsRef : Nat := 6

def argsRef : Nat := 7

/-- How many tables the client makes. -/
def ownTables : Nat := 8

def textValue (t : Text) : Value := .str (Token.encode t)

def mudTable : Table :=
  .ofFields ((listNames.zipIdx (mudRef + 1)).map (fun (name, ref) => (name, .table ref)) ++
    [("send", .native (.client .send)), ("echo", .native (.client .echo)),
      ("say", .native (.client .say)), ("feed", .native (.client .feed))])

def varsTable (vars : List (Text × Text)) : Table :=
  vars.foldl (fun t (name, value) => t.set (textValue name) (textValue value)) .empty

def argsTable (args : List Text) : Table :=
  (args.zipIdx 1).foldl (fun t (value, i) => t.set (.int i) (textValue value)) .empty

def globalsTable : Table :=
  .ofFields [("mud", .table mudRef), ("vars", .table varsRef), ("args", .table argsRef)]

def start (vars : List (Text × Text)) (args : List Text) : Tables :=
  #[globalsTable, mudTable, .empty, .empty, .empty, .empty, varsTable vars, argsTable args]

/-! ### What a block calls -/

/-- Why a call came to nothing. -/
inductive Refusal where
  /-- The argument at this place has no text. -/
  | argument (place : Nat)
  | list (message : String)

/-- A table has no place for more items in a row; the next one overflows it. -/
def maxItems : Nat := 3 * Nat.pow 2 30

/-- Puts a value at the end of one of the lists of `mud`, whatever stands there now. -/
def append (list : String) (v : Value) (tables : Tables) : Except Refusal Tables :=
  match tables.global "mud" with
  | .table mud =>
    match (tables.table mud).get (.ofString list) with
    | .table ref =>
      let t := tables.table ref
      if maxItems ≤ t.length then .error (.list "table overflow")
      else .ok (tables.set! ref (t.set (.int (t.length + 1)) v))
    | _ => .error (.list "table expected")
  | _ => .error (.list "table expected")

/-- The text of an argument, counted from one. -/
def argument? (args : List Value) (place : Nat) : Option Text :=
  ((args[place - 1]?).getD .nil).toText?

def argument (args : List Value) (place : Nat) : Except Refusal Text :=
  match argument? args place with
  | some t => .ok t
  | none => .error (.argument place)

def pairTable (pair : Text × Text) : Table :=
  (Table.empty.set (.int 1) (textValue pair.1)).set (.int 2) (textValue pair.2)

/-- A call of a function in `mud`. -/
def call (f : ClientFunction) (args : List Value) (tables : Tables) : Except Refusal Tables := do
  match f with
  | .send => append "commands" (textValue (← argument args 1)) tables
  | .echo => append "echos" (textValue (← argument args 1)) tables
  | .say => append "speech" (textValue (← argument args 1)) tables
  | .feed =>
    let pair := pairTable (← argument args 1, ← argument args 2)
    append "feeds" (.table tables.size) (tables.push pair)

/-! ### What a block leaves -/

structure Output where
  commands : List Text
  echos : List Text
  speech : List Text
  feeds : List (Text × Text)
  /-- The names in `vars` with their texts, and no text for a value that has none. Nothing if the
  block failed, or left something else where its lists or `vars` should be. -/
  vars : Option (List (Text × Option Text))
  deriving DecidableEq

def Output.failed : Output := ⟨[], [], [], [], none⟩

def tableAt? (tables : Tables) : Value → Option Table
  | .table ref => tables[ref]?
  | _ => none

def texts (t : Table) : List Text := t.sequence.filterMap Value.toText?

def textPairs (tables : Tables) (t : Table) : List (Text × Text) :=
  t.sequence.filterMap fun v => do
    let pair ← tableAt? tables v
    return (← (pair.getInt 1).toText?, ← (pair.getInt 2).toText?)

/-- The text of a variable's value; truth values have one too. -/
def varText? : Value → Option Text
  | .bool b => some (toString b).toList
  | v => v.toText?

def varTexts (t : Table) : List (Text × Option Text) :=
  t.present.filterMap fun (k, v) => do return (← k.toText?, varText? v)

/-- Reads the lists one after the other; a list that is no table ends the reading, and what was read
before it stays. -/
def collect (tables : Tables) : Output :=
  let list (name : String) : Option Table :=
    (tableAt? tables (tables.global "mud")).bind fun mud =>
      tableAt? tables (mud.get (.ofString name))
  match list "commands" with
  | none => .failed
  | some commands =>
    let out := { Output.failed with commands := texts commands }
    match list "echos" with
    | none => out
    | some echos =>
      let out := { out with echos := texts echos }
      match list "speech" with
      | none => out
      | some speech =>
        let out := { out with speech := texts speech }
        match list "feeds" with
        | none => out
        | some feeds =>
          { out with
            feeds := textPairs tables feeds
            vars := (tableAt? tables (tables.global "vars")).map varTexts }

variable [Lua]

/-- Runs a block. One that fails leaves nothing, and there is no answer to one without an end. -/
def run (source : Text) (vars : List (Text × Text)) (args : List Text) : Option Output :=
  match Lua.exec source (start vars args) with
  | .endless => none
  | .failed => some .failed
  | .finished tables => some (collect tables)

end Lua.Block
end MudClient
