import MudClient.Json.Reader
/-! The settings of a world and their file. Members that are missing have their defaults, except the
name; members of other names are passed over. -/
namespace MudClient

structure Settings where
  name : Text
  host : Text
  port : UInt16
  encoding : Text
  /-- Separates commands on one line; nothing does if it is empty. -/
  commandStacking : Text
  speech : Bool
  braille : Bool
  /-- Milliseconds between two looks at the clock. -/
  tickMillis : UInt64
  deriving DecidableEq, Repr

namespace Settings

def create (name : Text) : Settings where
  name := name
  host := []
  port := 23
  encoding := "utf-8".toList
  commandStacking := []
  speech := true
  braille := false
  tickMillis := 100

instance : Inhabited Settings := ⟨create "default".toList⟩

/-- The clock is looked at once a millisecond at most. -/
def tick (s : Settings) : Nat := max s.tickMillis.toNat 1

/-- The names of the members in the order of the file. -/
def memberNames : List String :=
  ["name", "host", "port", "encoding", "command_stacking", "speech", "braille", "timer_tick_ms"]

def text? : Json → Option Text
  | .string text => text
  | _ => none

def bool? : Json → Option Bool
  | .bool value => some value
  | _ => none

/-- A numeral of digits alone whose number is less than `bound`. -/
def nat? (bound : Nat) : Json → Option Nat
  | .number ds =>
    if ds.all Char.isDigit then
      let n := Nat.ofDigitChars 10 ds 0
      if n < bound then some n else none
    else none
  | _ => none

def readOr {α : Type} (default : α) (read : Json → Option α) : Option Json → Option α
  | none => some default
  | some j => read j

/-- The settings of which `member` gives the members. -/
def ofMembers? (member : String → Option Json) : Option Settings := do
  let d := create (← text? (← member "name"))
  return {
    name := d.name
    host := ← readOr d.host text? (member "host")
    port := ← readOr d.port (fun j => (nat? UInt16.size j).map .ofNat) (member "port")
    encoding := ← readOr d.encoding text? (member "encoding")
    commandStacking := ← readOr d.commandStacking text? (member "command_stacking")
    speech := ← readOr d.speech bool? (member "speech")
    braille := ← readOr d.braille bool? (member "braille")
    tickMillis := ← readOr d.tickMillis (fun j => (nat? UInt64.size j).map .ofNat)
      (member "timer_tick_ms") }

/-- The members may also stand in a list in their order. -/
def ofJson? : Json → Option Settings
  | .object members => do
    let members ← members.mapM fun (name, j) => name.map (·, j)
    let values (name : String) := (members.filter (·.1 = name.toList)).map (·.2)
    if memberNames.any fun name => 1 < (values name).length then none
    else ofMembers? fun name => (values name).head?
  | .array items =>
    if memberNames.length < items.length then none
    else ofMembers? fun name => (memberNames.zip items).lookup name
  | _ => none

def ofText? (t : Text) : Option Settings := (Json.read? t).bind ofJson?

def written (s : Settings) : List (Text × Text) :=
  let bool (b : Bool) := (toString b).toList
  (memberNames.map String.toList).zip
    [Json.quote s.name, Json.quote s.host, Text.ofNat s.port.toNat, Json.quote s.encoding,
      Json.quote s.commandStacking, bool s.speech, bool s.braille, Text.ofNat s.tickMillis.toNat]

def toText (s : Settings) : Text := Json.prettyObject s.written

end Settings
end MudClient
