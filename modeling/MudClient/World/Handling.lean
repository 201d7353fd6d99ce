import MudClient.World.Command
/-! What can happen to a world: the user types a line or presses a key, the server sends text, time
passes. -/
namespace MudClient

open Script (Nanos Chance)

/-- Where the cursor goes: a line among those that were shown, and a character of it. -/
structure Mark where
  line : Nat
  column : Nat
  deriving DecidableEq, Repr

/-- What was shown of a text of the server. -/
structure Reception where
  lines : List Text
  /-- The first match of a trigger that marks. -/
  mark : Option Mark
  deriving DecidableEq, Repr

namespace Reception

def empty : Reception := ⟨[], none⟩

/-- A line more, with the column that it would mark. -/
def add (r : Reception) (line : Text) (column : Option Nat) : Reception :=
  ⟨r.lines ++ [line], r.mark <|> column.map (⟨r.lines.length, ·⟩)⟩

end Reception

namespace World

variable [Lua] [Chance]

/-- A line of the user. A blank one goes to the server as an empty line, past the aliases. -/
def handleInput (w : World) (text : Text) (now : Nanos) : Except Crash World :=
  if Text.isAllBlank text then .ok (w.transmit []) else send now (maxDepth + 1) w text

/-- What is shown for a line on which a trigger fired, and the column that it marks. A trigger whose
action cannot be read leaves the line as it is. -/
def shownBy (t : Trigger) (captures : Captures) (line : Text) (run : Execution) :
    Option Text × Option Nat :=
  match run.result with
  | .error error =>
    if error.isParseFailure then (some line, none) else shown
  | .ok _ => shown
where
  shown := (t.displayText line run.engine.locals, if t.mark then some captures.start else none)

/-- Shows a line of the server, if there is one to show. -/
def showLine (state : World × Reception) (line : Option Text) (column : Option Nat) :
    World × Reception :=
  match line with
  | some line => (state.1.display line state.1.lineFlags, state.2.add line column)
  | none => state

/-- A line of the server: the best trigger fires, the line is shown, and then the script of the
trigger takes effect. -/
def handleLine (now : Nanos) (state : World × Reception) (line : Text) :
    Except Crash (World × Reception) := do
  let (w, r) := state
  match w.triggers.best? line with
  | none => return showLine (w, r) (some line) none
  | some (t, captures) =>
    let run ← @Trigger.fire _ w.chance t captures w.engine now
    let (line, column) := shownBy t captures line run
    let (w, r) := showLine (w.ran run, r) line column
    return (← w.conclude run now, r)

def handleMessage (w : World) (text : Text) (now : Nanos) : Except Crash (World × Reception) :=
  (Text.lines text).foldlM (handleLine now) (w, .empty)

/-- A key; the answer tells whether anything is bound to it. -/
def handleKey (w : World) (shortcut : Shortcut) (now : Nanos) : Except Crash (World × Bool) := do
  match w.keyBindings.find? shortcut with
  | none => return (w, false)
  | some binding =>
    let run ← @KeyBinding.fire _ w.chance binding w.engine now
    return (← (w.ran run).conclude run now, true)

def wake (now : Nanos) (w : World) (c : Continuation) : Except Crash World := do
  w.conclude (← w.engine.resume c now) now

/-- Those of the scripts that are due, the earliest first; scripts that are due at the same time
keep their order. -/
def dueAt (now : Nanos) (pending : List Continuation) : List Continuation :=
  (pending.filter (·.due ≤ now)).mergeSort fun a b => a.due ≤ b.due

/-- Lets every script that is due go on, and tells how many they were. A script that pauses again
waits for the next time, however short its pause is. -/
def poll (w : World) (now : Nanos) : Except Crash (World × Nat) := do
  let due := dueAt now w.pending
  let waiting := { w with pending := w.pending.filter fun c => !(c.due ≤ now) }
  return (← due.foldlM (wake now) waiting, due.length)

end World
end MudClient
