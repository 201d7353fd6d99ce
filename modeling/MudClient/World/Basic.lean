import MudClient.Channel
import MudClient.Output
import MudClient.Reaction.Firing
import MudClient.Settings
/-! A world is the whole state of one connection: settings, the engine, reactions, channels and the
scripts that wait. What goes out is added to `output` in the order in which it happens. -/
namespace MudClient

open Script (Nanos Chance)

structure World where
  settings : Settings
  engine : Engine
  aliases : Roster Alias
  triggers : Roster Trigger
  keyBindings : Roster KeyBinding
  channels : Roster Channel
  client : Option Client
  /-- Commands that the network has not taken yet; none are kept once it takes no more. -/
  mailbox : Option (List Text)
  /-- Scripts that wait, in the order in which they were suspended. -/
  pending : List Continuation
  /-- The patterns of the aliases whose actions are being carried out, the innermost first. -/
  expanding : List Text
  /-- How many scripts were started. It tells what each of them draws from what others draw. -/
  started : Nat
  output : List Event

namespace World

def create (settings : Settings) : World where
  settings := settings
  engine := .create .builtins
  aliases := ∅
  triggers := ∅
  keyBindings := ∅
  channels := ∅
  client := none
  mailbox := none
  pending := []
  expanding := []
  started := 0
  output := []

def emit (w : World) (event : Event) : World := { w with output := w.output ++ [event] }

/-- What went out since the last time, and the world without it. -/
def takeOutput (w : World) : List Event × World := (w.output, { w with output := [] })

def bind (w : World) (client : Client) : World := { w with client := some client }

def bindMailbox (w : World) : World := { w.bind .mailbox with mailbox := some [] }

def unbind (w : World) : World := { w with client := none }

def isConnected (w : World) : Bool := w.client.isSome

/-- The commands in the mailbox, and the world after the network took them. -/
def takeMail (w : World) : List Text × World :=
  (w.mailbox.getD [], { w with mailbox := w.mailbox.map fun _ => [] })

def closeMailbox (w : World) : World := { w with mailbox := none }

/-- Hands a command to the client; without one it is dropped. -/
def transmit (w : World) (command : Text) : World :=
  match w.client with
  | some .direct => w.emit (.write command)
  | some .mailbox => { w with mailbox := w.mailbox.map (· ++ [command]) }
  | none => w

/-- What chance gives to the next script. -/
@[reducible] def chance [c : Chance] (w : World) : Chance := c.part w.started

/-- The world after a script that was started in it. -/
def ran (w : World) (run : Execution) : World :=
  { w with engine := run.engine, started := w.started + 1 }

def lineFlags (w : World) : OutputFlags := ⟨true, w.settings.speech, w.settings.braille, false⟩

def display (w : World) (text : Text) (flags : OutputFlags) : World := w.emit (.message text flags)

/-- Keeps a script that was suspended. Errors were only worth a note in a log. -/
def settle (w : World) : Except ScriptError Outcome → World
  | .ok (.suspended c) => { w with pending := w.pending ++ [c] }
  | _ => w

/-- Clears the variables and makes every script that waits old. -/
def reset (w : World) : World :=
  { w with engine := { w.engine.invalidate with locals := .empty } }

/-- When the first of the scripts that wait is due. -/
def nextDue (w : World) : Option Nanos := (w.pending.map (·.due)).min?

end World
end MudClient
