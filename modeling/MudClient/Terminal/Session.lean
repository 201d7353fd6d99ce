import MudClient.Store.Basic
import MudClient.Surroundings
import MudClient.World.Configuration
import MudClient.World.Handling
/-! A session at a terminal. A line that starts with a slash may be a command to the client itself;
every other line is for the world. -/
namespace MudClient

open Script (Nanos)

inductive LocalCommand where
  | quit
  | reset
  | save
  | key (shortcut : Text)
  deriving DecidableEq, Repr

namespace LocalCommand

/-- The first word of a text, and what follows the white space after it. -/
def cutWord (t : Text) : Text × Text :=
  (t.takeWhile fun c => !Text.isBlank c, (t.dropWhile fun c => !Text.isBlank c).drop 1)

def ofLine? : Text → Option LocalCommand
  | '/' :: r =>
    let (name, rest) := cutWord r
    if name = "quit".toList then some quit
    else if name = "reset".toList then some reset
    else if name = "save".toList then some save
    else if name = "key".toList then some (key rest)
    else none
  | _ => none

end LocalCommand

structure Session where
  world : World
  store : Store

namespace Session

/-- A session on an empty disk. The configuration runs before the server can be reached, so what it
sends is dropped. -/
def start (settings : Settings) (config : Text) (now : Nanos) :
    Except Crash (Session × Except ScriptError Unit) := do
  let (w, loaded) ← (World.create settings).loadConfig config now
  return (⟨w.takeOutput.2.bind .direct, .onDisk .empty⟩, loaded)

/-- What went out since the last time, and the session without it. -/
def takeOutput (s : Session) : List Event × Session :=
  let (events, w) := s.world.takeOutput
  (events, { s with world := w })

def stored? (s : Session) : Option Text :=
  match s.store.entry? s.world.settings.name Store.scriptFile with
  | some (.file text) => text
  | _ => none

/-- Stores the configuration; a failure is only worth a note in a log. -/
def save (s : Session) : Session :=
  { s with store := (s.store.saveScript s.world.settings.name s.world.saveConfig).1 }

/-- Presses a key, if the text is a shortcut. -/
def press (s : Session) (text : Text) (now : Nanos) : Except Crash Session :=
  match Shortcut.ofText text with
  | .error _ => .ok s
  | .ok shortcut => (s.world.handleKey shortcut now).map fun (w, _) => { s with world := w }

/-- A line of the user; the answer tells whether the session is over. -/
def handleLine (s : Session) (line : Text) (now : Nanos) : Except Crash (Session × Bool) :=
  match LocalCommand.ofLine? line with
  | some .quit => .ok (s, true)
  | some .reset => .ok ({ s with world := s.world.reset }, false)
  | some .save => .ok (s.save, false)
  | some (.key shortcut) => (s.press shortcut now).map (·, false)
  | none => (s.world.handleInput line now).map fun w => ({ s with world := w }, false)

def receive (s : Session) (text : Text) (now : Nanos) : Except Crash Session :=
  (s.world.handleMessage text now).map fun (w, _) => { s with world := w }

end Session
end MudClient
