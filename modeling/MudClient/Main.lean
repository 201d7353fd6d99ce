import MudClient.Terminal.Console
import MudClient.Terminal.Session
/-! A session without a network, for trying a configuration out. Each line of the input is a line of
the user; a command to the server is printed behind an angle bracket. The configuration comes from a
file, if one is named, and is written back to it when it is saved and at the end. -/
namespace MudClient.Rehearsal

open Script (Nanos)

def shown (console : Console) : Event → Text
  | .write command => "> ".toList ++ command ++ ['\n']
  | event => console.print [event]

/-- Where a session stands after a line: what is printed, and whether it is over. Scripts that are
due go on first. -/
def step (console : Console) (s : Session) (line : Text) (now : Nanos) :
    Except Crash (Session × Text × Bool) := do
  let (w, _) ← s.world.poll now
  let (s, quit) ← ({ s with world := w }).handleLine line now
  let (events, s) := s.takeOutput
  return (s, events.flatMap (shown console), quit)

/-- Writes the configuration to the file when it is not the one that was stored before. -/
def keep (file : Option String) (before after : Option Text) : IO Unit := do
  match file, after with
  | some file, some text => if before ≠ after then IO.FS.writeFile file (String.ofList text)
  | _, _ => return

/-- Handles the lines of the input up to its end or the end of the session. -/
partial def run (input : IO.FS.Stream) (file : Option String) (s : Session) : IO UInt32 := do
  let line ← input.getLine
  if line.isEmpty then finish s
  else
    let console := Console.mk s.world.settings.speech
    match step console s (Text.dropReturn (line.toList.filter (· ≠ '\n'))) (← IO.monoNanosNow) with
    | .error _ =>
      IO.eprintln "A script stopped the session."
      return 1
    | .ok (after, printed, quit) =>
      IO.print (String.ofList printed)
      keep file s.stored? after.stored?
      if quit then finish after else run input file after
where
  finish (s : Session) : IO UInt32 := do
    keep file s.stored? s.save.stored?
    return 0

end MudClient.Rehearsal

/-- The argument, if there is one, is the file of the configuration. -/
def main (args : List String) : IO UInt32 := do
  let config ← args.head?.elim (pure "") fun file => IO.FS.readFile file
  match MudClient.Session.start (.create "rehearsal".toList) config.toList (← IO.monoNanosNow) with
  | .error _ =>
    IO.eprintln "The configuration cannot be run."
    return 1
  | .ok (s, loaded) =>
    if let .error error := loaded then IO.eprintln error.message
    MudClient.Rehearsal.run (← IO.getStdin) args.head? s
