import MudClient.World.Command
/-! The configuration of a world is a script that declares its channels and reactions. -/
namespace MudClient.World

open Script (Nanos Chance)

/-- Runs a configuration without substitution. What it did before an error stays. -/
def loadConfig [Lua] [Chance] (w : World) (text : Text) (now : Nanos) :
    Except Crash (World × Except ScriptError Unit) := do
  let run ← @Engine.executeRaw _ w.chance w.engine text "config".toList now
  let w ← (w.ran run).conclude run now
  return (w, run.result.map fun _ => ())

/-- The statements that declare what there is. -/
def declarations (w : World) : List Text :=
  w.channels.items.map (fun c => declaration "channel" c.name [] ∅) ++
    w.aliases.items.map Alias.toStatement ++ w.triggers.items.map Trigger.toStatement ++
    w.keyBindings.items.map KeyBinding.toStatement

/-- The configuration from which channels and reactions come back. -/
def saveConfig (w : World) : Text := w.declarations.flatMap (· ++ ['\n'])

end MudClient.World
