import MudClient.World.Basic
/-! Commands. A text is cut into commands, and each is answered by the first alias that matches it
or else goes to the server. An alias never answers what its own action sends, and the number of
aliases within each other is bounded, so sending comes to an end. -/
namespace MudClient

open Script (Effect Nanos Chance)

/-- Takes a delimiter after a backslash back into its command. -/
def rejoin (delimiter : Text) : List Text → List Text
  | [] => []
  | piece :: rest =>
    match rejoin delimiter rest with
    | next :: more =>
      if piece.getLast? = some '\\' then (piece ++ delimiter ++ next) :: more
      else piece :: next :: more
    | [] => [piece]

/-- Cuts a line at a delimiter, except where a backslash stands in front of it. -/
def splitStacked (delimiter line : Text) : List Text :=
  if delimiter.isEmpty then [line] else rejoin delimiter (Text.splitAt delimiter line)

/-- The commands of a text that are not blank; one empty command if there is none. -/
def splitCommands (delimiter text : Text) : List Text :=
  let lines := (Text.splitAtChar '\n' text).map (Text.dropEndWhile (· == '\r'))
  let commands := (lines.flatMap (splitStacked delimiter)).filter fun c => !Text.isAllBlank c
  match commands.map Script.Separator.unescape with
  | [] => [[]]
  | commands => commands

/-- How many aliases may be within each other. -/
def maxDepth : Nat := 50

namespace World

/-- Carries an effect out; `send` is what becomes of a command. -/
def applyEffect (send : World → Text → Except Crash World) (w : World) :
    Effect → Except Crash World
  | .send text => send w text
  | .display text => .ok (w.display (Script.Separator.unescape text) w.lineFlags)
  | .speak text interrupt =>
    .ok (w.display (Script.Separator.unescape text) (.speechOnly interrupt))
  | .play path => .ok (w.emit (.sound (Script.Separator.unescape path)))
  | .feed channel message =>
    .ok { w with channels := w.channels.feed channel (Script.Separator.unescape message) }
  | .declareAlias item => .ok { w with aliases := w.aliases.put item }
  | .declareTrigger item => .ok { w with triggers := w.triggers.put item }
  | .declareKeyBinding item => .ok { w with keyBindings := w.keyBindings.put item }
  | .declareChannel name => .ok { w with channels := w.channels.declare name }

def applyEffects (send : World → Text → Except Crash World) (w : World) (effects : List Effect) :
    Except Crash World :=
  effects.foldlM (applyEffect send) w

variable [Lua] [Chance]

/-- Runs the action of an alias. What it sends is answered by other aliases only. -/
def expand (send : World → Text → Except Crash World) (now : Nanos) (w : World) (a : Alias)
    (captures : Captures) : Except Crash World := do
  let run ← @Alias.fire _ w.chance a captures w.engine now
  let inside := { w.ran run with expanding := a.pattern.source :: w.expanding }
  let after ← applyEffects send inside run.effects
  return { after with expanding := after.expanding.tail }.settle run.result

/-- An alias answers a command, or it goes to the server. -/
def handleCommand (send : World → Text → Except Crash World) (now : Nanos) (w : World)
    (command : Text) : Except Crash World :=
  match w.aliases.answer? command w.expanding with
  | some (a, captures) => w.expand send now a captures
  | none => .ok (w.transmit command)

/-- Sends a text when `levels` more aliases may be entered; too deep inside it is dropped. -/
def send (now : Nanos) : Nat → World → Text → Except Crash World
  | 0, w, _ => .ok w
  | levels + 1, w, text =>
    (splitCommands w.settings.commandStacking text).foldlM (handleCommand (send now levels) now) w

/-- Carries out the effects of a script that no alias started. -/
def carryOut (w : World) (effects : List Effect) (now : Nanos) : Except Crash World :=
  applyEffects (send now (maxDepth + 1)) w effects

/-- Takes over what a script did that no alias started. -/
def conclude (w : World) (run : Execution) (now : Nanos) : Except Crash World := do
  let w ← { w with engine := run.engine }.carryOut run.effects now
  return w.settle run.result

end World
end MudClient
