import MudClient.Engine
/-! Carrying out the action of a reaction. -/
namespace MudClient

open Script (Nanos Chance)

section

variable [Lua] [Chance]

def Alias.fire (a : Alias) (captures : Captures) (e : Engine) (now : Nanos) :
    Except Crash Execution :=
  e.execute a.action (some captures) a.label now

/-- A blank action only takes the groups of the match over. -/
def Trigger.fire (t : Trigger) (captures : Captures) (e : Engine) (now : Nanos) :
    Except Crash Execution :=
  if Text.isAllBlank t.action then .ok ⟨e.applyCaptures captures, [], .ok .completed⟩
  else e.execute t.action (some captures) t.label now

/-- There is no match, so the arguments stay. -/
def KeyBinding.fire (b : KeyBinding) (e : Engine) (now : Nanos) : Except Crash Execution :=
  e.execute b.action none b.label now

end

/-- The first alias that matches a command, with its match. Those of the patterns in `except` are
passed over. -/
def Roster.answer? (r : Roster Alias) (command : Text) (except : List Text) :
    Option (Alias × Captures) :=
  r.items.findSome? fun a =>
    if except.contains a.pattern.source then none
    else (a.pattern.captures? command).map (a, ·)

end MudClient
