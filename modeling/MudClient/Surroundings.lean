import MudClient.Lua.Eval
import MudClient.Lua.Reader
import MudClient.Script.Delay
/-! What a client finds around it that runs by itself: an interpreter for a part of Lua, without
string patterns, sorting, metatables, `load` and `goto` and with calls that are not too deep, and the
least number of each range in place of one that is drawn. -/
namespace MudClient

/-- A run that takes too many steps counts as one without an end. -/
@[reducible] def Lua.interpreter : Lua where
  exec source start :=
    match chunk? source with
    | none => .failed
    | some body =>
      match (runChunk body : Run Unit).run.run (Library.openOn start) with
      | (.ok _, h) => .finished h.tables
      | (.error (.thrown _), _) => .failed
      | (.error .exhausted, _) => .endless

instance : Lua := Lua.interpreter

instance : Script.Chance := .least

end MudClient
