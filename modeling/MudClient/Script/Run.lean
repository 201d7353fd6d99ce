import MudClient.Lua.Block
import MudClient.Script.Program
/-! Running a program until it ends or pauses. A run works on a table of its own; the list of its
changes tells others what it wrote. -/
namespace MudClient.Script

inductive Ending where
  | finished
  | stopped
  | failed (error : ScriptError)
  | paused (delay : Nanos) (rest : Program)

/-- A stretch of a run without a pause. -/
structure Segment where
  effects : List Effect
  changes : List Change
  /-- The table of the run with its changes. -/
  locals : Locals
  ending : Ending

namespace Block

/-- The entries of `vars` that differ from the table, and the names that are gone from it. -/
def changes (locals : Locals) (vars : List (Text × Option Text)) : List Change :=
  let set := vars.filterMap fun (name, value) =>
    value.bind fun text => if locals.get? name = some text then none else some (.set name text)
  let gone := locals.vars.names.filter fun name => !(vars.map (·.1)).contains name
  set ++ gone.map .delete

def effects (out : Lua.Block.Output) : List Effect :=
  out.commands.map .send ++ out.echos.map .display ++ out.speech.map (.speak · false) ++
    out.feeds.map fun (channel, message) => .feed channel message

def reply (locals : Locals) (out : Lua.Block.Output) : Reply :=
  match out.vars with
  | some vars => ⟨effects out, changes locals vars, .ok .next⟩
  | none => ⟨effects out, [], .error .block⟩

/-- Runs Lua code on a copy of the table. -/
def run [Lua] (source : Text) (locals : Locals) : Except Crash Reply :=
  match Lua.Block.run source locals.vars.entries locals.args with
  | some out => .ok (reply locals out)
  | none => .error .endless

end Block

/-- What an instruction does. The registry may have changed since the program was compiled. -/
def Instruction.run [Lua] (registry : Registry) (locals : Locals) : Instruction → Except Crash Reply
  | pause delay => .ok (.ofFlow (.pause delay))
  | block source => Block.run source locals
  | call function arguments flags =>
    match registry.find? function with
    | none => .ok (.ofError (.unknownFunction function))
    | some f => f.run locals (arguments.map (Value.resolve locals)) flags

/-- Puts what an instruction did in front of what came after it. -/
def Segment.after (reply : Reply) (s : Segment) : Segment :=
  { s with effects := reply.effects ++ s.effects, changes := reply.changes ++ s.changes }

/-- The segment that ends with this instruction. -/
def Reply.last (reply : Reply) (locals : Locals) (ending : Ending) : Segment :=
  ⟨reply.effects, reply.changes, locals.applyChanges reply.changes, ending⟩

def Program.run [Lua] (registry : Registry) : Program → Locals → Except Crash Segment
  | [], locals => .ok ⟨[], [], locals, .finished⟩
  | instruction :: rest, locals => do
    let reply ← instruction.run registry locals
    match reply.flow with
    | .error error => return reply.last locals (.failed error)
    | .ok .stop => return reply.last locals .stopped
    | .ok (.pause delay) => return reply.last locals (.paused delay rest)
    | .ok .next =>
      return (← Program.run registry rest (locals.applyChanges reply.changes)).after reply

end MudClient.Script
