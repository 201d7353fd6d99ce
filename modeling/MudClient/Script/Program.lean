import MudClient.Script.Registry
import MudClient.Script.Source
/-! Programs: the instructions to which a script is compiled. Compiling looks up every function and
counts its arguments, so a program that was compiled calls only what there is. With a table of
variables the arguments of most functions become templates, which are filled in when the call is
made; the length of a pause is taken from the table at once. -/
namespace MudClient.Script

inductive Value where
  /-- Handed over as it stands. -/
  | literal (text : Text)
  /-- Variables are replaced when the call is made. -/
  | template (text : Text)
  | block (source : Text)
  deriving DecidableEq, Repr

def Value.resolve (locals : Locals) : Value → Text
  | literal text => text
  | template text => replaceVariables text locals
  | block source => (Argument.foreign source).format

inductive Instruction where
  | call (function : Text) (arguments : List Value) (flags : Flags)
  | pause (delay : Nanos)
  | block (source : Text)
  deriving DecidableEq

abbrev Program := List Instruction

namespace Argument

/-- The text of an argument without a table of variables. -/
def literal : Argument → Text
  | foreign source => (foreign source).format
  | plain text | braced text => Separator.expand text

def value (substituted : Bool) : Argument → Value
  | foreign source => .block source
  | plain text | braced text =>
    let text := Separator.expand text
    if substituted then .template text else .literal text

end Argument

def Instruction.ofDelay [Chance] (d : Delay) : Except Crash Instruction :=
  d.sample?.elim (.error .durationTooLong) fun nanos => .ok (.pause nanos)

/-- The table from which a function's arguments are filled in, if they are. -/
def Builtin.table (f : Builtin) (vars : Option Locals) : Option Locals :=
  if f.substitutes then vars else none

/-- The arguments as a pause reads them: filled in at once from a table, if there is one. -/
def Statement.filled (s : Statement) (table : Option Locals) : List Text :=
  match table with
  | some locals => (s.arguments.map Argument.literal).map (replaceVariables · locals)
  | none => s.arguments.map Argument.literal

def Statement.compileCall [Chance] (s : Statement) (f : Builtin) (table : Option Locals) :
    Attempt Instruction := do
  ExceptT.mk (.ok (f.validate s.arguments.length))
  match f.delay? (s.filled table) with
  | some delay => ExceptT.lift (Instruction.ofDelay delay)
  | none => return .call s.function (s.arguments.map (Argument.value table.isSome)) s.flags

/-- Without `vars` nothing is substituted. -/
def Statement.compile [Chance] (registry : Registry) (vars : Option Locals) (s : Statement) :
    Attempt Instruction :=
  if s.isBlock then return .block s.source
  else
    match registry.find? s.function with
    | none => throw (.unknownFunction s.function)
    | some f => s.compileCall f (f.table vars)

/-- The first statement that cannot be compiled decides. Each statement draws for itself. -/
def compile [c : Chance] (registry : Registry) (vars : Option Locals) (source : Text) :
    Attempt Program := do
  let statements ← ExceptT.mk (.ok (split source))
  statements.zipIdx.mapM fun (s, n) => @Statement.compile (c.part n) registry vars s

end MudClient.Script
