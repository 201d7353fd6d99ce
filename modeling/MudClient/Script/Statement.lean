import MudClient.NameMap
/-! A statement of a script and its written form. `#name` calls a function with arguments and
`+flag` or `-flag`; a block of Lua code stands alone between braces. -/
namespace MudClient.Script

/-- The function of a line that names none. -/
def implicitFunction : Text := "send".toList

/-- The name under which a block that stands alone is kept. -/
def blockFunction : Text := ['+']

/-- Flags in the order of their names. -/
abbrev Flags := NameMap Bool

/-- A flag that is not set is off. -/
def Flags.isOn (flags : Flags) (name : String) : Bool := (flags.get? name.toList).getD false

inductive Argument where
  | plain (text : Text)
  | braced (text : Text)
  | foreign (source : Text)
  deriving DecidableEq, Repr

def Argument.text : Argument → Text
  | plain text | braced text | foreign text => text

structure Statement where
  function : Text
  arguments : List Argument
  flags : Flags
  deriving DecidableEq

namespace Statement

def implicit (text : Text) : Statement := ⟨implicitFunction, [.plain text], ∅⟩

def block (source : Text) : Statement := ⟨blockFunction, [.foreign source], ∅⟩

def isBlock (s : Statement) : Bool := s.function == blockFunction

def source (s : Statement) : Text := (s.arguments.head?.map Argument.text).getD []

end Statement

/-- Text that would read as something else without braces around it. -/
def needsBraces (text : Text) : Bool :=
  text.isEmpty || [some '#', some '+', some '-'].contains text.head? ||
    text.any fun c => Text.isBlank c || c == '{' || c == '}' || c == ';'

def Argument.format : Argument → Text
  | foreign source => '{' :: '+' :: ' ' :: source ++ [' ', '}']
  | plain text | braced text => if needsBraces text then '{' :: text ++ ['}'] else text

def formatFlag (flag : Text × Bool) : Text := (if flag.2 then '+' else '-') :: flag.1

def Statement.format (s : Statement) : Text :=
  if s.isBlock then (Argument.foreign s.source).format
  else Text.unwords
    (('#' :: s.function) :: s.arguments.map Argument.format ++ s.flags.entries.map formatFlag)

end MudClient.Script
