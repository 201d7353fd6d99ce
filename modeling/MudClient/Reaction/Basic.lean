import MudClient.Pattern.Basic
import MudClient.Reaction.Roster
import MudClient.Reaction.Shortcut
import MudClient.Script.Locals
import MudClient.Script.Separator
import MudClient.Script.Statement
/-! Reactions: an alias answers a command, a trigger a line of the server, and a key binding a
shortcut. Each has a script as its action, and a statement that declares it. -/
namespace MudClient

open Script (Argument Statement)

/-- The statement that declares something, with its actions on one line. -/
def declaration (function : String) (subject : Text) (actions : List Text)
    (flags : Script.Flags) : Text :=
  let arguments := .braced subject :: actions.map fun a => .braced (Script.Separator.collapse a)
  Statement.format ⟨function.toList, arguments, flags⟩

structure Alias where
  pattern : Pattern
  action : Text

namespace Alias

instance : Keyed Alias Text := ⟨fun a => a.pattern.source⟩

def create (source action : Text) : Except ScriptError Alias :=
  (Pattern.ofSource source).map (⟨·, action⟩)

def label (a : Alias) : Text := "alias ".toList ++ a.pattern.source

def toStatement (a : Alias) : Text := declaration "alias" a.pattern.source [a.action] ∅

end Alias

structure Trigger where
  pattern : Pattern
  action : Text
  /-- Shown in place of the line; variables are replaced in it. -/
  substitution : Option Text
  mute : Bool
  mark : Bool

namespace Trigger

instance : Keyed Trigger Text := ⟨fun t => t.pattern.source⟩

def create (source action : Text) (substitution : Option Text) (mute mark : Bool) :
    Except ScriptError Trigger :=
  (Pattern.ofSource source).map (⟨·, action, substitution, mute, mark⟩)

def label (t : Trigger) : Text := "trigger ".toList ++ t.pattern.source

/-- The text that is shown for a line, if any. -/
def displayText (t : Trigger) (line : Text) (locals : Script.Locals) : Option Text :=
  if t.mute then none
  else
    match t.substitution with
    | some s => some (Script.Separator.unescape (Script.replaceVariables s locals))
    | none => some line

def flags (t : Trigger) : Script.Flags :=
  .ofList ((if t.mute then [("mute".toList, true)] else []) ++
    (if t.mark then [("mark".toList, true)] else []))

def toStatement (t : Trigger) : Text :=
  declaration "trigger" t.pattern.source (t.action :: t.substitution.toList) t.flags

end Trigger

structure KeyBinding where
  shortcut : Shortcut
  action : Text

namespace KeyBinding

instance : Keyed KeyBinding Shortcut := ⟨KeyBinding.shortcut⟩

def label (b : KeyBinding) : Text := "macro ".toList ++ b.shortcut.display

def toStatement (b : KeyBinding) : Text := declaration "macro" b.shortcut.display [b.action] ∅

end KeyBinding

/-- A trigger that matches a line, with its match. -/
abbrev TriggerMatch := Trigger × Captures

/-- The order in which triggers are preferred: longer patterns first, then fewer wildcards. -/
def TriggerMatch.precedes (a b : TriggerMatch) : Bool :=
  b.1.pattern.length < a.1.pattern.length ||
    (a.1.pattern.length == b.1.pattern.length && a.1.pattern.wildcards ≤ b.1.pattern.wildcards)

/-- The triggers that match a line, the preferred one first; those that tie keep their order. -/
def Roster.rank (r : Roster Trigger) (line : Text) : List TriggerMatch :=
  (r.items.filterMap fun t => (t.pattern.captures? line).map (t, ·)).mergeSort
    TriggerMatch.precedes

def Roster.best? (r : Roster Trigger) (line : Text) : Option TriggerMatch := (r.rank line).head?

end MudClient
