import MudClient.Script.Error
import MudClient.Unicode.LetterCase
/-! Shortcuts: one key with up to three modifiers. Modifiers may come in any order and in any case;
they are shown in one order. -/
namespace MudClient

inductive Modifier where
  | ctrl | alt | shift
  deriving DecidableEq, Repr

def Modifier.ofName? (name : Text) : Option Modifier :=
  if name = "ctrl".toList ∨ name = "control".toList then some .ctrl
  else if name = "alt".toList then some .alt
  else if name = "shift".toList then some .shift
  else none

structure Shortcut where
  key : Text
  ctrl : Bool
  alt : Bool
  shift : Bool
  deriving DecidableEq, Repr

namespace Shortcut

/-- The first character in upper case and the others in lower case. -/
def normalizeKey : Text → Text
  | [] => []
  | c :: r => Unicode.toUpper c ++ r.flatMap Unicode.toLower

def parts (t : Text) : List Text := (Text.splitAtChar '+' t).map Text.trim

def modifier? (part : Text) : Option Modifier := Modifier.ofName? (Unicode.lower part)

/-- No part is blank, no modifier occurs twice, and exactly one part is a key. -/
def parse? (t : Text) : Option Shortcut :=
  let ps := parts t
  let modifiers := ps.filterMap modifier?
  match ps.filter fun p => (modifier? p).isNone with
  | [key] =>
    if key.isEmpty || !decide modifiers.Nodup then none
    else some ⟨normalizeKey key, modifiers.contains .ctrl, modifiers.contains .alt,
      modifiers.contains .shift⟩
  | _ => none

def ofText (t : Text) : Except ScriptError Shortcut :=
  match parse? t with
  | some s => .ok s
  | none => .error (.invalidShortcut t)

/-- The form in which a shortcut is shown and saved. -/
def display (s : Shortcut) : Text :=
  Text.join " + ".toList
    ((if s.ctrl then ["Ctrl".toList] else []) ++ (if s.alt then ["Alt".toList] else []) ++
      (if s.shift then ["Shift".toList] else []) ++ [s.key])

end Shortcut
end MudClient
