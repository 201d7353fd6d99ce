import MudClient.Captures
import MudClient.NameMap
import MudClient.Unicode.Property
/-! The variables of scripts. Named variables stay until they are deleted; the numbered arguments
are those of the last match. -/
namespace MudClient.Script

structure Locals where
  vars : NameMap Text
  args : List Text
  deriving DecidableEq

namespace Locals

def empty : Locals := ⟨∅, []⟩

instance : Inhabited Locals := ⟨empty⟩

def get? (l : Locals) (name : Text) : Option Text := l.vars.get? name

def set (l : Locals) (name value : Text) : Locals := { l with vars := l.vars.insert name value }

def erase (l : Locals) (name : Text) : Locals := { l with vars := l.vars.erase name }

/-- The arguments with their numerals. -/
def numbered (l : Locals) : List (Text × Text) :=
  (l.args.zipIdx 1).map fun (value, i) => (Text.ofNat i, value)

/-- The argument of a numeral, which has no leading zeros. -/
def arg? (l : Locals) (numeral : Text) : Option Text := l.numbered.lookup numeral

/-- A name of digits alone asks for an argument, every other name for a variable. -/
def lookup? (l : Locals) (name : Text) : Option Text :=
  if !name.isEmpty && name.all Char.isDigit then l.arg? name else l.get? name

/-- The groups of a match replace the arguments and set the variables of their names. -/
def applyCaptures (l : Locals) (c : Captures) : Locals :=
  ⟨c.named.foldl (fun m e => m.insert e.1 e.2) l.vars, c.positional⟩

end Locals

/-- Called after a dollar sign: the name that stands there and what follows it. -/
def variableName? (r : Text) : Option (Text × Text) :=
  match r with
  | '{' :: r =>
    match r.dropWhile Unicode.isWord, r.takeWhile Unicode.isWord with
    | '}' :: rest, c :: name => some (c :: name, rest)
    | _, _ => none
  | r =>
    match r.takeWhile Unicode.isWord with
    | [] => none
    | c :: name => some (c :: name, r.dropWhile Unicode.isWord)

theorem length_le_of_variableName? {r name rest : Text} (h : variableName? r = some (name, rest)) :
    rest.length ≤ r.length := by
  have drop (r : Text) : (r.dropWhile Unicode.isWord).length ≤ r.length :=
    (List.dropWhile_suffix _).sublist.length_le
  unfold variableName? at h
  split at h
  · rename_i r
    have := drop r
    split at h
    · rename_i hd _
      cases h
      simp only [hd, List.length_cons] at this ⊢
      omega
    · cases h
  · split at h
    · cases h
    · cases h
      exact drop _

/-- Replaces `$name` and `${name}` by `value name`. A dollar sign after a backslash is a dollar
sign, and one that no name follows stays. Values are not searched again. -/
def substitute (value : Text → Text) (t : Text) : Text :=
  match t with
  | '\\' :: '$' :: r => '$' :: substitute value r
  | '$' :: r =>
    match _h : variableName? r with
    | some (name, rest) => value name ++ substitute value rest
    | none => '$' :: substitute value r
  | c :: r => c :: substitute value r
  | [] => []
termination_by t.length
decreasing_by
  · exact Nat.lt_succ_of_lt (Nat.lt_succ_self _)
  · exact Nat.lt_succ_of_le (length_le_of_variableName? _h)
  · exact Nat.lt_succ_self _
  · exact Nat.lt_succ_self _

/-- Substitution from a table; a name that is not in it stands for nothing. -/
def replaceVariables (t : Text) (l : Locals) : Text :=
  substitute (fun name => (l.lookup? name).getD []) t

end MudClient.Script
