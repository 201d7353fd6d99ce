import MudClient.Proofs.Script.Compile
import MudClient.Script.Run
/-! Templates. A template is a list of characters and names, which no value has a part in: filling
it in puts a value in the place of each name and nothing else. So what a statement sends is the
same list of parts in every table. -/
namespace MudClient.Script

/-- A part of a template. -/
inductive Part where
  | char (c : Char)
  | name (name : Text)
  deriving DecidableEq

namespace Part

def fill (value : Text → Text) : Part → Text
  | char c => [c]
  | name n => value n

/-- The name that stands for a value, if one does. -/
def name? : Part → Option Text
  | char _ => none
  | name n => some n

@[simp] theorem flatMap_fill_char (value : Text → Text) (t : Text) :
    (t.map char).flatMap (fill value) = t := by
  induction t with
  | nil => rfl
  | cons c t ih => exact congrArg (c :: ·) ih

end Part

/-- The parts of a template, read as `substitute` reads it. -/
def parts (t : Text) : List Part :=
  match t with
  | '\\' :: '$' :: r => .char '$' :: parts r
  | '$' :: r =>
    match _h : variableName? r with
    | some (name, rest) => .name name :: parts rest
    | none => .char '$' :: parts r
  | c :: r => .char c :: parts r
  | [] => []
termination_by t.length
decreasing_by
  · exact Nat.lt_succ_of_lt (Nat.lt_succ_self _)
  · exact Nat.lt_succ_of_le (length_le_of_variableName? _h)
  · exact Nat.lt_succ_self _
  · exact Nat.lt_succ_self _

theorem substitute_eq_flatMap (value : Text → Text) (t : Text) :
    substitute value t = (parts t).flatMap (Part.fill value) := by
  fun_induction substitute value t with
  | case1 r ih => simp [parts, ih, Part.fill]
  | case2 r name rest hr ih =>
    simp only [parts]
    split <;> simp_all [Part.fill]
  | case3 r hr ih =>
    simp only [parts]
    split <;> simp_all [Part.fill]
  | case4 c r _ _ ih => simp [parts, ih, Part.fill]
  | case5 => simp [parts]

/-- What a name stands for in a table. -/
def Locals.value (l : Locals) (name : Text) : Text := (l.lookup? name).getD []

def Argument.parts : Argument → List Part
  | foreign source => (foreign source).format.map .char
  | plain text | braced text => Script.parts (Separator.expand text)

theorem Argument.resolve_template (a : Argument) (locals : Locals) :
    (a.value true).resolve locals = a.parts.flatMap (Part.fill locals.value) := by
  cases a with
  | plain text | braced text => exact substitute_eq_flatMap _ _
  | foreign source => exact (Part.flatMap_fill_char _ _).symm

/-- The arguments of a statement with a space between neighbours. -/
def Statement.parts (s : Statement) : List Part :=
  [Part.char ' '].intercalate (s.arguments.map Argument.parts)

/-- The names for which a statement looks in a table. -/
def Statement.names (s : Statement) : List Text := s.parts.filterMap Part.name?

theorem flatMap_intercalate {α β : Type} (f : α → List β) (sep : List α) (parts : List (List α)) :
    (sep.intercalate parts).flatMap f =
      (sep.flatMap f).intercalate (parts.map (·.flatMap f)) := by
  induction parts with
  | nil => rfl
  | cons first rest ih =>
    cases rest with
    | nil => simp [List.intercalate]
    | cons second rest => simp_all [List.intercalate]

theorem Statement.unwords_resolve (s : Statement) (locals : Locals) :
    Text.unwords ((s.arguments.map (Argument.value true)).map (Value.resolve locals)) =
      s.parts.flatMap (Part.fill locals.value) := by
  rw [Statement.parts, flatMap_intercalate]
  simp only [Text.unwords, Text.join, List.map_map, List.flatMap_cons, List.flatMap_nil,
    List.append_nil]
  exact congrArg _ (List.map_congr_left fun a _ => a.resolve_template locals)

end MudClient.Script
