import MudClient.NameMap
/-! A tree of files. An entry is named by the way to it from the root, which need not exist. Ways
are followed from directory to directory, and two dots go back up. -/
namespace MudClient

abbrev Path := List Text

inductive Entry where
  | dir
  /-- A file that is not in UTF-8 has no text. -/
  | file (text : Option Text)
  deriving DecidableEq, Repr

structure Disk where
  entries : List (Path × Entry)
  deriving DecidableEq, Repr

namespace Disk

def empty : Disk := ⟨[]⟩

def get? (d : Disk) (p : Path) : Option Entry := d.entries.lookup p

def put (d : Disk) (p : Path) (e : Entry) : Disk := ⟨(p, e) :: d.entries.filter (·.1 ≠ p)⟩

theorem lookup_filter_ne {p q : Path} (h : q ≠ p) (l : List (Path × Entry)) :
    (l.filter (·.1 ≠ p)).lookup q = l.lookup q := by
  induction l with
  | nil => rfl
  | cons x r ih =>
    obtain ⟨a, e⟩ := x
    by_cases ha : a = p
    · subst ha
      rw [List.filter_cons_of_neg (by simp), ih, List.lookup_cons, beq_eq_false_iff_ne.2 h]
    · rw [List.filter_cons_of_pos (by simpa using ha), List.lookup_cons, List.lookup_cons, ih]

@[simp] theorem get?_put (d : Disk) (p q : Path) (e : Entry) :
    (d.put p e).get? q = if q = p then some e else d.get? q := by
  rw [get?, put, List.lookup_cons]
  by_cases h : q = p
  · simp [h]
  · rw [beq_eq_false_iff_ne.2 h, if_neg h]
    exact lookup_filter_ne h d.entries

def isDir (d : Disk) (p : Path) : Bool := d.get? p = some .dir

/-- The longest name that an entry can have, in bytes of UTF-8. -/
def maxNameBytes : Nat := 255

def isTooLong (name : Text) : Bool := maxNameBytes < Text.utf8Length name

def components (t : Text) : List Text :=
  (Text.splitAtChar '/' t).filter fun c => !c.isEmpty && c ≠ ['.']

def enter? (d : Disk) (p : Path) (name : Text) : Option Path :=
  if !d.isDir p then none
  else if name = ['.', '.'] then some p.dropLast
  else some (p ++ [name])

def resolve? (d : Disk) (p : Path) : List Text → Option Entry
  | [] => d.get? p
  | name :: r => (d.enter? p name).bind (d.resolve? · r)

/-- Makes the directories that are missing along a way, as far as that goes. -/
def makeDirsFrom (d : Disk) (p : Path) : List Text → Disk × Option Path
  | [] => (d, some p)
  | name :: r =>
    match d.enter? p name with
    | none => (d, none)
    | some q =>
      match d.get? q with
      | some .dir => makeDirsFrom d q r
      | some (.file _) => (d, none)
      | none => if isTooLong name then (d, none) else makeDirsFrom (d.put q .dir) q r

def withRoot (d : Disk) : Disk := if (d.get? []).isSome then d else d.put [] .dir

/-- No entry has a NUL in its name. -/
def makeDirs (d : Disk) (names : List Text) : Disk × Option Path :=
  if names.any (·.contains '\x00') then (d, none) else d.withRoot.makeDirsFrom [] names

/-- Writes a file in directories that are made if they are missing; tells whether that went well. -/
def write (d : Disk) (dirs : List Text) (name : Text) (text : Option Text) : Disk × Bool :=
  match d.makeDirs dirs with
  | (d, none) => (d, false)
  | (d, some p) =>
    if isTooLong name || name.contains '\x00' || name = ['.', '.'] || d.isDir (p ++ [name]) then
      (d, false)
    else (d.put (p ++ [name]) (.file text), true)

/-- The directories in a directory, in order. -/
def dirNames (d : Disk) (p : Path) : List Text :=
  (NameMap.ofList (d.entries.filterMap fun (q, e) =>
    match q.getLast? with
    | some name => if q.dropLast = p ∧ e = .dir then some (name, ()) else none
    | none => none)).names

end Disk
end MudClient
