/-! Sets of code points, kept as ranges in increasing order. Standard tables write a set as the
hexadecimal ranges of its members, one space or newline apart. -/
namespace MudClient.Unicode

def hexValue? (c : Char) : Option Nat :=
  if '0' ≤ c ∧ c ≤ '9' then some (c.toNat - 48)
  else if 'A' ≤ c ∧ c ≤ 'F' then some (c.toNat - 55)
  else if 'a' ≤ c ∧ c ≤ 'f' then some (c.toNat - 87)
  else none

def ofHexDigits (digits : List Char) : Nat :=
  digits.foldl (fun n c => n * 16 + (hexValue? c).getD 0) 0

/-- The fields of a table, cut at spaces and newlines. -/
def tableFields (table : String) : List (List Char) :=
  (table.toList.splitOnP fun c => c == ' ' || c == '\n').filter (!·.isEmpty)

/-- A set of code points; the ranges increase and leave a gap between them. -/
structure CodeSet where
  ranges : Array (Nat × Nat)

namespace CodeSet

/-- Is `x` in one of the ranges from `lo` up to `hi`? The middle one tells on which side to go on.
-/
def containsIn (a : Array (Nat × Nat)) (x lo hi : Nat) (h : hi ≤ a.size) : Bool :=
  if _hl : lo < hi then
    let mid := (lo + hi) / 2
    have : mid < a.size := by omega
    if x < a[mid].1 then containsIn a x lo mid (by omega)
    else if a[mid].2 < x then containsIn a x (mid + 1) hi h
    else true
  else false
termination_by hi - lo

def contains (s : CodeSet) (x : Nat) : Bool :=
  containsIn s.ranges x 0 s.ranges.size (Nat.le_refl _)

def mem (s : CodeSet) (c : Char) : Bool := s.contains c.toNat

def isEmpty (s : CodeSet) : Bool := s.ranges.isEmpty

def empty : CodeSet := ⟨#[]⟩

/-- Joins ranges that touch; the input is in order of first code points. -/
def joinTouching : List (Nat × Nat) → List (Nat × Nat) → List (Nat × Nat)
  | acc, [] => acc.reverse
  | [], r :: rest => joinTouching [r] rest
  | (lo, hi) :: acc, (lo', hi') :: rest =>
    if lo' ≤ hi + 1 then joinTouching ((lo, max hi hi') :: acc) rest
    else joinTouching ((lo', hi') :: (lo, hi) :: acc) rest

/-- Ranges in any order, which may overlap. -/
def ofRanges (rs : List (Nat × Nat)) : CodeSet :=
  ⟨(joinTouching [] (rs.mergeSort fun a b => a.1 ≤ b.1)).toArray⟩

def singleton (c : Char) : CodeSet := ⟨#[(c.toNat, c.toNat)]⟩

def range (lo hi : Char) : CodeSet := ofRanges [(lo.toNat, hi.toNat)]

def union (s t : CodeSet) : CodeSet := ofRanges (s.ranges.toList ++ t.ranges.toList)

/-- The gaps between ranges, the next of which may start at `lo`. -/
def gaps : Nat → List (Nat × Nat) → List (Nat × Nat)
  | lo, [] => if lo ≤ 0x10FFFF then [(lo, 0x10FFFF)] else []
  | lo, (a, b) :: rest => if lo < a then (lo, a - 1) :: gaps (b + 1) rest else gaps (b + 1) rest

def compl (s : CodeSet) : CodeSet := ⟨(gaps 0 s.ranges.toList).toArray⟩

def inter (s t : CodeSet) : CodeSet := (s.compl.union t.compl).compl

def diff (s t : CodeSet) : CodeSet := s.inter t.compl

def symmDiff (s t : CodeSet) : CodeSet := (s.union t).diff (s.inter t)

def unions (sets : List CodeSet) : CodeSet := ofRanges (sets.flatMap (·.ranges.toList))

/-- A field `41-5A` is a range, and a field `AA` one code point. -/
def rangeOfField (field : List Char) : Nat × Nat :=
  match field.splitOnP (· == '-') with
  | [lo, hi] => (ofHexDigits lo, ofHexDigits hi)
  | _ => (ofHexDigits field, ofHexDigits field)

def ofTable (table : String) : CodeSet := ⟨((tableFields table).map rangeOfField).toArray⟩

def any : CodeSet := ⟨#[(0, 0x10FFFF)]⟩

def ascii : CodeSet := ⟨#[(0, 0x7F)]⟩

end CodeSet
end MudClient.Unicode
