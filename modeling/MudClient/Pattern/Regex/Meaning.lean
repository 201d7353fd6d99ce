import MudClient.Pattern.Regex.Reader
import MudClient.Unicode.CaseFold
import MudClient.Unicode.Category
import MudClient.Unicode.Script
/-! What an expression means: sets of characters, places between characters, and their
combinations. Modes are applied here and do not occur any more. -/
namespace MudClient

open Unicode (CodeSet)

/-- A condition on the place between two characters. -/
inductive Regex.Look where
  | textStart
  | textEnd
  | lineStart (crlf : Bool)
  | lineEnd (crlf : Bool)
  | boundary (b : Regex.Boundary) (unicode : Bool)
  deriving DecidableEq

inductive Regex where
  | empty
  | char (set : CodeSet)
  | look (l : Regex.Look)
  /-- Groups are numbered from one. -/
  | capture (index : Nat) (name : Option Text) (body : Regex)
  | sequence (a b : Regex)
  /-- `a` is preferred. -/
  | choice (a b : Regex)
  | repetition (body : Regex) (min : Nat) (max : Option Nat) (greedy : Bool)

namespace Regex

/-! ### Classes of characters -/

def asciiRanges : AsciiClass → List (Char × Char)
  | .alnum => [('0', '9'), ('A', 'Z'), ('a', 'z')]
  | .alpha => [('A', 'Z'), ('a', 'z')]
  | .ascii => [('\x00', '\x7f')]
  | .blank => [('\t', '\t'), (' ', ' ')]
  | .cntrl => [('\x00', '\x1f'), ('\x7f', '\x7f')]
  | .digit => [('0', '9')]
  | .graph => [('!', '~')]
  | .lower => [('a', 'z')]
  | .print => [(' ', '~')]
  | .punct => [('!', '/'), (':', '@'), ('[', (Char.ofNat 96)), ('\x7b', '~')]
  | .space => [('\t', '\r'), (' ', ' ')]
  | .upper => [('A', 'Z')]
  | .word => [('0', '9'), ('A', 'Z'), ('_', '_'), ('a', 'z')]
  | .xdigit => [('0', '9'), ('A', 'F'), ('a', 'f')]

def asciiSet (c : AsciiClass) : CodeSet :=
  .ofRanges ((asciiRanges c).map fun (a, b) => (a.toNat, b.toNat))

def perlSet (unicode : Bool) : PerlClass → CodeSet
  | .digit => if unicode then Unicode.Category.decimalNumber else asciiSet .digit
  | .space => if unicode then Unicode.whiteSpace else asciiSet .space
  | .word => if unicode then Unicode.word else asciiSet .word

/-- A name of a property without regard to case, to what is between words, and to a leading `is`. -/
def normalizeName (name : Text) : String :=
  let plain := (name.filter fun c => c.toNat < 0x80 && !Text.isBlank c && c != '_' && c != '-').map
    Char.toLower
  String.ofList (match plain with
    | ['i', 's', 'c'] => plain
    | 'i' :: 's' :: r => r
    | _ => plain)

/-- Two-letter names of which the standard has another use as well. -/
def isCategoryOnly (name : String) : Bool := name == "cf" || name == "sc" || name == "lc"

/-- The set of a name that stands alone: a property, a general category or a script. -/
def namedSet? (name : String) : Option CodeSet :=
  let property := if isCategoryOnly name then none else
    (Unicode.propertyNames.find? (·.1.contains name)).map (·.2)
  property <|> Unicode.Category.find? name <|> Unicode.Script.find? name

def valuedSet? (name value : String) : Option CodeSet :=
  if name == "gc" || name == "generalcategory" then Unicode.Category.find? value
  else if ["sc", "script", "scx", "scriptextensions"].contains name then Unicode.Script.find? value
  else none

def propertySet? (name : Text) : Option CodeSet :=
  match Text.cut? ['!', '='] name with
  | some (n, v) => (valuedSet? (normalizeName n) (normalizeName v)).map CodeSet.compl
  | none =>
    match Text.cut? [':'] name <|> Text.cut? ['='] name with
    | some (n, v) => valuedSet? (normalizeName n) (normalizeName v)
    | none => namedSet? (normalizeName name)

/-- The numbers that a set is the complement in: bytes where text is not Unicode. -/
def Mode.complement (m : Mode) (s : CodeSet) : CodeSet :=
  if m.unicode then s.compl else s.compl.inter ⟨#[(0, 0xFF)]⟩

/-- Folding comes before negation. -/
def Mode.finish (m : Mode) (negated : Bool) (s : CodeSet) : CodeSet :=
  let fold (s : CodeSet) := if m.unicode then s.closeUnderFold
    else s.union (s.closeUnderFold.inter .ascii)
  let s := if m.ignoreCase then fold s else s
  if negated then m.complement s else s

/-- The number of a character; characters that are no bytes are refused where text is not Unicode.
-/
def Mode.code? (m : Mode) (l : Literal) : Option Nat :=
  if m.unicode || l.char.toNat < 0x80 || l.isByte then some l.char.toNat else none

def classSet? (m : Mode) : ClassNode → Option CodeSet
  | .empty => some .empty
  | .literal l => (m.code? l).map fun n => ⟨#[(n, n)]⟩
  | .range a b => do return ⟨#[(← m.code? a, ← m.code? b)]⟩
  | .perl c negated =>
    let s := perlSet m.unicode c
    some (if negated then m.complement s else s)
  | .ascii c negated => some (m.finish negated (asciiSet c))
  | .property name negated =>
    if m.unicode then (propertySet? name).map (m.finish negated) else none
  | .bracketed inner negated => (classSet? m inner).map (m.finish negated)
  | .union a b => do return (← classSet? m a).union (← classSet? m b)
  | .combine operation a b => do
    let a := m.finish false (← classSet? m a)
    let b := m.finish false (← classSet? m b)
    return match operation with
      | .intersection => a.inter b
      | .difference => a.diff b
      | .symmetricDifference => a.symmDiff b

/-- Texts are Unicode, so a set of bytes has to keep to those that are characters. -/
def Mode.charOf? (m : Mode) (s : CodeSet) : Option Regex :=
  if m.unicode || (s.diff .ascii).isEmpty then some (.char s) else none

/-! ### Expressions -/

def dotSet (m : Mode) : CodeSet :=
  if m.dotMatchesNewline then .any
  else if m.crlf then (CodeSet.ofRanges [(10, 10), (13, 13)]).compl
  else (CodeSet.singleton '\n').compl

def isAlwaysEmpty : Regex → Bool
  | empty | look _ => true
  | char _ => false
  | capture _ _ body => body.isAlwaysEmpty
  | sequence a b | choice a b => a.isAlwaysEmpty && b.isAlwaysEmpty
  | repetition body _ max _ => body.isAlwaysEmpty || max == some 0

/-- A repetition in its simplest form: of what is always empty one is enough, none of it is nothing,
and one of it is itself. -/
def repeated (body : Regex) (min : Nat) (max : Option Nat) (greedy : Bool) : Regex :=
  let (min, max) := if body.isAlwaysEmpty then (Nat.min min 1, some ((max.map (Nat.min 1)).getD 1))
    else (min, max)
  if min = 0 ∧ max = some 0 then empty
  else if min = 1 ∧ max = some 1 then body
  else repetition body min max greedy

/-- The meaning of a node, and the modes after it. -/
def ofNode? (m : Mode) : Node → Option (Regex × Mode)
  | .empty => some (empty, m)
  | .literal l => do
    let n ← m.code? l
    let r ← m.charOf? (m.finish false ⟨#[(n, n)]⟩)
    return (r, m)
  | .dot => if m.unicode then some (char (dotSet m), m) else none
  | .lineStart => some (look (if m.multiLine then .lineStart m.crlf else .textStart), m)
  | .lineEnd => some (look (if m.multiLine then .lineEnd m.crlf else .textEnd), m)
  | .textStart => some (look .textStart, m)
  | .textEnd => some (look .textEnd, m)
  | .boundary b => some (look (.boundary b m.unicode), m)
  | .perl c negated => do
    let r ← (classSet? m (.perl c negated)).bind m.charOf?
    return (r, m)
  | .property name negated => do
    let r ← (classSet? m (.property name negated)).bind m.charOf?
    return (r, m)
  | .bracketed inner negated => do
    let r ← (classSet? m (.bracketed inner negated)).bind m.charOf?
    return (r, m)
  | .mode change => some (empty, change.apply m)
  | .repetition body min max greedy => do
    let (r, m) ← ofNode? m body
    return (repeated r min max (greedy != m.swapGreed), m)
  | .capture index name body => do
    let (r, _) ← ofNode? m body
    return (capture index name r, m)
  | .group change body => do
    let (r, _) ← ofNode? (change.apply m) body
    return (r, m)
  | .sequence a b => do
    let (r, m) ← ofNode? m a
    let (s, m) ← ofNode? m b
    return (sequence r s, m)
  | .choice a b => do
    let (r, m) ← ofNode? m a
    let (s, m) ← ofNode? m b
    return (choice r s, m)

/-- The groups of an expression, in the order of their numbers. -/
def groups : Regex → List (Nat × Option Text)
  | empty | char _ | look _ => []
  | capture index name body => (index, name) :: body.groups
  | sequence a b | choice a b => a.groups ++ b.groups
  | repetition body _ _ _ => body.groups

def groupCount (r : Regex) : Nat := (r.groups.map (·.1)).foldl max 0

/-- The least number of characters of a match; nothing if there is no match. -/
def minLength? : Regex → Option Nat
  | empty | look _ => some 0
  | char s => if s.isEmpty then none else some 1
  | capture _ _ body => body.minLength?
  | sequence a b => do return (← a.minLength?) + (← b.minLength?)
  | choice a b =>
    match a.minLength?, b.minLength? with
    | some m, some n => some (min m n)
    | some m, none => some m
    | none, n => n
  | repetition body least _ _ => if least = 0 then some 0 else body.minLength?.map (· * least)

end Regex
end MudClient
