import MudClient.Pattern.Regex.Syntax
import MudClient.Number.Decimal
import MudClient.Unicode.Property
/-! Reading a regular expression. The state is the text that is left, the capture groups met so far
and whether white space counts; nothing is the answer for a text that is no expression.

Every step that may nest takes `fuel`, which the length of the text bounds. -/
namespace MudClient.Regex

structure Scan where
  rest : Text
  groups : Nat
  names : List Text
  ignoreSpace : Bool

abbrev Reader := StateT Scan Option

namespace Reader

def fail {α : Type} : Reader α := fun _ => none

def peek? : Reader (Option Char) := return (← get).rest.head?

def peekSecond? : Reader (Option Char) := return ((← get).rest.drop 1).head?

def advance (n : Nat) : Reader Unit := modify fun s => { s with rest := s.rest.drop n }

/-- White space, and comments that a number sign starts, wherever they do not count. -/
def skipIgnored : Text → Text
  | [] => []
  | c :: r =>
    if c = '#' then skipComment r
    else if Text.isBlank c then skipIgnored r
    else c :: r
where
  /-- Up to the end of the line. -/
  skipComment : Text → Text
    | [] => []
    | c :: r => if c = '\n' then skipIgnored r else skipComment r

def skipSpace : Reader Unit :=
  modify fun s => if s.ignoreSpace then { s with rest := skipIgnored s.rest } else s

/-- The next character, and past the white space that does not count after it. -/
def next : Reader Char := do
  match ← peek? with
  | none => fail
  | some c => advance 1; skipSpace; return c

def accept (t : String) : Reader Bool := do
  if t.toList.isPrefixOf (← get).rest then
    advance t.length
    return true
  else return false

/-- Passes over the white space after a character that was looked at already; there has to be a next
one. -/
def step : Reader Char := do
  advance 1
  skipSpace
  match ← peek? with
  | none => fail
  | some c => return c

def hexValue? (c : Char) : Option Nat :=
  if c.isDigit then some (c.toNat - 48)
  else if 'a' ≤ c ∧ c ≤ 'f' then some (c.toNat - 87)
  else if 'A' ≤ c ∧ c ≤ 'F' then some (c.toNat - 55)
  else none

/-- The character of a code; surrogates are none. -/
def charOfCode? (n : Nat) : Option Char := if h : n.isValidChar then some (.ofNatAux n h) else none

def hexDigits : Nat → Nat → Reader Nat
  | 0, n => return n
  | count + 1, n => do
    match hexValue? (← next) with
    | none => fail
    | some d => hexDigits count (n * 16 + d)

/-- Hexadecimal digits up to a closing brace, at least one. -/
def bracedHex : Nat → Option Nat → Reader Nat
  | 0, _ => fail
  | fuel + 1, n? => do
    let c ← next
    if c = '}' then
      match n? with
      | none => fail
      | some n => return n
    else
      match hexValue? c with
      | none => fail
      | some d => bracedHex fuel (some (min (n?.getD 0 * 16 + d) 0x110000))

/-- After `\x`, `\u` or `\U`, which stand for 2, 4 and 8 digits. -/
def hexLiteral (letter : Char) : Reader Literal := do
  let n ←
    match ← peek? with
    | some '{' => do advance 1; skipSpace; bracedHex ((← get).rest.length + 1) none
    | _ => hexDigits (if letter = 'x' then 2 else if letter = 'u' then 4 else 8) 0
  match charOfCode? n with
  | none => fail
  | some c => return ⟨c, letter = 'x' && n < 0x100⟩

def bracedName : Nat → Reader Text
  | 0 => fail
  | fuel + 1 => do
    let c ← next
    if c = '}' then return [] else return c :: (← bracedName fuel)

/-- After `\p`: one letter, or a name between braces. -/
def propertyName : Reader Text := do
  match ← peek? with
  | none => fail
  | some '{' => advance 1; skipSpace; bracedName ((← get).rest.length + 1)
  | some c => if c = '\\' then fail else do advance 1; skipSpace; return [c]

/-- An item between brackets or outside of them. -/
inductive Item where
  | literal (l : Literal)
  | perl (c : PerlClass) (negated : Bool)
  | property (name : Text) (negated : Bool)
  | assertion (n : Node)

def isMeta (c : Char) : Bool := "\\.+*?()|[]\x7b\x7d^$#&-~".toList.contains c

/-- Other characters after a backslash that stand for themselves. -/
def isEscapable (c : Char) : Bool :=
  c.toNat < 0x80 && !c.isAlphanum && c != '<' && c != '>'

def boundaryNames : List (String × Boundary) :=
  [("start", .start), ("end", .finish), ("start-half", .startHalf), ("end-half", .finishHalf)]

def isBoundaryLetter (c : Char) : Bool := c.isAlpha || c == '-'

def boundaryLetters : Nat → Reader Text
  | 0 => fail
  | fuel + 1 => do
    match ← peek? with
    | none => fail
    | some c =>
      if isBoundaryLetter c then do
        advance 1
        skipSpace
        return c :: (← boundaryLetters fuel)
      else return []

/-- After `\b`. A brace that no letter follows is left: it starts a repetition. -/
def boundary : Reader Boundary := do
  match ← peek? with
  | some '{' =>
    let before ← get
    if isBoundaryLetter (← step) then
      let name ← boundaryLetters ((← get).rest.length + 1)
      if (← peek?) != some '}' then fail
      advance 1
      match boundaryNames.lookup (String.ofList name) with
      | none => fail
      | some b => return b
    else do set before; return .edge
  | _ => return .edge

def perlClasses : List (Char × PerlClass) := [('d', .digit), ('s', .space), ('w', .word)]

def controlEscapes : List (Char × Nat) :=
  [('a', 7), ('f', 12), ('t', 9), ('n', 10), ('r', 13), ('v', 11)]

def escape : Reader Item := do
  match ← peek? with
  | none => fail
  | some c =>
    if c.isDigit then fail
    else if c = 'x' || c = 'u' || c = 'U' then do
      advance 1
      skipSpace
      return .literal (← hexLiteral c)
    else if c = 'p' || c = 'P' then do
      advance 1
      skipSpace
      return .property (← propertyName) (c = 'P')
    else do
      advance 1
      match perlClasses.lookup c.toLower with
      | some k => return .perl k c.isUpper
      | none =>
        if isMeta c || isEscapable c then return .literal ⟨c, false⟩
        match controlEscapes.lookup c with
        | some n => return .literal ⟨Char.ofNat n, false⟩
        | none =>
          match c with
          | 'A' => return .assertion .textStart
          | 'z' => return .assertion .textEnd
          | 'b' => return .assertion (.boundary (← boundary))
          | 'B' => return .assertion (.boundary .noEdge)
          | '<' => return .assertion (.boundary .start)
          | '>' => return .assertion (.boundary .finish)
          | _ => fail

/-! ### Between brackets -/

def asciiClasses : List (String × AsciiClass) :=
  [("alnum", .alnum), ("alpha", .alpha), ("ascii", .ascii), ("blank", .blank), ("cntrl", .cntrl),
    ("digit", .digit), ("graph", .graph), ("lower", .lower), ("print", .print), ("punct", .punct),
    ("space", .space), ("upper", .upper), ("word", .word), ("xdigit", .xdigit)]

/-- A class such as `[:alpha:]`; anything else is left as it was. -/
def asciiClass? : Reader (Option ClassNode) := do
  match (← get).rest with
  | '[' :: ':' :: r =>
    let (negated, r) := match r with
      | '^' :: r => (true, r)
      | r => (false, r)
    match asciiClasses.lookup (String.ofList (r.takeWhile (· != ':'))),
        (r.dropWhile (· != ':')) with
    | some c, ':' :: ']' :: rest => do
      modify fun s => { s with rest := rest }
      return some (.ascii c negated)
    | _, _ => return none
  | _ => return none

def classItem : Reader Item := do
  match ← peek? with
  | none => fail
  | some '\\' => do advance 1; escape
  | some c => do advance 1; return .literal ⟨c, false⟩

def itemNode : Item → Reader ClassNode
  | .literal l => return .literal l
  | .perl c negated => return .perl c negated
  | .property name negated => return .property name negated
  | .assertion _ => fail

/-- The next character that counts, after the one that comes next. -/
def peekPastSpace? : Reader (Option Char) := do
  let s ← get
  let rest := s.rest.drop 1
  return (if s.ignoreSpace then skipIgnored rest else rest).head?

/-- One item, or a range between two characters. -/
def classRange : Reader ClassNode := do
  let first ← classItem
  skipSpace
  match ← peek? with
  | none => fail
  | some c =>
    let after ← peekPastSpace?
    if c != '-' || after == some ']' || after == some '-' then itemNode first
    else do
      let _ ← step
      match first, ← classItem with
      | .literal a, .literal b => if a.char ≤ b.char then return .range a b else fail
      | _, _ => fail

/-- What was read of a bracketed class: the operand before the last operator, and the union that is
being collected. -/
structure ClassState where
  before : Option (SetOperation × ClassNode)
  union : ClassNode

def ClassState.add (s : ClassState) (n : ClassNode) : ClassState :=
  { s with union := match s.union with
    | .empty => n
    | u => .union u n }

/-- The class so far; operators take what precedes them as their left side. -/
def ClassState.close (s : ClassState) : ClassNode :=
  match s.before with
  | none => s.union
  | some (operation, a) => .combine operation a s.union

/-- Hyphens at the start of a class stand for themselves. -/
def leadingHyphens : Nat → ClassState → Reader ClassState
  | 0, _ => fail
  | fuel + 1, s => do
    match ← peek? with
    | some '-' => do
      let _ ← step
      leadingHyphens fuel (s.add (.literal ⟨'-', false⟩))
    | _ => return s

/-- After an opening bracket: is the class negated, and what it starts with. -/
def classStart : Reader (Bool × ClassState) := do
  skipSpace
  let negated := (← peek?) == some '^'
  if negated then
    let _ ← step
  if (← peek?).isNone then fail
  let s ← leadingHyphens ((← get).rest.length + 1) ⟨none, .empty⟩
  match s.union, ← peek? with
  | .empty, some ']' => do
    let _ ← step
    return (negated, s.add (.literal ⟨']', false⟩))
  | _, _ => return (negated, s)

def setOperation? (c : Char) : Option SetOperation :=
  match c with
  | '&' => some .intersection
  | '-' => some .difference
  | '~' => some .symmetricDifference
  | _ => none

/-- Up to the bracket that closes the class. -/
def classBody : Nat → ClassState → Reader ClassNode
  | 0, _ => fail
  | fuel + 1, s => do
    skipSpace
    match ← peek? with
    | none => fail
    | some '[' =>
      match ← asciiClass? with
      | some n => classBody fuel (s.add n)
      | none => do
        advance 1
        let (negated, inner) ← classStart
        let n ← classBody fuel inner
        classBody fuel (s.add (.bracketed n negated))
    | some ']' => do advance 1; return s.close
    | some c =>
      match setOperation? c, (← peekSecond?) == some c with
      | some operation, true => do
        advance 2
        classBody fuel ⟨some (operation, s.close), .empty⟩
      | _, _ => do
        let n ← classRange
        classBody fuel (s.add n)

def bracketed : Reader Node := do
  let (negated, s) ← classStart
  return .bracketed (← classBody ((← get).rest.length + 1) s) negated

/-! ### Repetition -/

def skipBlanks : Reader Unit := modify fun s => { s with rest := Text.trimStart s.rest }

/-- Digits, between which white space may stand where it does not count. -/
def digits : Nat → Reader Text
  | 0 => return []
  | fuel + 1 => do
    match ← peek? with
    | some c =>
      if c.isDigit then do advance 1; skipSpace; return c :: (← digits fuel) else return []
    | none => return []

/-- A count under 2 ^ 32, with white space around it; nothing if there is no digit. -/
def count? : Reader (Option Nat) := do
  skipBlanks
  let ds ← digits ((← get).rest.length + 1)
  skipBlanks
  skipSpace
  if ds.isEmpty then return none
  let n := Number.natOfDigits ds
  if n < Nat.pow 2 32 then return some n else fail

/-- A question mark after a repetition makes it lazy. -/
def isGreedy : Reader Bool := return !(← accept "?")

/-- What a repetition applies to; mode changes and nothing at all cannot be repeated. -/
def repeatable : Option Node → Reader Node
  | none | some .empty | some (.mode _) => fail
  | some n => return n

/-- Counts after an opening brace: `n`, `n,` or `n,m`. -/
def countRange : Reader (Nat × Option Nat) := do
  let min? ← count?
  match min?, ← peek? with
  | some n, some '}' => return (n, some n)
  | some n, some ',' => do
    if (← step) = '}' then return (n, none)
    match ← count?, ← peek? with
    | some m, some '}' => if n ≤ m then return (n, some m) else fail
    | _, _ => fail
  | _, _ => fail

def countedRepetition (body : Node) : Reader Node := do
  let _ ← step
  let (min, max) ← countRange
  advance 1
  skipSpace
  return .repetition body min max (← isGreedy)

/-! ### Groups -/

def isNameStart (c : Char) : Bool := c == '_' || Unicode.isAlphabetic c

def isNamePart (c : Char) : Bool :=
  c == '_' || c == '.' || c == '[' || c == ']' || Unicode.isAlphanumeric c

/-- A name that no group has yet, up to a closing angle bracket. -/
def groupName : Reader Text := do
  let s ← get
  let name := s.rest.takeWhile (· != '>')
  match name, s.rest.dropWhile (· != '>') with
  | c :: r, _ :: rest =>
    if isNameStart c && r.all isNamePart && !s.names.contains name then do
      set { s with rest := rest, names := name :: s.names }
      return name
    else fail
  | _, _ => fail

def openCapture : Reader Nat := do
  let s ← get
  set { s with groups := s.groups + 1 }
  return s.groups + 1

/-- The letters of a mode change up to the colon or parenthesis that ends it. A letter may occur
once and a hyphen once, and a letter follows a hyphen. -/
def modeLetters : Nat → Bool → Bool → ModeChange → Reader (ModeChange × Char)
  | 0, _, _, _ => fail
  | fuel + 1, on, afterHyphen, change => do
    match ← peek? with
    | none => fail
    | some c =>
      if c = ':' || c = ')' then
        if afterHyphen then fail else do advance 1; return (change, c)
      else if c = '-' then
        if on then do advance 1; modeLetters fuel false true change else fail
      else if (Mode.initial.set? c on).isSome && !change.any (·.1 == c) then do
        advance 1
        modeLetters fuel on false (change ++ [(c, on)])
      else fail

def applyToSpace (change : ModeChange) : Reader Unit :=
  modify fun s => { s with ignoreSpace := (change.lookup 'x').getD s.ignoreSpace }

inductive Opening where
  | capture (index : Nat) (name : Option Text)
  | group (change : ModeChange)
  /-- A mode change for the rest of the group around it. -/
  | mode (change : ModeChange)

/-- Looking around is not part of the language. -/
def isLookAround (rest : Text) : Bool :=
  ["?=", "?!", "?<=", "?<!"].any fun start => start.toList.isPrefixOf rest

def opening : Reader Opening := do
  skipSpace
  if isLookAround (← get).rest then fail
  if (← accept "?P<") || (← accept "?<") then
    let index ← openCapture
    return .capture index (some (← groupName))
  if ← accept "?" then
    let (change, last) ← modeLetters ((← get).rest.length + 1) true false []
    if last = ':' then return .group change
    -- an empty mode change is a question mark with nothing to repeat
    if change.isEmpty then fail
    applyToSpace change
    return .mode change
  return .capture (← openCapture) none

/-! ### Expressions -/

def itemOutside : Item → Node
  | .literal l => .literal l
  | .perl c negated => .perl c negated
  | .property name negated => .property name negated
  | .assertion n => n

/-- A single item that is neither a group nor a class. -/
def primitive (c : Char) : Reader Node := do
  advance 1
  match c with
  | '\\' => return itemOutside (← escape)
  | '.' => return .dot
  | '^' => return .lineStart
  | '$' => return .lineEnd
  | c => return .literal ⟨c, false⟩

/-- The items of a run, the last one first. -/
def sequenceOf : List Node → Node
  | [] => .empty
  | last :: before => before.foldl (fun r n => .sequence n r) last

/-- Alternatives up to a closing parenthesis or the end. `items` is the current run, the last item
first. The parenthesis is left. -/
def choices : Nat → List Node → Reader Node
  | 0, _ => fail
  | fuel + 1, items => do
    skipSpace
    match ← peek? with
    | none => return sequenceOf items
    | some ')' => return sequenceOf items
    | some '|' => do
      advance 1
      let first := sequenceOf items
      return .choice first (← choices fuel [])
    | some '(' => do
      advance 1
      let outside := (← get).ignoreSpace
      match ← opening with
      | .mode change => choices fuel (.mode change :: items)
      | .capture index name => do
        let body ← choices fuel []
        if !(← accept ")") then fail
        modify fun s => { s with ignoreSpace := outside }
        choices fuel (.capture index name body :: items)
      | .group change => do
        applyToSpace change
        let body ← choices fuel []
        if !(← accept ")") then fail
        modify fun s => { s with ignoreSpace := outside }
        choices fuel (.group change body :: items)
    | some '[' => do
      advance 1
      let n ← bracketed
      choices fuel (n :: items)
    | some c =>
      let simple (min : Nat) (max : Option Nat) : Reader Node := do
        let body ← repeatable items.head?
        advance 1
        return .repetition body min max (← isGreedy)
      match c with
      | '?' => do let n ← simple 0 (some 1); choices fuel (n :: items.drop 1)
      | '*' => do let n ← simple 0 none; choices fuel (n :: items.drop 1)
      | '+' => do let n ← simple 1 none; choices fuel (n :: items.drop 1)
      | '{' => do
        let n ← countedRepetition (← repeatable items.head?)
        choices fuel (n :: items.drop 1)
      | c => do let n ← primitive c; choices fuel (n :: items)

end Reader

/-- An expression nests this deep at most. -/
def maxDepth : Nat := 250

def Node.ofText? (t : Text) : Option Node := do
  let (n, s) ← (Reader.choices (t.length + 1) []).run ⟨t, 0, [], false⟩
  if s.rest.isEmpty && n.depth ≤ maxDepth then some n else none

end MudClient.Regex
