import MudClient.Text
/-! The syntax of regular expressions, as written. -/
namespace MudClient.Regex

/-- What a letter between `(?` and `)` switches on. -/
structure Mode where
  ignoreCase : Bool
  multiLine : Bool
  dotMatchesNewline : Bool
  swapGreed : Bool
  unicode : Bool
  crlf : Bool
  ignoreSpace : Bool

def Mode.initial : Mode := ⟨false, false, false, false, true, false, false⟩

/-- One letter of a mode change; nothing if there is no such mode. -/
def Mode.set? (m : Mode) (letter : Char) (on : Bool) : Option Mode :=
  match letter with
  | 'i' => some { m with ignoreCase := on }
  | 'm' => some { m with multiLine := on }
  | 's' => some { m with dotMatchesNewline := on }
  | 'U' => some { m with swapGreed := on }
  | 'u' => some { m with unicode := on }
  | 'R' => some { m with crlf := on }
  | 'x' => some { m with ignoreSpace := on }
  | _ => none

/-- Letters switched on and letters switched off, in the order written. -/
abbrev ModeChange := List (Char × Bool)

def ModeChange.apply (change : ModeChange) (m : Mode) : Mode :=
  change.foldl (fun m (letter, on) => (m.set? letter on).getD m) m

/-- A character, or one of the numbers up to 255 written `\xNN`, which is a byte where text is not
Unicode. -/
structure Literal where
  char : Char
  isByte : Bool
  deriving DecidableEq

inductive PerlClass where
  | digit | space | word
  deriving DecidableEq

inductive AsciiClass where
  | alnum | alpha | ascii | blank | cntrl | digit | graph | lower | print | punct | space | upper
  | word | xdigit
  deriving DecidableEq

inductive SetOperation where
  | intersection | difference | symmetricDifference

inductive ClassNode where
  | empty
  | literal (l : Literal)
  | range (first last : Literal)
  | perl (c : PerlClass) (negated : Bool)
  | ascii (c : AsciiClass) (negated : Bool)
  | property (name : Text) (negated : Bool)
  | bracketed (inner : ClassNode) (negated : Bool)
  | union (a b : ClassNode)
  | combine (operation : SetOperation) (a b : ClassNode)

inductive Boundary where
  /-- Between a character of a word and another one. -/
  | edge
  | noEdge
  | start
  | finish
  /-- No character of a word before. -/
  | startHalf
  /-- No character of a word after. -/
  | finishHalf
  deriving DecidableEq

inductive Node where
  | empty
  | literal (l : Literal)
  | dot
  | lineStart
  | lineEnd
  | textStart
  | textEnd
  | boundary (b : Boundary)
  | perl (c : PerlClass) (negated : Bool)
  | property (name : Text) (negated : Bool)
  | bracketed (inner : ClassNode) (negated : Bool)
  | mode (change : ModeChange)
  | repetition (body : Node) (min : Nat) (max : Option Nat) (greedy : Bool)
  | capture (index : Nat) (name : Option Text) (body : Node)
  | group (change : ModeChange) (body : Node)
  | sequence (a b : Node)
  | choice (a b : Node)

/-- How deep an expression nests, itself included. A run of items, or of alternatives, is one
level. -/
def ClassNode.depth : ClassNode → Nat
  | bracketed inner _ => inner.depth + 1
  | union a b => max a.depth b.depth
  | combine _ a b => max a.depth b.depth + 1
  | _ => 0

/-- `outer` is the kind of run that the expression is a part of. -/
def Node.depthIn (inSequence inChoice : Bool) : Node → Nat
  | bracketed inner _ => inner.depth + 1
  | repetition body .. => body.depthIn false false + 1
  | capture _ _ body => body.depthIn false false + 1
  | group _ body => body.depthIn false false + 1
  | sequence a b =>
    max (a.depthIn true false) (b.depthIn true false) + if inSequence then 0 else 1
  | choice a b => max (a.depthIn false true) (b.depthIn false true) + if inChoice then 0 else 1
  | _ => 0

def Node.depth (n : Node) : Nat := n.depthIn false false

end MudClient.Regex
