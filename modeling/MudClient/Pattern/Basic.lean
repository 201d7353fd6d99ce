import MudClient.Captures
import MudClient.Pattern.Regex.Search
import MudClient.Pattern.Wildcard
import MudClient.Script.Error
/-! Patterns of reactions. A pattern that starts with a circumflex is a regular expression; any
other is text in which a star stands for anything. -/
namespace MudClient

inductive Matcher where
  | regex (program : Regex.Program)
  | wildcard (first : Text) (pieces : List Text)

namespace Matcher

def ofSource? (source : Text) : Option Matcher :=
  match source with
  | '^' :: _ => (Regex.Program.ofText? source).map regex
  | _ =>
    match Text.splitAtChar '*' source with
    | first :: pieces => some (wildcard first pieces)
    | [] => some (wildcard [] [])

def wildcards : Matcher → Nat
  | regex program => program.names.length
  | wildcard _ pieces => pieces.length

def captures? (t : Text) : Matcher → Option Captures
  | wildcard first pieces =>
    (Wildcard.match? first pieces t).map fun words => ⟨words, [], 0, t⟩
  | regex program => do
    let slots ← program.search? t
    let group (i : Nat) := Regex.slice? t slots i
    let named := (program.names.zipIdx 1).filterMap fun (name, i) => do return (← name, ← group i)
    return {
      positional := (List.range program.names.length).map fun i => (group (i + 1)).getD []
      named
      start := (slots[0]?.join).getD 0
      matched := (group 0).getD [] }

end Matcher

/-- A pattern is what was written; the matcher follows from it. -/
structure Pattern where
  source : Text
  matcher : Matcher
  matcher_eq : Matcher.ofSource? source = some matcher

namespace Pattern

theorem eq_of_source_eq {p q : Pattern} (h : p.source = q.source) : p = q := by
  obtain ⟨s, m, hm⟩ := p
  obtain ⟨t, n, hn⟩ := q
  cases h
  cases hm.symm.trans hn
  rfl

def ofSource (source : Text) : Except ScriptError Pattern :=
  match h : Matcher.ofSource? source with
  | some matcher => .ok ⟨source, matcher, h⟩
  | none => .error (.invalidPattern source)

/-- Longer patterns are more specific. -/
def length (p : Pattern) : Nat := p.source.length

/-- Of patterns of one length, those with fewer wildcards are more specific. -/
def wildcards (p : Pattern) : Nat := p.matcher.wildcards

def captures? (p : Pattern) (t : Text) : Option Captures := p.matcher.captures? t

end Pattern
end MudClient
