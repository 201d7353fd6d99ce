import MudClient.Pattern.Regex.Meaning
/-! Programs that look for a match. Where two ways are open the first one is preferred. -/
namespace MudClient.Regex

open Unicode (CodeSet)

inductive Inst where
  | char (set : CodeSet)
  | look (l : Look)
  | save (slot : Nat)
  | split (first second : Nat)
  | jump (target : Nat)
  | accept

/-- A way into the body before the way around it, or the other way round. -/
def Inst.fork (greedy : Bool) (into around : Nat) : Inst :=
  if greedy then .split into around else .split around into

/-- Copies of a body, each of them at the address after the one before. -/
def copies (code : Nat → List Inst) (length : Nat) : Nat → Nat → List Inst
  | 0, _ => []
  | n + 1, start => code start ++ copies code length n (start + length)

/-- Copies that may be left out from some copy on. -/
def optionalCopies (code : Nat → List Inst) (length : Nat) (greedy : Bool) (after : Nat) :
    Nat → Nat → List Inst
  | 0, _ => []
  | n + 1, start =>
    Inst.fork greedy (start + 1) after :: code (start + 1) ++
      optionalCopies code length greedy after n (start + 1 + length)

def codeLength : Regex → Nat
  | empty => 0
  | char _ | look _ => 1
  | capture _ _ body => body.codeLength + 2
  | sequence a b => a.codeLength + b.codeLength
  | choice a b => a.codeLength + b.codeLength + 2
  | repetition body least none _ =>
    if least = 0 then body.codeLength + 2 else body.codeLength * least + 1
  | repetition body least (some most) _ =>
    body.codeLength * least + (body.codeLength + 1) * (most - least)

/-- The code of an expression, to be put at address `start`. A body that may match nothing is
repeated through a second fork after it, because a way back to the first one would be cut off as
visited and leave the wrong way preferred. -/
def code : Regex → Nat → List Inst
  | empty, _ => []
  | char s, _ => [.char s]
  | look l, _ => [.look l]
  | capture index _ body, start =>
    .save (2 * index) :: body.code (start + 1) ++ [.save (2 * index + 1)]
  | sequence a b, start => a.code start ++ b.code (start + a.codeLength)
  | choice a b, start =>
    let second := start + a.codeLength + 2
    .split (start + 1) second :: a.code (start + 1) ++
      .jump (second + b.codeLength) :: b.code second
  | repetition body least none greedy, start =>
    if least = 0 then
      let after := start + body.codeLength + 2
      .fork greedy (start + 1) after :: body.code (start + 1) ++
        [if (body.minLength?.getD 0) = 0 then .fork greedy (start + 1) after else .jump start]
    else
      let last := start + body.codeLength * (least - 1)
      copies body.code body.codeLength least start ++
        [.fork greedy last (last + body.codeLength + 1)]
  | repetition body least (some most) greedy, start =>
    let required := start + body.codeLength * least
    let after := required + (body.codeLength + 1) * (most - least)
    copies body.code body.codeLength least start ++
      optionalCopies body.code body.codeLength greedy after (most - least) required

structure Program where
  code : Array Inst
  /-- The names of the groups, from the first on. -/
  names : List (Option Text)

/-- Roughly the bytes that a program takes. -/
def weight : Regex → Nat
  | empty => 0
  | char s => 32 + (if s.ranges.size ≤ 1 then 0 else 60 * s.ranges.size)
  | look _ => 32
  | capture _ _ body => body.weight + 64
  | sequence a b => a.weight + b.weight
  | choice a b => a.weight + b.weight + 64
  | repetition body least most _ => (body.weight + 48) * (max 1 (most.getD (least + 1)))

/-- Programs may weigh this much. -/
def maxWeight : Nat := 10 * Nat.pow 2 20

def Program.ofRegex (r : Regex) : Program :=
  ⟨(r.code 0 ++ [Inst.accept]).toArray,
    (List.range r.groupCount).map fun i => (r.groups.lookup (i + 1)).getD none⟩

def Program.ofText? (t : Text) : Option Program := do
  let node ← Node.ofText? t
  let (r, _) ← ofNode? .initial node
  if r.weight ≤ maxWeight then some (ofRegex r) else none

end MudClient.Regex
