import MudClient.Pattern.Regex.Program
/-! Running a program over a text, all ways at once. The ways that lead to a place are kept in the
order of preference, and only the preferred way to each instruction is kept, so the work is bounded
by the length of the program times that of the text. -/
namespace MudClient.Regex

/-- A place in a text: how many characters precede it, the last of them, and those that follow. -/
structure Place where
  index : Nat
  before : Option Char
  rest : Text

def isWordAt (unicode : Bool) (c? : Option Char) : Bool :=
  match c? with
  | none => false
  | some c => if unicode then Unicode.isWord c else c.isAlphanum || c == '_'

def Boundary.holds (before after : Bool) : Boundary → Bool
  | .edge => before != after
  | .noEdge => before == after
  | .start => !before && after
  | .finish => before && !after
  | .startHalf => !before
  | .finishHalf => !after

def Look.holds (p : Place) : Look → Bool
  | textStart => p.before.isNone
  | textEnd => p.rest.isEmpty
  | lineStart false => p.before.all (· == '\n')
  | lineEnd false => p.rest.head?.all (· == '\n')
  | lineStart true => p.before.all (· == '\n') ||
      (p.before == some '\r' && p.rest.head? != some '\n')
  | lineEnd true => p.rest.head?.all (· == '\r') ||
      (p.rest.head? == some '\n' && p.before != some '\r')
  | boundary b unicode => b.holds (isWordAt unicode p.before) (isWordAt unicode p.rest.head?)

/-- Where groups start and end, as far as that is known. -/
abbrev Slots := Array (Option Nat)

structure Thread where
  pc : Nat
  slots : Slots

/-- The threads that wait for a character, in the order of preference and last first, and the
instructions that were reached. -/
structure Ways where
  threads : List Thread
  seen : Array Bool

/-- Follows a way to the instructions that wait for a character. An instruction that was reached
before leads nowhere new, so the length of the program bounds the depth. -/
def follow (code : Array Inst) (p : Place) : Nat → Nat → Slots → Ways → Ways
  | 0, _, _, ways => ways
  | fuel + 1, pc, slots, ways =>
    if ways.seen[pc]?.getD true then ways
    else
      let ways := { ways with seen := ways.seen.set! pc true }
      match code[pc]? with
      | none => ways
      | some (.jump target) => follow code p fuel target slots ways
      | some (.split first second) =>
        follow code p fuel second slots (follow code p fuel first slots ways)
      | some (.save slot) => follow code p fuel (pc + 1) (slots.set! slot (some p.index)) ways
      | some (.look l) => if l.holds p then follow code p fuel (pc + 1) slots ways else ways
      | some (.char _) | some .accept => { ways with threads := ⟨pc, slots⟩ :: ways.threads }

def Ways.none (code : Array Inst) : Ways := ⟨[], Array.replicate code.size false⟩

def enter (code : Array Inst) (p : Place) (pc : Nat) (slots : Slots) (ways : Ways) : Ways :=
  follow code p (code.size + 1) pc slots ways

/-- What the threads do at one character, preferred threads first: the threads at the next place,
and the slots of a thread that is done. Threads after that one are given up. -/
def step (code : Array Inst) (c? : Option Char) (next : Place) :
    List Thread → Ways → Ways × Option Slots
  | [], ways => (ways, none)
  | t :: rest, ways =>
    match code[t.pc]?, c? with
    | some .accept, _ => (ways, some t.slots)
    | some (.char set), some c =>
      step code c? next rest (if set.mem c then enter code next (t.pc + 1) t.slots ways else ways)
    | _, _ => step code c? next rest ways

/-- Goes on with `threads` from a place. `best` is the preferred match so far; as long as there is
none, a match may also start here. -/
def searchFrom (code : Array Inst) (blank : Slots) (index : Nat) (before : Option Char)
    (ways : Ways)
    (best : Option Slots) : Text → Option Slots
  | [] =>
    let place : Place := ⟨index, before, []⟩
    let ways := if best.isNone then enter code place 0 (blank.set! 0 (some index)) ways else ways
    let (_, done) := step code none place ways.threads.reverse (.none code)
    (done.map fun s => s.set! 1 (some index)) <|> best
  | c :: r =>
    let place : Place := ⟨index, before, c :: r⟩
    let ways := if best.isNone then enter code place 0 (blank.set! 0 (some index)) ways else ways
    let next : Place := ⟨index + 1, some c, r⟩
    let (ways, done) := step code (some c) next ways.threads.reverse (.none code)
    searchFrom code blank (index + 1) (some c) ways
      ((done.map fun s => s.set! 1 (some index)) <|> best) r

/-- The preferred one of the matches that start first: where it and its groups start and end. -/
def Program.search? (p : Program) (t : Text) : Option Slots :=
  searchFrom p.code (Array.replicate (2 * p.names.length + 2) none) 0 none (.none p.code) none t

def slice? (t : Text) (slots : Slots) (index : Nat) : Option Text :=
  match slots[2 * index]?, slots[2 * index + 1]? with
  | some (some a), some (some b) => some ((t.take b).drop a)
  | _, _ => none

end MudClient.Regex
