import MudClient.Text
/-! Escape sequences of terminals. They and carriage returns are taken out of the text of a server,
which comes in pieces, so a sequence that is not complete is kept for the next piece. -/
namespace MudClient.Ansi

def esc : Char := '\x1b'

def isParameter (c : Char) : Bool := c.isDigit || c == ';' || c == '?'

def isIntermediate (c : Char) : Bool := ' ' ≤ c && c ≤ '/'

def isFinal (c : Char) : Bool := '@' ≤ c && c ≤ '~'

def isShort (c : Char) : Bool := ('@' ≤ c && c ≤ 'Z') || ('\\' ≤ c && c ≤ '_')

/-- What follows the control sequence of which this is the rest after its bracket. -/
def dropControl? (r : Text) : Option Text :=
  match (r.dropWhile isParameter).dropWhile isIntermediate with
  | c :: rest => if isFinal c then some rest else none
  | [] => none

/-- What follows the sequence with which a text starts, after its escape character. -/
def dropSequence? : Text → Option Text
  | [] => none
  | c :: r => if c = '[' then dropControl? r else if isShort c then some r else none

theorem length_lt_of_dropControl? {r rest : Text} (h : dropControl? r = some rest) :
    rest.length < r.length := by
  have hr := (List.dropWhile_suffix (l := r) isParameter).sublist.length_le
  have hi := (List.dropWhile_suffix (l := r.dropWhile isParameter) isIntermediate).sublist.length_le
  unfold dropControl? at h
  split at h
  · rename_i hd
    split at h
    · cases h
      rw [hd] at hi
      exact Nat.lt_of_lt_of_le (Nat.lt_succ_self _) (Nat.le_trans hi hr)
    · cases h
  · cases h

theorem length_lt_of_dropSequence? {r rest : Text} (h : dropSequence? r = some rest) :
    rest.length < r.length := by
  unfold dropSequence? at h
  split at h
  · cases h
  · split at h
    · exact Nat.lt_succ_of_lt (length_lt_of_dropControl? h)
    · split at h
      · cases h
        exact Nat.lt_succ_self _
      · cases h

/-- The text without its sequences, found from the left. -/
def strip : Text → Text
  | [] => []
  | c :: r =>
    if c = esc then
      match _h : dropSequence? r with
      | some rest => strip rest
      | none => c :: strip r
    else c :: strip r
termination_by t => t.length
decreasing_by
  · exact Nat.lt_succ_of_lt (length_lt_of_dropSequence? _h)
  · exact Nat.lt_succ_self _
  · exact Nat.lt_succ_self _

def clean (t : Text) : Text := (strip t).filter (· ≠ '\r')

/-- Longer unfinished sequences are noise. The length is that of their UTF-8 form. -/
def maxPending : Nat := 32

/-- The text up to its last escape character, and the text after that. -/
def lastEscape? : Text → Option (Text × Text)
  | [] => none
  | c :: r =>
    match lastEscape? r with
    | some (before, after) => some (c :: before, after)
    | none => if c = esc then some ([], r) else none

/-- A sequence may still come of the text after an escape character. -/
def mayContinue (after : Text) : Bool :=
  (dropSequence? after).isNone && Text.utf8Length (esc :: after) < maxPending &&
    !after.contains '\n'

/-- Cuts an unfinished sequence off the end. -/
def splitPending (t : Text) : Text × Text :=
  match lastEscape? t with
  | some (before, after) => if mayContinue after then (before, esc :: after) else (t, [])
  | none => (t, [])

end MudClient.Ansi
