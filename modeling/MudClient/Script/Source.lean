import MudClient.Script.Error
import MudClient.Script.Statement
import MudClient.Unicode.LetterCase
/-! Reading the statements of a script. Every reader takes the text that is left and returns what is
left after it. Braces are counted, so a block may span lines; a brace without a partner is the only
thing that is refused, and what is left at that brace tells its line. -/
namespace MudClient.Script

/-- Called after an opening brace: the text up to the brace that closes it, and what follows.
`depth` braces were opened since. -/
def closeBrace : Nat → Text → Option (Text × Text)
  | _, [] => none
  | depth, '{' :: r => (closeBrace (depth + 1) r).map fun (inner, rest) => ('{' :: inner, rest)
  | 0, '}' :: r => some ([], r)
  | depth + 1, '}' :: r => (closeBrace depth r).map fun (inner, rest) => ('}' :: inner, rest)
  | depth, c :: r => (closeBrace depth r).map fun (inner, rest) => (c :: inner, rest)

theorem length_lt_of_closeBrace {d : Nat} {t inner rest : Text}
    (h : closeBrace d t = some (inner, rest)) : rest.length < t.length := by
  fun_induction closeBrace d t generalizing inner rest with
  | case1 => cases h
  | case3 => simp only [Option.some.injEq, Prod.mk.injEq] at h; simp [h.2]
  | case2 _ _ ih | case4 _ _ ih | case5 _ _ _ _ _ _ ih =>
    obtain ⟨⟨_, _⟩, hc, h⟩ := Option.map_eq_some_iff.1 h
    cases h
    exact Nat.lt_succ_of_lt (ih hc)

/-- The code of a block, without the sign that makes it one. -/
def foreignSource (inner : Text) : Text :=
  Text.trim (match inner with
    | '+' :: code => code
    | _ => inner)

/-- What stands between braces as an argument: code if it starts with a plus sign. -/
def argumentOfBraces (inner : Text) : Argument :=
  if inner.head? = some '+' then .foreign (foreignSource inner) else .braced inner

/-- `+name` turns a flag on and `-name` turns it off; a name starts with a letter. -/
def flagOfWord? : Text → Option (Text × Bool)
  | sign :: c :: r =>
    if (sign == '+' || sign == '-') && Unicode.isAlphabetic c &&
        (c :: r).all (fun d => Unicode.isAlphanumeric d || d == '_') then
      some (c :: r, sign == '+')
    else none
  | _ => none

def isInlineSpace (c : Char) : Bool := Text.isBlank c && c != '\n'

theorem length_dropWhile_le (p : Char → Bool) (t : Text) : (t.dropWhile p).length ≤ t.length :=
  (List.dropWhile_suffix p).sublist.length_le

/-- What a function is called with, and what is left at the newline that ends it. `flags` were read
before. A brace without a partner gives the text from that brace on. -/
def arguments (flags : Flags) (t : Text) : Except Text (List Argument × Flags × Text) :=
  match _h : t.dropWhile isInlineSpace with
  | [] => .ok ([], flags, [])
  | '\n' :: r => .ok ([], flags, '\n' :: r)
  | '{' :: r =>
    match _hc : closeBrace 0 r with
    | none => .error ('{' :: r)
    | some (inner, rest) =>
      (arguments flags rest).map fun (args, end_) => (argumentOfBraces inner :: args, end_)
  | c :: r =>
    let w := c :: r.takeWhile fun c => !Text.isBlank c
    let rest := r.dropWhile fun c => !Text.isBlank c
    match flagOfWord? w with
    | some (name, value) => arguments (flags.insert name value) rest
    | none => (arguments flags rest).map fun (args, end_) => (.plain w :: args, end_)
termination_by t.length
decreasing_by
  · have := length_lt_of_closeBrace _hc
    have := length_dropWhile_le isInlineSpace t
    simp_all only [List.length_cons]
    omega
  all_goals
    have := length_dropWhile_le isInlineSpace t
    have := length_dropWhile_le (fun c => !Text.isBlank c) r
    simp_all only [List.length_cons]
    omega

theorem length_le_of_arguments {flags : Flags} {t : Text} {out : List Argument × Flags × Text}
    (h : arguments flags t = .ok out) : out.2.2.length ≤ t.length := by
  fun_induction arguments flags t generalizing out with
  | case1 => cases h; exact Nat.zero_le _
  | case2 flags t r ht =>
    cases h
    exact ht ▸ length_dropWhile_le isInlineSpace t
  | case3 => cases h
  | case4 flags t r ht inner rest hc ih =>
    have := length_lt_of_closeBrace hc
    have := length_dropWhile_le isInlineSpace t
    cases ha : arguments flags rest with
    | error _ => simp [ha, Except.map] at h
    | ok o =>
      have := ih ha
      simp only [ha, Except.map, Except.ok.injEq] at h
      subst h
      simp only [ht, List.length_cons] at *
      omega
  | case5 flags t c r _ _ ht _ rest =>
    rename_i ih
    have := ih h
    have := length_dropWhile_le isInlineSpace t
    have := length_dropWhile_le (fun c => !Text.isBlank c) r
    simp only [ht, List.length_cons, rest] at *
    omega
  | case6 flags t c r _ _ ht _ rest =>
    rename_i ih
    have := length_dropWhile_le isInlineSpace t
    have := length_dropWhile_le (fun c => !Text.isBlank c) r
    cases ha : arguments flags rest with
    | error _ => simp [ha, Except.map] at h
    | ok o =>
      have := ih ha
      simp only [ha, Except.map, Except.ok.injEq] at h
      subst h
      simp only [ht, List.length_cons, rest] at *
      omega

def implicitStatement (t : Text) : Statement × Text :=
  ⟨.implicit (Text.trimEnd (t.takeWhile (· != '\n'))), t.dropWhile (· != '\n')⟩

/-- A call, read after its number sign. -/
def callStatement (t : Text) : Except Text (Statement × Text) :=
  let name := t.takeWhile fun c => !Text.isBlank c
  (arguments ∅ (t.dropWhile fun c => !Text.isBlank c)).map fun (args, flags, rest) =>
    (⟨Unicode.lower name, args, flags⟩, rest)

/-- A block that stands alone, read after its brace. Other text may follow it on its line. -/
def blockStatement (t : Text) : Except Text (Statement × Text) :=
  match closeBrace 0 t with
  | none => .error ('{' :: t)
  | some (inner, rest) => .ok (.block (foreignSource inner), rest)

/-- The statement at the head of a text that does not start with white space. A doubled number sign
is a number sign to be sent. -/
def statement : Text → Except Text (Statement × Text)
  | '#' :: '#' :: r => .ok (implicitStatement ('#' :: r))
  | '#' :: c :: r =>
    if Text.isBlank c then .ok (implicitStatement ('#' :: c :: r)) else callStatement (c :: r)
  | '{' :: '+' :: r => blockStatement ('+' :: r)
  | t => .ok (implicitStatement t)

theorem length_implicitStatement {c : Char} (hc : c ≠ '\n') (r : Text) :
    (implicitStatement (c :: r)).2.length ≤ r.length := by
  simpa [implicitStatement, hc] using length_dropWhile_le (· != '\n') r

theorem length_le_of_callStatement {t : Text} {out : Statement × Text}
    (h : callStatement t = .ok out) : out.2.length ≤ t.length := by
  rw [callStatement] at h
  cases ha : arguments ∅ (t.dropWhile fun c => !Text.isBlank c) with
  | error _ => simp [ha, Except.map] at h
  | ok o =>
    have := length_le_of_arguments ha
    have := length_dropWhile_le (fun c => !Text.isBlank c) t
    simp only [ha, Except.map, Except.ok.injEq] at h
    subst h
    exact Nat.le_trans ‹_› ‹_›

theorem length_le_of_blockStatement {t : Text} {out : Statement × Text}
    (h : blockStatement t = .ok out) : out.2.length ≤ t.length := by
  rw [blockStatement] at h
  split at h
  · cases h
  · rename_i hc
    cases h
    exact Nat.le_of_lt (length_lt_of_closeBrace hc)

/-- A statement takes at least its first character. -/
theorem length_lt_of_statement {c : Char} {r : Text} {out : Statement × Text}
    (hc : c ≠ '\n') (h : statement (c :: r) = .ok out) : out.2.length < r.length + 1 := by
  unfold statement at h
  split at h
  · rename_i heq
    cases heq
    cases h
    have := length_implicitStatement (c := '#') (by decide)
    exact Nat.lt_succ_of_le (Nat.le_succ_of_le (this _))
  · rename_i heq
    cases heq
    split at h
    · cases h
      exact Nat.lt_succ_of_le (length_implicitStatement (by decide) _)
    · exact Nat.lt_succ_of_le (length_le_of_callStatement h)
  · rename_i heq
    cases heq
    exact Nat.lt_succ_of_le (length_le_of_blockStatement h)
  · cases h
    exact Nat.lt_succ_of_le (length_implicitStatement hc _)

/-- The statements of a text, or what is left of it at a brace without a partner. -/
def statements (t : Text) : Except Text (List Statement) :=
  match _h : t.dropWhile Text.isBlank with
  | [] => .ok []
  | c :: r =>
    match _hs : statement (c :: r) with
    | .error left => .error left
    | .ok (s, rest) => (statements rest).map (s :: ·)
termination_by t.length
decreasing_by
  have hc : c ≠ '\n' := by
    rintro rfl
    have := List.head?_dropWhile_not Text.isBlank t
    simp only [_h, List.head?_cons] at this
    exact absurd this (by decide)
  have := length_lt_of_statement hc _hs
  have := length_dropWhile_le Text.isBlank t
  simp_all only [List.length_cons]
  omega

/-- The line of `t` on which its end `left` starts, counted from one. -/
def lineOf (t left : Text) : Nat := 1 + (t.count '\n' - left.count '\n')

def split (t : Text) : Except ScriptError (List Statement) :=
  (statements t).mapError fun left => .unbalancedBrace (lineOf t left)

end MudClient.Script
