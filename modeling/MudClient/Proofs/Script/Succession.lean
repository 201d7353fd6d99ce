import MudClient.Proofs.Script.Piece
import MudClient.Proofs.Script.Refusal
/-! Scripts one after another. No statement looks beyond the newline at which it ends, so a script
that can be read is read alike whatever script follows it on the next line, and an error of the one
that follows is found where it was, further down by the lines before it. -/
namespace MudClient.Script

variable {flags flags' : Flags} {args : List Argument} {s : Statement} {t rest left : Text}

theorem split_eq (t : Text) :
    split t = (statements t).mapError fun left => .unbalancedBrace (lineOf t left) := rfl

/-! ### A newline and more behind a text -/

theorem dropWhile_append_newline {p : Char → Bool} (hp : p '\n' = false) (t u : Text) :
    (t ++ '\n' :: u).dropWhile p = t.dropWhile p ++ '\n' :: u := by
  rw [List.dropWhile_append]
  split
  · rename_i h
    rw [List.isEmpty_iff.1 h, List.dropWhile_cons_of_neg (by simp [hp]), List.nil_append]
  · rfl

theorem takeWhile_append_newline {p : Char → Bool} (hp : p '\n' = false) (t u : Text) :
    (t ++ '\n' :: u).takeWhile p = t.takeWhile p := by
  induction t with
  | nil => simp [hp]
  | cons c t ih =>
    rw [List.cons_append, List.takeWhile_cons, List.takeWhile_cons, ih]

theorem closeBrace_append_rest {d : Nat} {inner : Text} (h : closeBrace d t = some (inner, rest))
    (u : Text) : closeBrace d (t ++ u) = some (inner, rest ++ u) := by
  obtain ⟨rfl, hl⟩ := eq_of_closeBrace h
  rw [List.append_assoc, closeBrace_append hl, List.cons_append, closeBrace_close_zero]
  simp

theorem arguments_append_newline (h : arguments flags t = .ok (args, flags', rest)) (u : Text) :
    arguments flags (t ++ '\n' :: u) = .ok (args, flags', rest ++ '\n' :: u) := by
  have start (flags : Flags) (t : Text) : arguments flags (t ++ '\n' :: u) =
      arguments flags (t.dropWhile isInlineSpace ++ '\n' :: u) := by
    rw [← arguments_dropWhile, dropWhile_append_newline (by decide)]
  fun_induction arguments flags t generalizing args with
  | case1 flags t ht =>
    cases h
    rw [start, ht]
    exact arguments_newline _ u
  | case2 flags t r ht =>
    cases h
    rw [start, ht]
    exact arguments_newline _ _
  | case3 => cases h
  | case4 flags t r ht inner left hc ih =>
    obtain ⟨⟨more, _, _⟩, ha, h⟩ := map_eq_ok.1 h
    cases h
    rw [start, ht, List.cons_append, arguments_brace, closeBrace_append_rest hc]
    simp only [ih ha, Except.map]
  | case5 flags t c r hn hb ht =>
    rename_i name value hf ih
    have hc : Text.isBlank c = false := isBlank_of_dropWhile ht hn
    rw [start, ht, List.cons_append, arguments_word flags hc hb,
      takeWhile_append_newline (by decide), dropWhile_append_newline (by decide)]
    simp only [show flagOfWord? (c :: r.takeWhile isWordChar) = some (name, value) from hf]
    exact ih h
  | case6 flags t c r hn hb ht =>
    rename_i hf ih
    obtain ⟨⟨more, _, _⟩, ha, h⟩ := map_eq_ok.1 h
    cases h
    have hc : Text.isBlank c = false := isBlank_of_dropWhile ht hn
    rw [start, ht, List.cons_append, arguments_word flags hc hb,
      takeWhile_append_newline (by decide), dropWhile_append_newline (by decide)]
    simp only [show flagOfWord? (c :: r.takeWhile isWordChar) = none from hf]
    rw [show arguments flags (r.dropWhile isWordChar ++ '\n' :: u) = _ from ih ha]
    rfl

theorem implicitStatement_append_newline (t u : Text) : implicitStatement (t ++ '\n' :: u) =
    ((implicitStatement t).1, (implicitStatement t).2 ++ '\n' :: u) := by
  rw [implicitStatement, takeWhile_append_newline (by decide), dropWhile_append_newline (by decide)]
  rfl

theorem callStatement_append_newline (h : callStatement t = .ok (s, rest)) (u : Text) :
    callStatement (t ++ '\n' :: u) = .ok (s, rest ++ '\n' :: u) := by
  obtain ⟨⟨args, flags, left⟩, ha, h⟩ := map_eq_ok.1 h
  cases h
  rw [callStatement, takeWhile_append_newline (by decide), dropWhile_append_newline (by decide),
    arguments_append_newline ha]
  rfl

theorem blockStatement_append_newline (h : blockStatement t = .ok (s, rest)) (u : Text) :
    blockStatement (t ++ '\n' :: u) = .ok (s, rest ++ '\n' :: u) := by
  unfold blockStatement at h ⊢
  split at h
  · cases h
  · rename_i hc
    cases h
    rw [closeBrace_append_rest hc]

/-- A line that is sent as it stands: neither a number sign and more nor the sign of a block is at
its head. -/
structure IsPlainLine (t : Text) : Prop where
  hash : ∀ c r, t = '#' :: c :: r → Text.isBlank c
  block : ∀ r, t ≠ '{' :: '+' :: r

theorem IsPlainLine.statement_eq (h : IsPlainLine t) : statement t = .ok (implicitStatement t) := by
  unfold statement
  split
  · exact absurd (h.hash _ _ rfl) (by decide)
  · rw [if_pos (h.hash _ _ rfl)]
  · exact absurd rfl (h.block _)
  · rfl

/-- If there is only one character, the newline tells no more than the end of the text does. -/
theorem IsPlainLine.append_newline (h : IsPlainLine t) (u : Text) :
    IsPlainLine (t ++ '\n' :: u) := by
  match t, h with
  | [], _ => exact ⟨by simp, by simp⟩
  | [c], _ =>
    refine ⟨fun d r he => ?_, by simp⟩
    obtain ⟨-, rfl, -⟩ : c = '#' ∧ '\n' = d ∧ u = r := by simpa using he
    rfl
  | c :: d :: r, h =>
    refine ⟨fun d' r' he => ?_, fun r' he => ?_⟩
    · obtain ⟨rfl, rfl, -⟩ : c = '#' ∧ d = d' ∧ r ++ '\n' :: u = r' := by simpa using he
      exact h.hash d r rfl
    · obtain ⟨rfl, rfl, -⟩ : c = '{' ∧ d = '+' ∧ r ++ '\n' :: u = r' := by simpa using he
      exact h.block r rfl

theorem IsPlainLine.statement_append_newline (plain : IsPlainLine t)
    (h : Except.ok (ε := Text) (implicitStatement t) = .ok (s, rest)) (u : Text) :
    statement (t ++ '\n' :: u) = .ok (s, rest ++ '\n' :: u) := by
  rw [(plain.append_newline u).statement_eq, implicitStatement_append_newline, Except.ok.inj h]

theorem statement_append_newline (h : statement t = .ok (s, rest)) (u : Text) :
    statement (t ++ '\n' :: u) = .ok (s, rest ++ '\n' :: u) := by
  unfold statement at h
  split at h
  · rename_i r
    have sent : statement ('#' :: '#' :: r ++ '\n' :: u) =
        .ok (implicitStatement ('#' :: r ++ '\n' :: u)) := rfl
    rw [sent, implicitStatement_append_newline, Except.ok.inj h]
  · rename_i c r hc
    split at h
    · rename_i hb
      refine IsPlainLine.statement_append_newline ⟨fun d r' he => ?_, by simp⟩ h u
      cases he
      exact hb
    · rename_i hb
      rw [List.cons_append, List.cons_append, statement_hash hc (by simpa using hb)]
      exact callStatement_append_newline h u
  · exact blockStatement_append_newline h u
  · rename_i h1 h2 h3
    exact IsPlainLine.statement_append_newline ⟨fun c r he => (h2 c r he).elim, h3⟩ h u

theorem statements_append_of_blank (h : ∀ c ∈ t, Text.isBlank c) (u : Text) :
    statements (t ++ u) = statements u := by
  induction t with
  | nil => rfl
  | cons c t ih =>
    obtain ⟨hc, ht⟩ := List.forall_mem_cons.1 h
    rw [List.cons_append, statements_cons_blank hc, ih ht]

/-- The statements of a script that was read come first, and what follows it is read as it would be
alone. -/
theorem statements_append_newline {a : Text} {sa : List Statement} (h : statements a = .ok sa)
    (b : Text) : statements (a ++ '\n' :: b) = (statements b).map (sa ++ ·) := by
  fun_induction statements a generalizing sa with
  | case1 t ht =>
    cases h
    rw [statements_append_of_blank (List.dropWhile_eq_nil_iff.1 ht),
      statements_cons_blank (by decide)]
    cases statements b <;> rfl
  | case2 => cases h
  | case3 t c r ht s rest hs ih =>
    obtain ⟨more, hm, rfl⟩ := map_eq_ok.1 h
    have start : (t ++ '\n' :: b).dropWhile Text.isBlank = c :: (r ++ '\n' :: b) := by
      rw [List.dropWhile_append, ht]
      rfl
    rw [statements_cons start, ← List.cons_append, statement_append_newline hs]
    dsimp only
    rw [ih hm]
    cases statements b <;> rfl

theorem lineOf_append_newline {b : Text} (h : left <:+ b) (a : Text) :
    lineOf (a ++ '\n' :: b) left = lineOf b left + 1 + a.count '\n' := by
  have := h.sublist.count_le '\n'
  simp only [lineOf, List.count_append, List.count_cons_self]
  omega

/-- A script that can be read and any other script, each from a new line on: both are read as they
are alone. If the second one is refused, so is the whole, for the same brace on its line. -/
theorem split_append {a : Text} {sa : List Statement} (ha : split a = .ok sa) (b : Text) :
    (∀ sb, split b = .ok sb → split (a ++ '\n' :: b) = .ok (sa ++ sb)) ∧
      ∀ e, split b = .error e → ∃ line, e = .unbalancedBrace line ∧
        split (a ++ '\n' :: b) = .error (.unbalancedBrace (line + 1 + a.count '\n')) := by
  rw [split_eq (a ++ _), statements_append_newline (statements_of_split ha), split_eq b]
  cases hb : statements b with
  | ok sb =>
    refine ⟨fun sb' h => ?_, fun e h => nomatch h⟩
    cases h
    rfl
  | error left =>
    refine ⟨fun sb h => (nomatch h), fun e h => ?_⟩
    cases h
    refine ⟨lineOf b left, rfl, ?_⟩
    rw [← lineOf_append_newline (isUnclosed_of_statements hb).suffix]
    rfl

/-- An alias over several lines. -/
def severalLineAlias : Text := "#alias heal \x7b\n  cast \x7blight\x7d\n\x7d".toList

theorem split_append_severalLineAlias :
    split severalLineAlias = .ok [⟨"alias".toList,
      [.plain "heal".toList, .braced "\n  cast \x7blight\x7d\n".toList], ∅⟩] ∧
    split (severalLineAlias ++ '\n' :: "look".toList) = .ok [⟨"alias".toList,
      [.plain "heal".toList, .braced "\n  cast \x7blight\x7d\n".toList], ∅⟩,
      .implicit "look".toList] ∧
    split (severalLineAlias ++ '\n' :: "look\n#alias flee \x7bnorth".toList) =
      .error (.unbalancedBrace 5) := by
  have read : split severalLineAlias = .ok [⟨"alias".toList,
      [.plain "heal".toList, .braced "\n  cast \x7blight\x7d\n".toList], ∅⟩] := by
    decide +kernel
  have look : split "look".toList = .ok [.implicit "look".toList] := by decide +kernel
  have refused : split "look\n#alias flee \x7bnorth".toList = .error (.unbalancedBrace 2) := by
    decide +kernel
  obtain ⟨line, he, whole⟩ := (split_append read _).2 _ refused
  cases he
  exact ⟨read, (split_append read _).1 _ look, whole⟩

end MudClient.Script
