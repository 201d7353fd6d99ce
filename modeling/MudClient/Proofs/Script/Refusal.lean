import MudClient.Proofs.Script.Origin
/-! Why a script is refused. What is left behind a statement is the end of the text, and a script is
refused only at a brace that nothing closes. Words and lines may hold any braces, so the braces that
were counted are not those of the whole text; but a brace that stays open behind one of them stays
open in the text. -/
namespace MudClient.Script

variable {flags flags' : Flags} {args : List Argument} {s : Statement} {t rest left : Text}

/-- The end of a text from a brace on that nothing closes. -/
structure IsUnclosed (t left : Text) : Prop where
  suffix : left <:+ t
  brace : ∃ r, left = '{' :: r ∧ closeBrace 0 r = none

theorem IsUnclosed.of_suffix {r : Text} (h : IsUnclosed r left) (hr : r <:+ t) :
    IsUnclosed t left :=
  ⟨h.suffix.trans hr, h.brace⟩

theorem suffix_of_closeBrace {d : Nat} {inner : Text} (h : closeBrace d t = some (inner, rest)) :
    rest <:+ t := by
  rw [(eq_of_closeBrace h).1]
  exact (List.suffix_cons '}' rest).trans (List.suffix_append inner _)

theorem suffix_of_dropWhile {p : Char → Bool} {c : Char} {r : Text} (h : t.dropWhile p = c :: r) :
    c :: r <:+ t :=
  h ▸ List.dropWhile_suffix p

/-- What is left behind a word. -/
theorem suffix_of_word {p q : Char → Bool} {c : Char} {r : Text} (h : t.dropWhile p = c :: r) :
    r.dropWhile q <:+ t :=
  (List.dropWhile_suffix q).trans ((List.suffix_cons c r).trans (suffix_of_dropWhile h))

theorem suffix_of_arguments (h : arguments flags t = .ok (args, flags', rest)) : rest <:+ t := by
  fun_induction arguments flags t generalizing args with
  | case1 =>
    cases h
    exact List.nil_suffix
  | case2 flags t r ht =>
    cases h
    exact suffix_of_dropWhile ht
  | case3 => cases h
  | case4 flags t r ht inner left hc ih =>
    obtain ⟨⟨more, _, _⟩, ha, h⟩ := map_eq_ok.1 h
    cases h
    exact (ih ha).trans
      ((suffix_of_closeBrace hc).trans ((List.suffix_cons '{' r).trans (suffix_of_dropWhile ht)))
  | case5 flags t c r _ _ ht =>
    rename_i ih
    exact (ih h).trans (suffix_of_word ht)
  | case6 flags t c r _ _ ht =>
    rename_i ih
    obtain ⟨⟨more, _, _⟩, ha, h⟩ := map_eq_ok.1 h
    cases h
    exact (ih ha).trans (suffix_of_word ht)

theorem map_eq_error {ε α β : Type} {f : α → β} {x : Except ε α} {e : ε} :
    x.map f = .error e ↔ x = .error e := by
  cases x <;> simp [Except.map]

theorem isUnclosed_of_arguments (h : arguments flags t = .error left) : IsUnclosed t left := by
  fun_induction arguments flags t with
  | case1 | case2 => cases h
  | case3 flags t r ht hc =>
    cases h
    exact ⟨suffix_of_dropWhile ht, r, rfl, hc⟩
  | case4 flags t r ht inner left hc ih =>
    exact (ih (map_eq_error.1 h)).of_suffix
      ((suffix_of_closeBrace hc).trans ((List.suffix_cons '{' r).trans (suffix_of_dropWhile ht)))
  | case5 flags t c r _ _ ht =>
    rename_i ih
    exact (ih h).of_suffix (suffix_of_word ht)
  | case6 flags t c r _ _ ht =>
    rename_i ih
    exact (ih (map_eq_error.1 h)).of_suffix (suffix_of_word ht)

theorem suffix_of_statement (h : statement t = .ok (s, rest)) : rest <:+ t := by
  rcases statement_forms t with ⟨u, hu, he⟩ | ⟨c, r, rfl, -, -, he⟩ | ⟨r, rfl, he⟩
  · rw [he] at h
    cases h
    rcases hu with rfl | rfl
    · exact List.dropWhile_suffix _
    · exact (List.dropWhile_suffix _).trans (List.suffix_cons '#' u)
  · rw [he, callStatement] at h
    obtain ⟨⟨args, flags, left⟩, ha, h⟩ := map_eq_ok.1 h
    cases h
    exact (suffix_of_arguments ha).trans
      ((List.dropWhile_suffix _).trans (List.suffix_cons '#' (c :: r)))
  · rw [he, blockStatement] at h
    split at h
    · cases h
    · rename_i hc
      cases h
      exact (suffix_of_closeBrace hc).trans (List.suffix_cons '{' _)

theorem isUnclosed_of_statement (h : statement t = .error left) : IsUnclosed t left := by
  rcases statement_forms t with ⟨u, -, he⟩ | ⟨c, r, rfl, -, -, he⟩ | ⟨r, rfl, he⟩
  · rw [he] at h
    cases h
  · rw [he, callStatement, map_eq_error] at h
    exact (isUnclosed_of_arguments h).of_suffix
      ((List.dropWhile_suffix _).trans (List.suffix_cons '#' (c :: r)))
  · rw [he, blockStatement] at h
    split at h
    · rename_i hc
      cases h
      exact ⟨List.suffix_rfl, '+' :: r, rfl, hc⟩
    · cases h

/-- A script is refused at a brace that nothing closes. -/
theorem isUnclosed_of_statements (h : statements t = .error left) : IsUnclosed t left := by
  fun_induction statements t with
  | case1 => cases h
  | case2 t c r ht left hs =>
    cases h
    exact (isUnclosed_of_statement hs).of_suffix (suffix_of_dropWhile ht)
  | case3 t c r ht s rest hs ih =>
    exact (ih (map_eq_error.1 h)).of_suffix
      ((suffix_of_statement hs).trans (suffix_of_dropWhile ht))

/-! ### Braces that stay open -/

/-- The closing brace is missing if no beginning closes more braces than were open. -/
theorem closeBrace_eq_none_iff {d : Nat} :
    closeBrace d t = none ↔ ∀ p, p <+: t → p.count '}' ≤ d + p.count '{' := by
  have open_ : closeBrace d t = none ↔ ∃ k, level d t = some k := by
    induction d, t using braceInduction with
    | nil d => simp [closeBrace]
    | opens d r ih => simpa [closeBrace_open] using ih
    | stray r => simp [closeBrace_close_zero]
    | closes d r ih => simpa [closeBrace_close_succ] using ih
    | other c d r hc ih => simpa [closeBrace_other hc, level_other hc] using ih
  simp only [open_, level_eq_some_iff]
  constructor
  · rintro ⟨k, never, -⟩
    exact never
  · intro never
    have := never t List.prefix_rfl
    exact ⟨d + t.count '{' - t.count '}', never, by omega⟩

/-- However far it is read, from its first character on it opens more braces than it closes. -/
def StaysOpen (t : Text) : Prop := ∀ p, p <+: t → p ≠ [] → p.count '}' < p.count '{'

theorem staysOpen_iff {r : Text} : StaysOpen ('{' :: r) ↔ closeBrace 0 r = none := by
  rw [closeBrace_eq_none_iff]
  constructor
  · intro h p hp
    have := h ('{' :: p) ((List.prefix_cons_inj '{').2 hp) (List.cons_ne_nil _ _)
    simp only [List.count_cons, beq_iff_eq, Char.reduceEq, if_true, if_false] at this
    omega
  · intro h p hp ne_nil
    obtain ⟨q, rfl, hq⟩ := (List.prefix_cons_iff.1 hp).resolve_left ne_nil
    have := h q hq
    simp only [List.count_cons, beq_iff_eq, Char.reduceEq, if_true, if_false]
    omega

/-- No end of a balanced text stays open. -/
theorem Balanced.not_staysOpen (h : Balanced t) (hl : left <:+ t) (ne_nil : left ≠ []) :
    ¬ StaysOpen left := by
  intro staysOpen
  obtain ⟨before, rfl⟩ := hl
  obtain ⟨never, total⟩ := balanced_iff.1 h
  have front := never before (List.prefix_append before left)
  have end_ := staysOpen left List.prefix_rfl ne_nil
  simp only [List.count_append] at total
  omega

/-- On this line of the text, counted from one, there is an opening brace that stays open. -/
def IsOpenOn (t : Text) (line : Nat) : Prop :=
  ∃ before after, t = before ++ '{' :: after ∧ line = 1 + before.count '\n' ∧
    StaysOpen ('{' :: after)

theorem IsUnclosed.isOpenOn (h : IsUnclosed t left) : IsOpenOn t (lineOf t left) := by
  obtain ⟨⟨before, rfl⟩, r, rfl, hc⟩ := h
  exact ⟨before, r, rfl, by simp [lineOf], staysOpen_iff.2 hc⟩

/-- Each text is read as statements or refused for a brace that stays open, on the line of that
brace; so a balanced text is always read. -/
theorem split_ok_or_isOpenOn (t : Text) :
    (Balanced t → ∃ ss, split t = .ok ss) ∧
      ((∃ ss, split t = .ok ss) ∨
        ∃ line, split t = .error (.unbalancedBrace line) ∧ IsOpenOn t line) := by
  unfold split
  cases hs : statements t with
  | ok ss => exact ⟨fun _ => ⟨ss, rfl⟩, .inl ⟨ss, rfl⟩⟩
  | error left =>
    have unclosed := isUnclosed_of_statements hs
    refine ⟨fun balanced => ?_, .inr ⟨lineOf t left, rfl, unclosed.isOpenOn⟩⟩
    obtain ⟨r, rfl, hc⟩ := unclosed.brace
    exact absurd (staysOpen_iff.2 hc)
      (balanced.not_staysOpen unclosed.suffix (List.cons_ne_nil _ _))

/-- A line to be sent and the words of a call have braces without a partner; the brace of the last
call is never closed. -/
def strayBraces : Text :=
  "say \x7d\x7b\n#alias go \x7ba\x7d b\x7d c\x7b\n#alias flee \x7brun \x7bsouth\x7d\nlook".toList

/-- Words that split a pair of braces are read, and the stray braces before it do not hide the one
that stays open. -/
theorem split_ok_or_isOpenOn_stray :
    Balanced "#send a\x7bb c\x7dd".toList ∧ (∃ ss, split "#send a\x7bb c\x7dd".toList = .ok ss) ∧
      split strayBraces = .error (.unbalancedBrace 3) ∧ IsOpenOn strayBraces 3 := by
  have balanced : Balanced "#send a\x7bb c\x7dd".toList := by decide
  have refused : split strayBraces = .error (.unbalancedBrace 3) := by decide +kernel
  refine ⟨balanced, (split_ok_or_isOpenOn _).1 balanced, refused, ?_⟩
  rcases (split_ok_or_isOpenOn strayBraces).2 with ⟨ss, h⟩ | ⟨line, h, isOpenOn⟩
  · cases refused.symm.trans h
  · cases refused.symm.trans h
    exact isOpenOn

end MudClient.Script
