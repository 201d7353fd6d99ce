import MudClient.Proofs.Script.Piece
/-! The statements of a configuration. One that starts with a line declares a tame text; one that
starts anywhere else declares nothing, since its name has a brace in it or nothing stands behind
it. -/
namespace MudClient.Script

open Piece
open Separator (Escaped escaped_of_not_mem)

variable {tame : Prop} {p : Piece} {ps : List Piece} {s : Statement} {rest : Text}

/-- The first character of pieces within a line. -/
theorem spell_eq_cons {c : Char} {r : Text} (h : IsJoined tame ps) (hi : IsInner ps)
    (hc : spell ps = c :: r) : Text.isBlank c ∨
      (∃ qs, ps = .loose c :: qs ∧ r = spell qs) ∨
      (∃ inner qs, ps = .closed ('{' :: inner ++ ['}']) :: qs ∧ Balanced inner ∧
        c :: r = '{' :: (inner ++ '}' :: spell qs)) ∨ c ≠ '#' ∧ c ≠ '{' := by
  match ps, h, hi, hc with
  | .space :: qs, _, _, hc | .newline :: qs, _, _, hc =>
    cases hc
    exact .inl rfl
  | .head .. :: qs, _, hi, _ => exact absurd (hi _ rfl) (by simp [isStart])
  | .lead .. :: qs, _, hi, _ => exact absurd (hi _ rfl) (by simp [isStart])
  | .loose d :: qs, _, _, hc =>
    cases hc
    exact .inr (.inl ⟨qs, rfl, rfl⟩)
  | .closed t :: qs, h, _, hc =>
    rw [spell_cons, Piece.text] at hc
    cases h.1 with
    | @block inner balanced line =>
      exact .inr (.inr (.inl ⟨inner, qs, rfl, balanced, by rw [← hc]; simp⟩))
    | @word d w plain hh =>
      cases hc
      exact .inr (.inr (.inr ⟨hh, (isBrace_eq_false.1 (plain _ List.mem_cons_self).2).1⟩))

theorem mem_lower {t : Text} (h : '}' ∈ t) : '}' ∈ Unicode.lower t := by
  have : '}' ∈ (Unicode.lower t).filter isBrace := by
    rw [Unicode.filter_lower]
    exact List.mem_filter.2 ⟨h, rfl⟩
  exact (List.mem_filter.1 this).1

/-- A name with a brace is no function. -/
theorem not_mem_of_find? {name : Text} {f : Builtin}
    (h : Registry.builtins.find? name = some f) : '}' ∉ name := by
  intro hm
  have hl := mem_lower hm
  have names : ∀ e ∈ Registry.builtins.functions.entries, '}' ∉ e.1 := by decide
  obtain ⟨e, he, -⟩ := Option.map_eq_some_iff.1 h
  have hn : e.1 = Unicode.lower name := by simpa using List.find?_some he
  exact names e (List.mem_of_find?_eq_some he) (hn ▸ hl)

/-- A call within a line has a brace in its name, or nothing stands behind it. -/
theorem callStatement_inner (h : IsJoined tame (.loose '#' :: ps))
    (hs : callStatement (spell ps) = .ok (s, rest)) :
    (s.Declares → s.arguments = []) ∧ ∃ qs, qs <:+ ps ∧ rest = spell qs := by
  obtain ⟨qs, hq, hqi, hdrop, hname⟩ := dropWhile_word_spell h
  have word : (fun c => !Text.isBlank c) = isWordChar := rfl
  rw [callStatement, word, hdrop] at hs
  obtain ⟨⟨args, flags, left⟩, ha, hs⟩ := map_eq_ok.1 hs
  cases hs
  constructor
  · intro hd
    obtain ⟨f, hf, -⟩ := hd
    rcases hname with hname | hname
    · cases qs with
      | nil =>
        rw [spell_nil, arguments_nil] at ha
        cases ha
        rfl
      | cons q qs =>
        rw [hname q rfl, spell_cons, Piece.text, List.singleton_append, arguments_newline] at ha
        cases ha
        rfl
    · have brace : '}' ∈ (spell ps).takeWhile isWordChar := by simpa using hname
      exact absurd (mem_lower brace) (not_mem_of_find? hf)
  · obtain ⟨rs, hr, hrest, -⟩ := arguments_spell (h.2.2.of_suffix hq) hqi ha
    exact ⟨rs, hr.trans hq, hrest⟩

/-- A block within a line ends before a piece. -/
theorem blockStatement_inner {t : Text} (h : IsJoined tame ps) (hi : IsInner ps)
    (ht : spell ps = '{' :: t) (hs : blockStatement t = .ok (s, rest)) :
    ¬ s.Declares ∧ ∃ qs, qs <:+ ps ∧ rest = spell qs := by
  rw [blockStatement] at hs
  split at hs
  · cases hs
  · rename_i inner left hc
    cases hs
    refine ⟨Statement.not_declares_block _, ?_⟩
    rcases spell_eq_cons h hi ht with hb | ⟨qs, rfl, rfl⟩ | ⟨body, qs, rfl, hbody, hr⟩ | ⟨-, hb⟩
    · exact absurd hb (by decide)
    · obtain ⟨rs, hrs, hrest⟩ := closeBrace_spell h.2.2 hc
      exact ⟨rs, (suffix_of_cons hrs).trans (List.suffix_cons _ _), hrest⟩
    · rw [(List.cons.inj hr).2, closeBrace_of_balanced hbody] at hc
      cases hc
      exact ⟨qs, List.suffix_cons _ _, rfl⟩
    · exact absurd rfl hb

/-- Within a line no statement declares anything, unless it is one without texts. -/
theorem statement_inner (h : IsJoined tame ps) (hi : IsInner ps)
    (hs : statement (spell ps) = .ok (s, rest)) :
    (s.Declares → s.arguments = []) ∧ ∃ qs, qs <:+ ps ∧ rest = spell qs := by
  -- Only a character that stands for itself is a hash in the middle of a line.
  have hash {r : Text} (ht : spell ps = '#' :: r) : ∃ qs, ps = .loose '#' :: qs ∧ r = spell qs := by
    rcases spell_eq_cons h hi ht with hb | hq | ⟨_, _, _, _, hc⟩ | ⟨hc, -⟩
    · exact absurd hb (by decide)
    · exact hq
    · cases hc
    · exact absurd rfl hc
  rcases statement_forms (spell ps) with ⟨u, hu, he⟩ | ⟨c, r, ht, -, -, he⟩ | ⟨r, ht, he⟩
  · rw [he] at hs
    cases hs
    refine ⟨fun hd => absurd hd (Statement.not_declares_implicit _), ?_⟩
    rcases hu with rfl | hu
    · exact dropWhile_line_spell h hi
    · obtain ⟨qs, rfl, rfl⟩ := hash hu
      obtain ⟨rs, hr, hd⟩ := dropWhile_line_spell h.2.2 (h.isInner (by simp))
      exact ⟨rs, hr.trans (List.suffix_cons _ _), hd⟩
  · obtain ⟨qs, rfl, hr⟩ := hash ht
    rw [he, hr] at hs
    obtain ⟨hd, rs, hrs, hrest⟩ := callStatement_inner h hs
    exact ⟨hd, rs, hrs.trans (List.suffix_cons _ _), hrest⟩
  · rw [he] at hs
    obtain ⟨hd, rest⟩ := blockStatement_inner h hi ht hs
    exact ⟨fun h => absurd h hd, rest⟩

/-- Behind the function of a line stand its arguments. -/
theorem exists_arguments_of_call {name more : Text} (hn : IsName name)
    (hs : statement ('#' :: (name ++ ' ' :: more)) = .ok (s, rest)) :
    ∃ flags, arguments ∅ more = .ok (s.arguments, flags, rest) := by
  rw [statement_call (fun c hc => (hn.plain c hc).1) hn.ne_nil hn.head
    (startsBlank_cons rfl more), arguments_space ∅ (by decide)] at hs
  obtain ⟨⟨args, flags, left⟩, ha, hs⟩ := map_eq_ok.1 hs
  cases hs
  exact ⟨flags, ha⟩

theorem escaped_of_argumentOfWritten {t word : Text} (h : argumentOfWritten t = .plain word) :
    Escaped word := by
  unfold argumentOfWritten at h
  split at h
  · exact absurd h (argumentOfBraces_ne_plain t word)
  · rename_i hn
    cases h
    have plain := (needsBraces_eq_false.1 (by simpa using hn)).1
    exact escaped_of_not_mem fun hm => (plain _ hm).2.2 rfl

/-- A line calls a function with a block or with a word whose semicolons are escaped. -/
theorem statement_start (h : IsJoined tame (p :: ps)) (hp : p.isStart)
    (hs : statement (spell (p :: ps)) = .ok (s, rest)) :
    (∀ a ∈ s.arguments, a.IsRead) ∧
      (∀ word, s.arguments.head? = some (.plain word) → Escaped word) ∧
      ∃ qs, qs <:+ ps ∧ rest = spell qs ∧ ∀ q ∈ qs.head?, q = .newline := by
  cases p with
  | space | newline | closed | loose => cases hp
  | head name subject =>
    have line : spell (.head name subject :: ps) =
        '#' :: (name ++ ' ' :: ((Argument.braced subject).format ++ spell ps)) := by
      simp [Piece.text]
    rw [line] at hs
    obtain ⟨flags, ha⟩ := exists_arguments_of_call h.1.1 hs
    have read := isRead_of_arguments ha
    rw [arguments_written ∅ h.1.2 (startsBlank_spell h.2.1)] at ha
    obtain ⟨⟨args, e⟩, hm, he⟩ := map_eq_ok.1 ha
    obtain ⟨hargs, rfl⟩ := Prod.mk.inj he
    refine ⟨read, fun word hw => ?_, arguments_spell h.2.2 (h.isInner (by simp)) hm⟩
    rw [← hargs, List.head?_cons] at hw
    exact escaped_of_argumentOfWritten (Option.some.inj hw)
  | lead name start =>
    have line : spell (.lead name start :: ps) =
        '#' :: (name ++ ' ' :: '{' :: (start ++ spell ps)) := by
      simp [Piece.text]
    rw [line] at hs
    obtain ⟨flags, ha⟩ := exists_arguments_of_call h.1.1 hs
    have read := isRead_of_arguments ha
    obtain ⟨inner, left, more, hc, hm, hargs⟩ := exists_of_arguments_brace ha
    -- The brace that is closed is open behind the plain start of the text, too.
    have open_ : level 0 start = some 0 := balanced_of_forall h.1.2
    rw [closeBrace_append open_] at hc
    obtain ⟨⟨body, left'⟩, hc, he⟩ := Option.map_eq_some_iff.1 hc
    cases he
    obtain ⟨qs, hq, rfl⟩ := closeBrace_spell h.2.2 hc
    refine ⟨read, fun word hw => ?_, ?_⟩
    · rw [hargs, List.head?_cons] at hw
      exact absurd (Option.some.inj hw) (argumentOfBraces_ne_plain _ word)
    · obtain ⟨rs, hr, hrest⟩ := arguments_spell (h.2.2.of_suffix (suffix_of_cons hq))
        (IsInner.of_loose h.2.2 hq) hm
      exact ⟨rs, hr.trans (suffix_of_cons hq), hrest⟩

end MudClient.Script
