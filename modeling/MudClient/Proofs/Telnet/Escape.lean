import MudClient.Proofs.Telnet.Sequence
/-! Taking sequences out of a text that comes in pieces. What is held back at the end of a piece is
the one sequence that could be cut there, so cleaning piece by piece is cleaning the whole, as long
as no unfinished sequence is too long to be held back. -/
namespace MudClient.Ansi

theorem escape_cases (t : Text) :
    esc ∉ t ∨ ∃ before after, t = before ++ esc :: after ∧ esc ∉ after := by
  induction t with
  | nil => exact .inl (List.not_mem_nil)
  | cons c r ih =>
    rcases ih with hr | ⟨before, after, rfl, ha⟩
    · by_cases hc : c = esc
      · exact .inr ⟨[], r, by rw [hc]; rfl, hr⟩
      · exact .inl (by simp [Ne.symm hc, hr])
    · exact .inr ⟨c :: before, after, rfl, ha⟩

theorem lastEscape?_of_not_mem {t : Text} (h : esc ∉ t) : lastEscape? t = none := by
  induction t with
  | nil => rfl
  | cons c r ih =>
    obtain ⟨hc, hr⟩ := not_or.1 (mt List.mem_cons.2 h)
    rw [lastEscape?, ih hr]
    simp [Ne.symm hc]

theorem lastEscape?_append {after : Text} (before : Text) (h : esc ∉ after) :
    lastEscape? (before ++ esc :: after) = some (before, after) := by
  induction before with
  | nil => simp [lastEscape?, lastEscape?_of_not_mem h]
  | cons c r ih => simp [lastEscape?, ih]

theorem splitPending_of_not_mem {t : Text} (h : esc ∉ t) : splitPending t = (t, []) := by
  simp [splitPending, lastEscape?_of_not_mem h]

theorem splitPending_append_escape {after : Text} (before : Text) (h : esc ∉ after) :
    splitPending (before ++ esc :: after) =
      if mayContinue after then (before, esc :: after) else (before ++ esc :: after, []) := by
  simp [splitPending, lastEscape?_append before h]

theorem splitPending_fst_append_snd (t : Text) : (splitPending t).1 ++ (splitPending t).2 = t := by
  rcases escape_cases t with h | ⟨before, after, rfl, h⟩
  · simp [splitPending_of_not_mem h]
  · rw [splitPending_append_escape before h]
    split <;> simp

/-- Where the text ends in an escape character or later, what precedes it does not matter. -/
theorem splitPending_append_of_mem (before : Text) {t : Text} (h : esc ∈ t) :
    splitPending (before ++ t) = (before ++ (splitPending t).1, (splitPending t).2) := by
  rcases escape_cases t with hn | ⟨left, after, rfl, ha⟩
  · exact absurd h hn
  · rw [splitPending_append_escape left ha, ← List.append_assoc,
      splitPending_append_escape (before ++ left) ha]
    split <;> simp

theorem suffix_of_dropSequence? {r rest : Text} (h : dropSequence? r = some rest) :
    rest <:+ r := by
  obtain ⟨s, -, rfl⟩ := dropSequence?_eq_some.1 h
  exact List.suffix_append s rest

/-- No sequence begins in the first text and ends in the second. -/
def IsApart (a b : Text) : Prop := ∀ before after, a = before ++ esc :: after →
  dropSequence? after = none → dropSequence? (after ++ b) = none

theorem IsApart.of_append {a b more : Text} (h : IsApart a (b ++ more)) : IsApart a b := by
  intro before after ha hd
  cases hr : dropSequence? (after ++ b) with
  | none => rfl
  | some rest =>
    have := h before after ha hd
    rw [← List.append_assoc, dropSequence?_append more hr] at this
    cases this

theorem strip_append {a b : Text} (h : IsApart a b) : strip (a ++ b) = strip a ++ strip b := by
  fun_induction strip a with
  | case1 => rfl
  | case2 r rest hd ih =>
    rw [List.cons_append, strip, if_pos rfl]
    split
    · rename_i rest' hd'
      rw [dropSequence?_append b hd] at hd'
      cases hd'
      apply ih
      intro before after ha
      obtain ⟨pre, hpre⟩ := suffix_of_dropSequence? hd
      exact h (esc :: (pre ++ before)) after (by rw [← hpre, ha]; simp)
    · rename_i hd'
      rw [dropSequence?_append b hd] at hd'
      cases hd'
  | case3 r hd ih =>
    rw [List.cons_append, strip, if_pos rfl]
    split
    · rename_i rest' hd'
      rw [h [] r rfl hd] at hd'
      cases hd'
    · rw [ih fun before after ha => h (esc :: before) after (by rw [ha]; rfl)]
      rfl
  | case4 c r hc ih =>
    rw [List.cons_append, strip, if_neg hc,
      ih fun before after ha => h (c :: before) after (by rw [ha]; rfl)]
    rfl

/-- Every run of an opened control sequence is short enough to be held back. -/
def ShortRuns (t : Text) : Prop :=
  ∀ before params inters after, t = before ++ esc :: '[' :: (params ++ inters) ++ after →
    (∀ c ∈ params, isParameter c) → (∀ c ∈ inters, isIntermediate c) →
      Text.utf8Length (esc :: '[' :: (params ++ inters)) < maxPending

theorem ShortRuns.of_append {a b : Text} (h : ShortRuns (a ++ b)) : ShortRuns a := by
  rintro before params inters after rfl hp hi
  exact h before params inters (after ++ b) (by simp) hp hi

theorem utf8Length_append (a b : Text) :
    Text.utf8Length (a ++ b) = Text.utf8Length a + Text.utf8Length b := by
  induction a with
  | nil => simp [Text.utf8Length]
  | cons c r ih => simp [Text.utf8Length, ih, Nat.add_assoc]

theorem utf8Length_pos {t : Text} (h : t ≠ []) : 0 < Text.utf8Length t := by
  cases t with
  | nil => exact absurd rfl h
  | cons c r => exact Nat.add_pos_left c.utf8Size_pos _

theorem utf8Size_of_le {c : Char} (h : c.toNat ≤ 0x7E) : c.utf8Size = 1 :=
  Char.utf8Size_eq_one_iff.2 (UInt32.le_iff_toNat_le.2 (Nat.le_trans h (by decide)))

/-- Every sequence is short enough to be held back until it is complete. -/
def ShortSequences (t : Text) : Prop := ∀ s, IsSequence s → s <:+: t → Text.utf8Length s ≤ maxPending

theorem ShortRuns.shortSequences {t : Text} (h : ShortRuns t) : ShortSequences t := by
  rintro s hs ⟨before, after, rfl⟩
  cases hs with
  | @control params inters final hp hi hf =>
    have run := h before params inters (final :: after) (by simp) hp hi
    have one := utf8Size_of_le (isFinal_iff.1 hf).2
    simp only [Text.utf8Length, utf8Length_append] at run ⊢
    omega
  | @short c hc =>
    have one := utf8Size_of_le (c := c) (by have := isShort_iff.1 hc; omega)
    simp only [Text.utf8Length, one]
    decide

theorem shortRuns_of_utf8Length {t : Text} (h : Text.utf8Length t < maxPending) : ShortRuns t := by
  rintro before params inters after rfl - -
  simp only [utf8Length_append] at h
  omega

theorem mayContinue_eq_true {r : Text} : mayContinue r = true ↔
    dropSequence? r = none ∧ Text.utf8Length (esc :: r) < maxPending ∧ '\n' ∉ r := by
  simp [mayContinue, and_assoc]

theorem mayContinue_of_append {r more : Text} (h : mayContinue (r ++ more) = true) :
    mayContinue r = true := by
  obtain ⟨hd, hl, hn⟩ := mayContinue_eq_true.1 h
  refine mayContinue_eq_true.2 ⟨?_, ?_, fun hm => hn (List.mem_append_left more hm)⟩
  · cases hr : dropSequence? r with
    | none => rfl
    | some rest => simp [dropSequence?_append more hr] at hd
  · rw [← List.cons_append, utf8Length_append] at hl
    omega

theorem splitPending_append (t more : Text) : splitPending (t ++ more) =
    ((splitPending t).1 ++ (splitPending ((splitPending t).2 ++ more)).1,
      (splitPending ((splitPending t).2 ++ more)).2) := by
  by_cases hm : esc ∈ more
  · have held : splitPending ((splitPending t).1 ++ ((splitPending t).2 ++ more)) = _ :=
      splitPending_append_of_mem _ (List.mem_append_right _ hm)
    rwa [← List.append_assoc, splitPending_fst_append_snd] at held
  · rcases escape_cases t with h | ⟨before, after, rfl, h⟩
    · have hw : esc ∉ t ++ more := by simp [h, hm]
      simp [splitPending_of_not_mem h, splitPending_of_not_mem hm, splitPending_of_not_mem hw]
    · have ha : esc ∉ after ++ more := by simp [h, hm]
      rw [List.append_assoc, List.cons_append, splitPending_append_escape before ha,
        splitPending_append_escape before h]
      cases hc : mayContinue after with
      | true =>
        have whole := splitPending_append_escape [] ha
        simp only [List.nil_append] at whole
        simp only [if_true, List.cons_append, whole]
        split <;> simp
      | false =>
        have hw : mayContinue (after ++ more) = false := by
          cases hw : mayContinue (after ++ more) with
          | true => rw [← hc, mayContinue_of_append hw]
          | false => rfl
        simp [hw, splitPending_of_not_mem hm]

/-- What is held back is nothing, or it begins with an escape character. -/
theorem splitPending_snd_cases (t : Text) : (splitPending t).2 = [] ∧ (splitPending t).1 = t ∨
    ∃ after, (splitPending t).2 = esc :: after := by
  rcases escape_cases t with h | ⟨before, after, rfl, h⟩
  · exact .inl (by simp [splitPending_of_not_mem h])
  · rw [splitPending_append_escape before h]
    split
    · exact .inr ⟨after, rfl⟩
    · exact .inl ⟨rfl, rfl⟩

/-- No sequence reaches from the text that is handed out into what comes later. -/
theorem ShortSequences.isApart {t more : Text} (h : ShortSequences (t ++ more)) :
    IsApart (splitPending t).1 (splitPending ((splitPending t).2 ++ more)).1 := by
  intro before after ht hd
  rcases splitPending_snd_cases t with ⟨hp, hw⟩ | ⟨held, hp⟩
  · -- Nothing is held back, so what is open at the end would become too long a sequence.
    rw [hw] at ht
    rw [hp, List.nil_append]
    cases hs : dropSequence? (after ++ (splitPending more).1) with
    | none => rfl
    | some rest =>
      obtain ⟨u, hne, hu, hm⟩ := exists_of_dropSequence?_append hd hs
      have later : more = u ++ (rest ++ (splitPending more).2) := by
        rw [← List.append_assoc, ← hm, splitPending_fst_append_snd]
      have hl := h _ hu ⟨before, rest ++ (splitPending more).2, by
        conv => rhs; rw [ht, later]
        simp⟩
      have hc : mayContinue after = true := by
        refine mayContinue_eq_true.2 ⟨hd, ?_, fun hn => ?_⟩
        · have := utf8Length_pos hne
          simp only [← List.cons_append, utf8Length_append] at hl
          omega
        · exact hu.not_mem (c := '\n') (by decide) (List.mem_append_left u hn)
      have hesc : esc ∉ after := fun hm =>
        hu.not_mem (c := esc) (by decide) (List.mem_append_left u hm)
      rw [ht, splitPending_append_escape before hesc, if_pos hc] at hp
      cases hp
  · have hf := splitPending_fst_append_snd ((splitPending t).2 ++ more)
    cases hr : (splitPending ((splitPending t).2 ++ more)).1 with
    | nil => rwa [List.append_nil]
    | cons c r =>
      rw [hr, hp] at hf
      cases (List.cons.inj hf).1
      exact dropSequence?_append_escape hd r

theorem IsApart.clean_append {a b : Text} (h : IsApart a b) : clean (a ++ b) = clean a ++ clean b := by
  rw [clean, clean, clean, strip_append h, List.filter_append]

end MudClient.Ansi
