import Mathlib.Data.List.Infix
import MudClient.Proofs.Telnet.Escape
/-! What cleaning leaves. Carriage returns never come through. A sequence does exactly if what stood
inside it was taken out: sequences are looked for once, and carriage returns afterwards. -/
namespace MudClient.Ansi

/-- No carriage return, and no sequence anywhere. -/
def IsClean (t : Text) : Prop := '\r' ∉ t ∧ ∀ s, IsSequence s → ¬ s <:+: t

/-- An escape character that begins no sequence still begins none when what follows it is clean. -/
def IsSettled (t : Text) : Prop :=
  ∀ after, esc :: after <:+ t → dropSequence? after = none → dropSequence? (clean after) = none

instance (t : Text) : Decidable (IsSettled t) :=
  decidable_of_iff (∀ u ∈ t.tails, u.head? = some esc → dropSequence? u.tail = none →
      dropSequence? (clean u.tail) = none) <| by
    constructor
    · intro h after ha
      exact h _ (List.mem_tails _ _ |>.2 ha) rfl
    · intro h u hu he
      obtain ⟨after, rfl⟩ := List.head?_eq_some_iff.1 he
      exact h after ((List.mem_tails _ _).1 hu)

theorem return_not_mem_clean (t : Text) : '\r' ∉ clean t := by
  simp [clean]

theorem clean_of_sequence {r rest : Text} (h : dropSequence? r = some rest) :
    clean (esc :: r) = clean rest := by
  rw [clean, strip, if_pos rfl]
  split
  · rename_i left hl
    cases h.symm.trans hl
    rfl
  · rename_i hn
    cases h.symm.trans hn

theorem clean_of_escape {r : Text} (h : dropSequence? r = none) :
    clean (esc :: r) = esc :: clean r := by
  rw [clean, strip, if_pos rfl]
  split
  · rename_i left hl
    cases h.symm.trans hl
  · rfl

theorem clean_cons {c : Char} (hc : c ≠ esc) (r : Text) :
    clean (c :: r) = if c = '\r' then clean r else c :: clean r := by
  rw [clean, strip, if_neg hc]
  by_cases hr : c = '\r' <;> simp [clean, hr]

/-- Text that can be printed is left as it is. -/
theorem clean_append_of_forall {t : Text} (h : ∀ c ∈ t, 0x20 ≤ c.toNat) (r : Text) :
    clean (t ++ r) = t ++ clean r := by
  induction t with
  | nil => rfl
  | cons c t ih =>
    obtain ⟨hc, ht⟩ := List.forall_mem_cons.1 h
    have escape : c ≠ esc := by
      rintro rfl
      exact absurd hc (by decide)
    have return_ : c ≠ '\r' := by
      rintro rfl
      exact absurd hc (by decide)
    rw [List.cons_append, clean_cons escape, if_neg return_, ih ht, List.cons_append]

/-- The escape characters that are left are those that began no sequence. -/
theorem escape_suffix_clean {t rest : Text} : esc :: rest <:+ clean t ↔
    ∃ after, esc :: after <:+ t ∧ dropSequence? after = none ∧ rest = clean after := by
  fun_induction strip t with
  | case1 => simp [clean, strip]
  | case2 r left hd ih =>
    obtain ⟨s, hs, rfl⟩ := dropSequence?_eq_some.1 hd
    rw [clean_of_sequence hd, ih]
    apply exists_congr
    intro after
    apply and_congr_left
    rintro ⟨hn, -⟩
    constructor
    · intro h
      exact h.trans ((List.suffix_append s left).trans (List.suffix_cons esc _))
    · intro h
      rcases List.suffix_cons_iff.1 h with he | h
      · cases he
        cases hd.symm.trans hn
      · -- A sequence holds no other escape character.
        obtain ⟨u, hu⟩ := h
        rcases List.append_eq_append_iff.1 hu with ⟨v, rfl, hv⟩ | ⟨v, -, hv⟩
        · cases v with
          | nil => exact hv ▸ List.suffix_rfl
          | cons c v =>
            obtain ⟨rfl, -⟩ := List.cons.inj hv
            exact absurd (by simp) (hs.not_mem (c := esc) (by decide))
        · exact ⟨v, hv.symm⟩
  | case3 r hd ih =>
    rw [clean_of_escape hd, List.suffix_cons_iff, ih]
    constructor
    · rintro (he | ⟨after, ha, hn, rfl⟩)
      · exact ⟨r, List.suffix_rfl, hd, (List.cons.inj he).2⟩
      · exact ⟨after, ha.trans (List.suffix_cons esc r), hn, rfl⟩
    · rintro ⟨after, ha, hn, rfl⟩
      rcases List.suffix_cons_iff.1 ha with he | ha
      · exact .inl (by rw [(List.cons.inj he).2])
      · exact .inr ⟨after, ha, hn, rfl⟩
  | case4 c r hc ih =>
    have inner (after : Text) : esc :: after <:+ c :: r ↔ esc :: after <:+ r := by
      rw [List.suffix_cons_iff, or_iff_right]
      intro he
      exact hc (List.cons.inj he).1.symm
    have left : esc :: rest <:+ clean (c :: r) ↔ esc :: rest <:+ clean r := by
      rw [clean_cons hc]
      split
      · rfl
      · rw [List.suffix_cons_iff, or_iff_right]
        intro he
        exact hc (List.cons.inj he).1.symm
    simp only [left, inner, ih]

theorem exists_sequence_iff {t : Text} : (∃ s, IsSequence s ∧ s <:+: t) ↔
    ∃ after rest, esc :: after <:+ t ∧ dropSequence? after = some rest := by
  constructor
  · rintro ⟨s, hs, before, rest, rfl⟩
    obtain ⟨r, rfl⟩ := hs.exists_cons
    exact ⟨r ++ rest, rest, ⟨before, by simp⟩, dropSequence?_eq_some.2 ⟨r, hs, rfl⟩⟩
  · rintro ⟨after, rest, ⟨before, rfl⟩, hd⟩
    obtain ⟨s, hs, rfl⟩ := dropSequence?_eq_some.1 hd
    exact ⟨_, hs, before, rest, by simp⟩

theorem isClean_clean_iff {t : Text} : IsClean (clean t) ↔ IsSettled t := by
  have found : (∃ s, IsSequence s ∧ s <:+: clean t) ↔ ¬ IsSettled t := by
    simp only [exists_sequence_iff, escape_suffix_clean, IsSettled, not_forall]
    constructor
    · rintro ⟨_, rest, ⟨after, ha, hn, rfl⟩, hd⟩
      exact ⟨after, ha, hn, by simp [hd]⟩
    · rintro ⟨after, ha, hn, hd⟩
      obtain ⟨rest, hd⟩ := Option.ne_none_iff_exists'.1 hd
      exact ⟨_, rest, ⟨after, ha, hn, rfl⟩, hd⟩
  rw [IsClean, and_iff_right (return_not_mem_clean t), ← not_iff_not, ← found]
  simp

theorem IsClean.of_piece {a b : Text} (h : IsClean b) (hi : a <:+: b) : IsClean a :=
  ⟨fun hm => h.1 (hi.mem hm), fun s hs ha => h.2 s hs (ha.trans hi)⟩

end MudClient.Ansi
