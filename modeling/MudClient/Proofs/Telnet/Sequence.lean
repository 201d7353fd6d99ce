import Mathlib.Data.List.TakeWhile
import MudClient.Ansi
/-! The form of escape sequences. What is dropped behind an escape character is a text of this form,
so it is the same whatever follows, and more text makes a sequence only of what was the beginning of
one. -/
namespace MudClient.Ansi

/-- A sequence with its escape character. -/
inductive IsSequence : Text → Prop where
  | control {params inters : Text} {final : Char} (hp : ∀ c ∈ params, isParameter c)
      (hi : ∀ c ∈ inters, isIntermediate c) (hf : isFinal final) :
      IsSequence (esc :: '[' :: (params ++ (inters ++ [final])))
  | short {c : Char} (hc : isShort c) : IsSequence [esc, c]

variable {r s rest more : Text} {c : Char}

theorem le_iff_toNat_le {a b : Char} : a ≤ b ↔ a.toNat ≤ b.toNat := by
  rw [Char.le_def, UInt32.le_iff_toNat_le]
  rfl

theorem isParameter_iff : isParameter c ↔
    (0x30 ≤ c.toNat ∧ c.toNat ≤ 0x39) ∨ c.toNat = 0x3B ∨ c.toNat = 0x3F := by
  simp [isParameter, Char.isDigit, UInt32.le_iff_toNat_le, ← Char.toNat_inj, or_assoc]

theorem isIntermediate_iff : isIntermediate c ↔ 0x20 ≤ c.toNat ∧ c.toNat ≤ 0x2F := by
  simp [isIntermediate, le_iff_toNat_le]

theorem isFinal_iff : isFinal c ↔ 0x40 ≤ c.toNat ∧ c.toNat ≤ 0x7E := by
  simp [isFinal, le_iff_toNat_le]

theorem isShort_iff : isShort c ↔
    (0x40 ≤ c.toNat ∧ c.toNat ≤ 0x5A) ∨ (0x5C ≤ c.toNat ∧ c.toNat ≤ 0x5F) := by
  simp [isShort, le_iff_toNat_le]

theorem dropWhile_isParameter {params : Text} (hp : ∀ c ∈ params, isParameter c)
    (hr : ∀ c ∈ r.head?, ¬ isParameter c) : (params ++ r).dropWhile isParameter = r := by
  rw [List.dropWhile_append_of_pos hp]
  cases r with
  | nil => rfl
  | cons c r => exact List.dropWhile_cons_of_neg (hr c rfl)

theorem dropControl?_eq_some : dropControl? r = some rest ↔ ∃ params inters final,
    (∀ c ∈ params, isParameter c) ∧ (∀ c ∈ inters, isIntermediate c) ∧ isFinal final ∧
      r = params ++ (inters ++ [final]) ++ rest := by
  constructor
  · intro h
    unfold dropControl? at h
    have split := List.takeWhile_append_dropWhile (p := isParameter) (l := r)
    have split' := List.takeWhile_append_dropWhile (p := isIntermediate)
      (l := r.dropWhile isParameter)
    cases hd : (r.dropWhile isParameter).dropWhile isIntermediate with
    | nil => simp [hd] at h
    | cons final left =>
      obtain ⟨hf, rfl⟩ : isFinal final ∧ left = rest := by simpa [hd] using h
      refine ⟨r.takeWhile isParameter, (r.dropWhile isParameter).takeWhile isIntermediate, final,
        fun c => List.mem_takeWhile_imp, fun c => List.mem_takeWhile_imp, hf, ?_⟩
      rw [hd] at split'
      rw [List.append_assoc, List.append_assoc, List.singleton_append, split', split]
  · rintro ⟨params, inters, final, hp, hi, hf, rfl⟩
    have hf' := isFinal_iff.1 hf
    have first : ∀ c ∈ (inters ++ final :: rest).head?, ¬ isParameter c := by
      intro c hc
      rw [isParameter_iff]
      cases inters with
      | nil =>
        cases hc
        omega
      | cons d inters =>
        cases hc
        have := isIntermediate_iff.1 (hi c List.mem_cons_self)
        omega
    have last : ¬ isIntermediate final := by
      rw [isIntermediate_iff]
      omega
    have text : params ++ (inters ++ [final]) ++ rest = params ++ (inters ++ final :: rest) := by
      simp
    rw [dropControl?, text, dropWhile_isParameter hp first, List.dropWhile_append_of_pos hi,
      List.dropWhile_cons_of_neg last]
    exact if_pos hf

/-- What is dropped behind an escape character completes a sequence. -/
theorem dropSequence?_eq_some :
    dropSequence? r = some rest ↔ ∃ s, IsSequence (esc :: s) ∧ r = s ++ rest := by
  constructor
  · intro h
    cases r with
    | nil => cases h
    | cons c r =>
      by_cases hc : c = '['
      · rw [dropSequence?, if_pos hc, dropControl?_eq_some] at h
        obtain ⟨params, inters, final, hp, hi, hf, rfl⟩ := h
        subst hc
        exact ⟨_, .control hp hi hf, rfl⟩
      · by_cases hs : isShort c
        · obtain rfl : r = rest := by simpa [dropSequence?, hc, hs] using h
          exact ⟨[c], .short hs, rfl⟩
        · simp [dropSequence?, hc, hs] at h
  · rintro ⟨s, hs, rfl⟩
    cases hs with
    | control hp hi hf =>
      rw [List.cons_append, dropSequence?, if_pos rfl]
      exact dropControl?_eq_some.2 ⟨_, _, _, hp, hi, hf, rfl⟩
    | @short c hc =>
      have hb : c ≠ '[' := by
        rintro rfl
        exact absurd hc (by decide)
      simp [dropSequence?, hb, hc]

/-- A sequence is text that can be printed, apart from its escape character. -/
theorem IsSequence.printable (h : IsSequence (esc :: s)) (hc : c ∈ s) :
    0x20 ≤ c.toNat ∧ c.toNat ≤ 0x7E := by
  cases h with
  | control hp hi hf =>
    rcases List.mem_cons.1 hc with rfl | hc
    · decide
    · rcases List.mem_append.1 hc with hc | hc
      · have := isParameter_iff.1 (hp c hc)
        omega
      · rcases List.mem_append.1 hc with hc | hc
        · have := isIntermediate_iff.1 (hi c hc)
          omega
        · have := isFinal_iff.1 (List.mem_singleton.1 hc ▸ hf)
          omega
  | short h =>
    have := isShort_iff.1 (List.mem_singleton.1 hc ▸ h)
    omega

theorem IsSequence.exists_cons (h : IsSequence s) : ∃ r, s = esc :: r := by
  cases h with
  | control => exact ⟨_, rfl⟩
  | short => exact ⟨_, rfl⟩

theorem IsSequence.not_mem (h : IsSequence (esc :: s)) (hc : c.toNat < 0x20) : c ∉ s := by
  intro hm
  have := h.printable hm
  omega

theorem IsSequence.newline_not_mem (h : IsSequence s) : '\n' ∉ s := by
  obtain ⟨r, rfl⟩ := h.exists_cons
  rw [List.mem_cons, not_or]
  exact ⟨by decide, h.not_mem (by decide)⟩

/-- A sequence that is complete stays as it is when more text comes. -/
theorem dropSequence?_append (more : Text) (h : dropSequence? r = some rest) :
    dropSequence? (r ++ more) = some (rest ++ more) := by
  obtain ⟨s, hs, rfl⟩ := dropSequence?_eq_some.1 h
  exact dropSequence?_eq_some.2 ⟨s, hs, List.append_assoc ..⟩

/-- A sequence that only more text completes reaches into that text. -/
theorem exists_of_dropSequence?_append (hn : dropSequence? r = none)
    (h : dropSequence? (r ++ more) = some rest) :
    ∃ s, s ≠ [] ∧ IsSequence (esc :: (r ++ s)) ∧ more = s ++ rest := by
  obtain ⟨s, hs, he⟩ := dropSequence?_eq_some.1 h
  rcases List.append_eq_append_iff.1 he with ⟨u, rfl, hm⟩ | ⟨u, rfl, -⟩
  · refine ⟨u, ?_, hs, hm⟩
    rintro rfl
    rw [dropSequence?_eq_some.2 ⟨r, by simpa using hs, (List.append_nil r).symm⟩] at hn
    cases hn
  · rw [dropSequence?_eq_some.2 ⟨s, hs, rfl⟩] at hn
    cases hn

/-- Another escape character never completes a sequence. -/
theorem dropSequence?_append_escape (h : dropSequence? r = none) (more : Text) :
    dropSequence? (r ++ esc :: more) = none := by
  cases hd : dropSequence? (r ++ esc :: more) with
  | none => rfl
  | some rest =>
    obtain ⟨s, hne, hs, hm⟩ := exists_of_dropSequence?_append h hd
    obtain ⟨c, s, rfl⟩ := List.exists_cons_of_ne_nil hne
    obtain ⟨rfl, -⟩ := List.cons.inj hm
    exact absurd (by simp) (hs.not_mem (c := esc) (by decide))

end MudClient.Ansi
