import MudClient.Proofs.Unicode.LetterCase
/-! Lower case is kept in lower case: no character of a mapping's image is mapped again. -/
namespace MudClient.Unicode

/-- A set of numbers, a bit for each. -/
def bits (ns : List Nat) : Nat := ns.foldr (fun n m => Nat.pow 2 n ||| m) 0

theorem testBit_bits {ns : List Nat} {n : Nat} : (bits ns).testBit n ↔ n ∈ ns := by
  induction ns with
  | nil => simp [bits]
  | cons k ns ih =>
    rw [show bits (k :: ns) = 2 ^ k ||| bits ns from rfl, Nat.testBit_or, Bool.or_eq_true, ih,
      Nat.testBit_two_pow, decide_eq_true_eq, List.mem_cons, eq_comm]

/-- The sets of all runs in one. -/
def unite (f : CaseRun → Nat) (rs : List CaseRun) : Nat := rs.foldr (fun r m => f r ||| m) 0

theorem testBit_unite {f : CaseRun → Nat} {rs : List CaseRun} {r : CaseRun} (hr : r ∈ rs) {n : Nat}
    (hn : (f r).testBit n) : (unite f rs).testBit n := by
  induction rs with
  | nil => cases hr
  | cons s rs ih =>
    rw [show unite f (s :: rs) = f s ||| unite f rs from rfl, Nat.testBit_or, Bool.or_eq_true]
    rcases List.mem_cons.1 hr with rfl | hr
    · exact .inl hn
    · exact .inr (ih hr)

namespace CaseRun

def offsets (r : CaseRun) : List Nat :=
  (List.range (r.last - r.first + 1)).filter (· % r.step = 0)

/-- What the run moves, and what it leads to. -/
def moved (r : CaseRun) : Nat := bits (r.offsets.map (r.first + ·))

def made (r : CaseRun) : Nat := bits (r.offsets.map (r.image + ·))

theorem mem_offsets {r : CaseRun} {x : Nat} (hx : r.Holds x) : x - r.first ∈ r.offsets := by
  obtain ⟨hf, hl, hm⟩ := hx
  simp only [offsets, List.mem_filter, List.mem_range, decide_eq_true_eq]
  exact ⟨by omega, hm⟩

theorem testBit_moved {r : CaseRun} {x : Nat} (hx : r.Holds x) : r.moved.testBit x := by
  refine testBit_bits.2 (List.mem_map.2 ⟨_, mem_offsets hx, ?_⟩)
  have := hx.1
  omega

theorem testBit_made {r : CaseRun} {x : Nat} (hx : r.Holds x) :
    r.made.testBit (r.image + (x - r.first)) :=
  testBit_bits.2 (List.mem_map.2 ⟨_, mem_offsets hx, rfl⟩)

/-- No run of the second list moves what one of the first leads to. -/
def Avoid (rs ss : List CaseRun) : Prop := unite made rs &&& unite moved ss = 0

instance (rs ss : List CaseRun) : Decidable (Avoid rs ss) := inferInstanceAs (Decidable (_ = _))

theorem Avoid.not_holds {rs ss : List CaseRun} (h : Avoid rs ss) {r s : CaseRun} (hr : r ∈ rs)
    (hs : s ∈ ss) {x : Nat} (hx : r.Holds x) : ¬ s.Holds (r.image + (x - r.first)) := by
  intro held
  have both : (unite made rs &&& unite moved ss).testBit (r.image + (x - r.first)) := by
    rw [Nat.testBit_and, testBit_unite hr (testBit_made hx), testBit_unite hs (testBit_moved held)]
    rfl
  rw [h, Nat.zero_testBit] at both
  cases both

end CaseRun

/-- The capitals of ASCII, and those that are not mapped by a run alone. -/
def capitals : List CaseRun := [⟨0x41, 0x5A, 1, 0⟩, ⟨0x130, 0x130, 1, 0⟩, ⟨0x3A3, 0x3A3, 1, 0⟩]

/-- What no run leads to: the dot of a capital i with a dot, and both forms of sigma. -/
def strays : List CaseRun :=
  [⟨0x130, 0x130, 1, 0x307⟩, ⟨0x3A3, 0x3A3, 1, 0x3C2⟩, ⟨0x3A3, 0x3A3, 1, 0x3C3⟩]

theorem avoid_of_fields {table : String} {t : Text} (ht : table = String.ofList t)
    (h : CaseRun.Avoid (strays ++ (fieldsOf t).map CaseRun.ofField)
      (capitals ++ (fieldsOf t).map CaseRun.ofField)) :
    CaseRun.Avoid (strays ++ (caseRuns table).toList) (capitals ++ (caseRuns table).toList) := by
  rwa [caseRuns, tableFields_eq ht]

-- The table is a long list of characters.
set_option maxRecDepth 100000

theorem avoid_lowerRuns :
    CaseRun.Avoid (strays ++ lowerRuns.toList) (capitals ++ lowerRuns.toList) :=
  avoid_of_fields rfl (by decide +kernel)

/-- A character that is its own lower case wherever it stands. -/
def IsLower (c : Char) : Prop := toLower c = [c] ∧ c ≠ 'Σ'

theorem isLower_of_ascii {c : Char} (hc : c.toNat < 0x80)
    (h : ¬ (0x41 ≤ c.toNat ∧ c.toNat ≤ 0x5A)) : IsLower c := by
  have same := forall_ascii (p := fun c => ¬ (0x41 ≤ c.toNat ∧ c.toNat ≤ 0x5A) → c.toLower = c)
    (by decide) hc h
  refine ⟨by rw [toLower, if_pos hc, same], ?_⟩
  rintro rfl
  exact absurd hc (by decide)

/-- Where no run and no capital is, nothing is mapped. -/
theorem isLower_of_not_holds {c : Char}
    (h : ∀ s ∈ capitals ++ lowerRuns.toList, ¬ s.Holds c.toNat) : IsLower c := by
  simp only [capitals, CaseRun.Holds, List.cons_append, List.nil_append, List.forall_mem_cons,
    Nat.mod_one, and_true] at h
  obtain ⟨ascii, dotted, sigma, runs⟩ := h
  by_cases hc : c.toNat < 0x80
  · exact isLower_of_ascii hc ascii
  · have hi : c ≠ 'İ' := by
      rintro rfl
      exact dotted (by decide)
    have same : mapRuns lowerRuns c = c := by
      unfold mapRuns
      rcases mapRunsIn_cases lowerRuns c.toNat 0 lowerRuns.size (Nat.le_refl _) with same |
        ⟨r, hr, holds, -⟩
      · rw [same, Char.ofNat_toNat]
      · exact absurd holds (runs r hr)
    refine ⟨by rw [toLower, if_neg hc, if_neg hi, same], ?_⟩
    rintro rfl
    exact sigma (by decide)

theorem isLower_image {r : CaseRun} (hr : r ∈ strays ++ lowerRuns.toList) {x : Nat}
    (hx : r.Holds x) : IsLower (Char.ofNat (r.image + (x - r.first))) := by
  rcases toNat_ofNat_cases (r.image + (x - r.first)) with same | zero
  · refine isLower_of_not_holds fun s hs => ?_
    rw [same]
    exact avoid_lowerRuns.not_holds hr hs hx
  · exact isLower_of_ascii (by omega) (by omega)

theorem isLower_stray {c : Char} (hc : c.toNat ∈ strays.map CaseRun.image) : IsLower c := by
  obtain ⟨r, hr, image⟩ := List.mem_map.1 hc
  have first : r.Holds r.first := by
    simp only [strays, List.mem_cons, List.not_mem_nil, or_false] at hr
    rcases hr with rfl | rfl | rfl <;> exact ⟨Nat.le_refl _, Nat.le_refl _, rfl⟩
  have lower := isLower_image (List.mem_append_left _ hr) first
  rwa [Nat.sub_self, Nat.add_zero, image, Char.ofNat_toNat] at lower

/-- What a character is mapped to is not mapped again. -/
theorem isLower_of_mem_toLower {c d : Char} (hc : c ≠ 'Σ') (h : d ∈ toLower c) : IsLower d := by
  unfold toLower at h
  split at h
  · rename_i ascii
    rw [List.mem_singleton] at h
    subst h
    have image := forall_ascii (p := fun c => c.toLower.toNat < 0x80 ∧
      ¬ (0x41 ≤ c.toLower.toNat ∧ c.toLower.toNat ≤ 0x5A)) (by decide) ascii
    exact isLower_of_ascii image.1 image.2
  · rename_i ascii
    split at h
    · rcases List.mem_cons.1 h with rfl | h
      · exact isLower_of_ascii (by decide) (by decide)
      · rw [List.mem_singleton.1 h]
        exact isLower_stray (by decide)
    · rename_i hi
      rw [List.mem_singleton] at h
      rcases mapRunsIn_cases lowerRuns c.toNat 0 lowerRuns.size (Nat.le_refl _) with same |
        ⟨r, hr, holds, image⟩
      · have own : mapRuns lowerRuns c = c := by rw [mapRuns, same, Char.ofNat_toNat]
        rw [h, own]
        exact ⟨by rw [toLower, if_neg ascii, if_neg hi, own], hc⟩
      · rw [h, mapRuns, image]
        exact isLower_image (List.mem_append_right _ hr) holds

theorem isLower_of_mem_lowerFrom {before t : Text} {d : Char} (h : d ∈ lowerFrom before t) :
    IsLower d := by
  induction t generalizing before with
  | nil => cases h
  | cons c r ih =>
    rw [lowerFrom] at h
    rcases List.mem_append.1 h with h | h
    · split at h
      · rw [List.mem_singleton] at h
        split at h <;> subst h <;> exact isLower_stray (by decide)
      · exact isLower_of_mem_toLower ‹_› h
    · exact ih h

theorem lowerFrom_eq_self {before t : Text} (h : ∀ c ∈ t, IsLower c) : lowerFrom before t = t := by
  induction t generalizing before with
  | nil => rfl
  | cons c r ih =>
    obtain ⟨⟨image, sigma⟩, hr⟩ := List.forall_mem_cons.1 h
    rw [lowerFrom, if_neg sigma, image, ih hr, List.singleton_append]

theorem lower_lower (t : Text) : lower (lower t) = lower t :=
  lowerFrom_eq_self fun _ => isLower_of_mem_lowerFrom

end MudClient.Unicode
