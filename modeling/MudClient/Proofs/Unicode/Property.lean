import MudClient.Proofs.Unicode.LetterCase
import MudClient.Unicode.Property
/-! Letters and numbers. A set of code points holds only what one of its ranges holds, so a table none
of whose ranges holds white space has no white space in it. -/
namespace MudClient.Unicode

namespace CodeSet

/-- One of these ranges holds `x`. -/
def Covers (rs : List (Nat × Nat)) (x : Nat) : Prop := ∃ r ∈ rs, r.1 ≤ x ∧ x ≤ r.2

theorem covers_cons {r : Nat × Nat} {rs : List (Nat × Nat)} {x : Nat} :
    Covers (r :: rs) x ↔ (r.1 ≤ x ∧ x ≤ r.2) ∨ Covers rs x := by
  simp [Covers]

theorem covers_flatMap {α : Type} {sets : List α} {f : α → List (Nat × Nat)} {x : Nat} :
    Covers (sets.flatMap f) x ↔ ∃ s ∈ sets, Covers (f s) x := by
  simp only [Covers, List.mem_flatMap]
  constructor
  · rintro ⟨r, ⟨s, hs, hr⟩, hx⟩
    exact ⟨s, hs, r, hr, hx⟩
  · rintro ⟨s, hs, r, hr, hx⟩
    exact ⟨r, ⟨s, hs, hr⟩, hx⟩

theorem covers_of_containsIn {a : Array (Nat × Nat)} {x lo hi : Nat} {h : hi ≤ a.size}
    (hx : containsIn a x lo hi h) : Covers a.toList x := by
  fun_induction containsIn a x lo hi h with
  | case1 lo hi h hl mid hm hlt ih => exact ih hx
  | case2 lo hi h hl mid hm hlt hgt ih => exact ih hx
  | case3 lo hi h hl mid hm hlt hgt =>
    exact ⟨a[mid], Array.getElem_mem_toList hm, by omega, by omega⟩
  | case4 => cases hx

/-- Joining fills no gap. -/
theorem covers_of_joinTouching {acc rs : List (Nat × Nat)} {x : Nat}
    (h : Covers (joinTouching acc rs) x) : Covers acc x ∨ Covers rs x := by
  fun_induction joinTouching acc rs with
  | case1 acc =>
    obtain ⟨r, hr, hx⟩ := h
    exact .inl ⟨r, List.mem_reverse.1 hr, hx⟩
  | case2 r rest ih =>
    rw [covers_cons]
    rcases ih h with h | h
    · exact .inr (.inl (by simpa [Covers] using h))
    · exact .inr (.inr h)
  | case3 lo hi acc lo' hi' rest ht ih =>
    simp only [covers_cons] at ih ⊢
    rcases ih h with (hx | h) | h
    · by_cases hh : x ≤ hi
      · exact .inl (.inl ⟨hx.1, hh⟩)
      · exact .inr (.inl (by omega))
    · exact .inl (.inr h)
    · exact .inr (.inr h)
  | case4 lo hi acc lo' hi' rest ht ih =>
    simp only [covers_cons] at ih ⊢
    rcases ih h with (hx | hx | h) | h
    · exact .inr (.inl hx)
    · exact .inl (.inl hx)
    · exact .inl (.inr h)
    · exact .inr (.inr h)

theorem covers_of_ofRanges {rs : List (Nat × Nat)} {x : Nat}
    (h : Covers (ofRanges rs).ranges.toList x) : Covers rs x := by
  rcases covers_of_joinTouching h with ⟨r, hr, -⟩ | ⟨r, hr, hx⟩
  · cases hr
  · exact ⟨r, List.mem_mergeSort.1 hr, hx⟩

/-- The set holds nothing that these ranges hold. -/
def Misses (s : CodeSet) (rs : List (Nat × Nat)) : Prop :=
  ∀ x, Covers rs x → ¬ Covers s.ranges.toList x

theorem Misses.unions {sets : List CodeSet} {rs : List (Nat × Nat)}
    (h : ∀ s ∈ sets, s.Misses rs) : (CodeSet.unions sets).Misses rs := by
  intro x hx hc
  obtain ⟨s, hs, hc⟩ := covers_flatMap.1 (covers_of_ofRanges hc)
  exact h s hs x hx hc

theorem Misses.mem_eq_false {s : CodeSet} {rs : List (Nat × Nat)} (h : s.Misses rs) {c : Char}
    (hc : Covers rs c.toNat) : s.mem c = false := by
  rw [Bool.eq_false_iff]
  intro hm
  exact h _ hc (covers_of_containsIn (by simpa [mem, contains] using hm))

theorem Misses.of_fields {table : String} {t : Text} {rs : List (Nat × Nat)}
    (ht : table = String.ofList t)
    (h : ((fieldsOf t).map rangeOfField).all fun r => rs.all fun q => q.2 < r.1 || r.2 < q.1) :
    (ofTable table).Misses rs := by
  rintro x ⟨q, hq, hx⟩ ⟨r, hr, hr'⟩
  rw [ofTable, tableFields_eq ht] at hr
  have := List.all_eq_true.1 (List.all_eq_true.1 h r hr) q hq
  simp only [Bool.or_eq_true, decide_eq_true_eq] at this
  omega

end CodeSet

def blankRanges : List (Nat × Nat) :=
  [(9, 13), (0x20, 0x20), (0x85, 0x85), (0xA0, 0xA0), (0x1680, 0x1680), (0x2000, 0x200A),
    (0x2028, 0x2029), (0x202F, 0x202F), (0x205F, 0x205F), (0x3000, 0x3000)]

theorem covers_blankRanges {c : Char} (h : Text.isBlank c) : CodeSet.Covers blankRanges c.toNat := by
  simp only [Text.isBlank, Bool.or_eq_true, Bool.and_eq_true, decide_eq_true_eq, beq_iff_eq] at h
  simp only [blankRanges, CodeSet.covers_cons]
  omega

-- The tables are long lists of characters.
set_option maxRecDepth 100000

theorem misses_letter : Category.letter.Misses blankRanges := by
  apply CodeSet.Misses.unions
  simp only [List.forall_mem_cons]
  refine ⟨?upper, ?lower, ?title, ?modifier, ?other, List.forall_mem_nil _⟩
  all_goals exact .of_fields rfl (by decide +kernel)

theorem misses_letterNumber : Category.letterNumber.Misses blankRanges :=
  .of_fields rfl (by decide +kernel)

theorem misses_alphabetic : alphabetic.Misses blankRanges := by
  apply CodeSet.Misses.unions
  simp only [List.forall_mem_cons]
  exact ⟨misses_letter, misses_letterNumber, .of_fields rfl (by decide +kernel),
    List.forall_mem_nil _⟩

theorem misses_number : Category.number.Misses blankRanges := by
  apply CodeSet.Misses.unions
  simp only [List.forall_mem_cons]
  exact ⟨.of_fields rfl (by decide +kernel), misses_letterNumber, .of_fields rfl (by decide +kernel),
    List.forall_mem_nil _⟩

theorem isAlphanumeric_of_isBlank {c : Char} (h : Text.isBlank c) : isAlphanumeric c = false := by
  have code := covers_blankRanges h
  rw [isAlphanumeric, isAlphabetic, isNumeric]
  split
  · rename_i hc
    exact forall_ascii (p := fun c => Text.isBlank c → (c.isAlpha || c.isDigit) = false)
      (by decide) hc h
  · rw [misses_alphabetic.mem_eq_false code, misses_number.mem_eq_false code]
    rfl

end MudClient.Unicode
