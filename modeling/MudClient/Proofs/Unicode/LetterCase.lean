import MudClient.Proofs.Script.Brace
import MudClient.Unicode.LetterCase
/-! Letter case and scripts. No mapping makes a brace, a number sign or white space of another
character, and braces stay as they are. -/
namespace MudClient.Unicode

open Script (isBrace isBrace_iff)

/-- The characters by which scripts are read. -/
def isSpecial (c : Char) : Bool := isBrace c || Text.isBlank c || c == '#'

def CaseRun.isClear (r : CaseRun) : Bool :=
  let last := r.image + (r.last - r.first)
  (0x23 < r.image && last < 0x7B) || (0xA0 < r.image && last < 0x1680) ||
    (0x1680 < r.image && last < 0x2000) || (0x205F < r.image && last < 0x3000) || 0x3000 < r.image

/-- The fields of a table whose characters are at hand. -/
def fieldsOf (table : Text) : List Text :=
  (table.splitOnP fun c => c == ' ' || c == '\n').filter (!·.isEmpty)

theorem tableFields_eq {table : String} {t : Text} (ht : table = String.ofList t) :
    tableFields table = fieldsOf t := by
  rw [ht, tableFields, String.toList_ofList, fieldsOf]

theorem forall_caseRuns_of_fields {table : String} {t : Text} (ht : table = String.ofList t)
    {p : CaseRun → Bool} (h : ((fieldsOf t).map CaseRun.ofField).all p) :
    ∀ r ∈ (caseRuns table).toList, p r := by
  rw [caseRuns, tableFields_eq ht]
  exact List.all_eq_true.1 h

theorem forall_of_fields {table : String} {t : Text} (ht : table = String.ofList t) {α : Type}
    {read : Text → Option α} {p : α → Bool} (h : ((fieldsOf t).filterMap read).all p) :
    ∀ a ∈ (tableFields table).filterMap read, p a := by
  rw [tableFields_eq ht]
  exact List.all_eq_true.1 h

-- The tables are long lists of characters.
set_option maxRecDepth 100000

theorem isClear_upperRuns : ∀ r ∈ upperRuns.toList, r.isClear :=
  forall_caseRuns_of_fields rfl (by decide +kernel)

theorem isClear_lowerRuns : ∀ r ∈ lowerRuns.toList, r.isClear :=
  forall_caseRuns_of_fields rfl (by decide +kernel)

theorem isSpecial_upperExpansions :
    ∀ e ∈ upperExpansions, e.2.all fun d => !isSpecial d :=
  forall_of_fields rfl (by decide +kernel)

/-- The mapping moves this character. -/
def CaseRun.Holds (r : CaseRun) (x : Nat) : Prop :=
  r.first ≤ x ∧ x ≤ r.last ∧ (x - r.first) % r.step = 0

theorem mapRunsIn_cases (a : Array CaseRun) (x lo hi : Nat) (h : hi ≤ a.size) :
    mapRunsIn a x lo hi h = x ∨ ∃ r ∈ a.toList, r.Holds x ∧
      mapRunsIn a x lo hi h = r.image + (x - r.first) := by
  fun_induction mapRunsIn a x lo hi h with
  | case1 lo hi h hl mid hm run hlt ih => simpa using ih
  | case2 lo hi h hl mid hm run hlt hgt ih => simpa using ih
  | case3 lo hi h hl mid hm run hlt hgt hstep =>
    exact .inr ⟨run, Array.getElem_mem_toList hm, ⟨by omega, by omega, hstep⟩, by omega⟩
  | case4 => exact .inl rfl
  | case5 => exact .inl rfl

theorem toNat_ofNat_cases (n : Nat) : (Char.ofNat n).toNat = n ∨ (Char.ofNat n).toNat = 0 := by
  by_cases h : n.isValidChar
  · exact .inl (by rw [Char.ofNat, dif_pos h]; rfl)
  · exact .inr (by rw [Char.ofNat, dif_neg h]; rfl)

/-- What holds of the characters of each of the first numbers. -/
theorem forall_ascii {p : Char → Prop} (h : ∀ n < 0x80, p (Char.ofNat n)) {c : Char}
    (hc : c.toNat < 0x80) : p c := by
  have := h c.toNat hc
  rwa [Char.ofNat_toNat] at this

theorem CaseRun.isSpecial_eq_false {r : CaseRun} (hr : r.isClear) {n : Nat} (hn : r.image ≤ n)
    (hl : n ≤ r.image + (r.last - r.first)) : isSpecial (Char.ofNat n) = false := by
  have code := toNat_ofNat_cases n
  have ho : '{'.toNat = 0x7B := rfl
  have hc : '}'.toNat = 0x7D := rfl
  have hs : '#'.toNat = 0x23 := rfl
  simp only [isClear, Bool.or_eq_true, Bool.and_eq_true, decide_eq_true_eq] at hr
  simp only [isSpecial, isBrace, Text.isBlank, Bool.or_eq_false_iff, beq_eq_false_iff_ne,
    Bool.and_eq_false_iff, decide_eq_false_iff_not, ne_eq, ← Char.toNat_inj, ho, hc, hs]
  omega

theorem eq_of_mapRuns {a : Array CaseRun} (ha : ∀ r ∈ a.toList, r.isClear) {c : Char}
    (h : isSpecial (mapRuns a c)) : mapRuns a c = c := by
  unfold mapRuns at h ⊢
  rcases mapRunsIn_cases a c.toNat 0 a.size (Nat.le_refl _) with same | ⟨r, hr, ⟨hf, hl, -⟩, image⟩
  · rw [same]
    exact Char.ofNat_toNat c
  · rw [image, CaseRun.isSpecial_eq_false (ha r hr) (by omega) (by omega)] at h
    cases h

theorem eq_of_mem_toLower {c d : Char} (h : d ∈ toLower c) (hd : isSpecial d) : d = c := by
  unfold toLower at h
  split at h
  · rename_i hc
    rw [List.mem_singleton] at h
    have ascii := forall_ascii (p := fun c => isSpecial c.toLower → c.toLower = c) (by decide) hc
    exact h.trans (ascii (h ▸ hd))
  · split at h
    · rcases List.mem_cons.1 h with rfl | h
      · exact absurd hd (by decide)
      · rw [List.mem_singleton.1 h] at hd
        exact absurd hd (by decide)
    · rw [List.mem_singleton] at h
      rw [h]
      exact eq_of_mapRuns isClear_lowerRuns (h ▸ hd)

theorem eq_of_mem_toUpper {c d : Char} (h : d ∈ toUpper c) (hd : isSpecial d) : d = c := by
  unfold toUpper at h
  split at h
  · rename_i hc
    rw [List.mem_singleton] at h
    have ascii := forall_ascii (p := fun c => isSpecial c.toUpper → c.toUpper = c) (by decide) hc
    exact h.trans (ascii (h ▸ hd))
  · cases hl : upperExpansions.lookup c with
    | none =>
      rw [hl, Option.getD_none, List.mem_singleton] at h
      rw [h]
      exact eq_of_mapRuns isClear_upperRuns (h ▸ hd)
    | some images =>
      rw [hl, Option.getD_some] at h
      obtain ⟨before, after, split, -⟩ := List.lookup_eq_some_iff.1 hl
      have clear := isSpecial_upperExpansions (c, images) (by simp [split])
      simpa [hd] using List.all_eq_true.1 clear d h

theorem toLower_brace {c : Char} (h : isBrace c) : toLower c = [c] := by
  rcases isBrace_iff.1 h with rfl | rfl <;> decide

theorem toUpper_brace {c : Char} (h : isBrace c) : toUpper c = [c] := by
  rcases isBrace_iff.1 h with rfl | rfl <;> decide

theorem isSpecial_of_isBrace {c : Char} (h : isBrace c) : isSpecial c := by simp [isSpecial, h]

/-- A mapping that makes no special character and keeps braces keeps the braces of a text. -/
theorem filter_image {image : Char → List Char} (keep : ∀ c, isBrace c → image c = [c])
    (make : ∀ c, ∀ d ∈ image c, isSpecial d → d = c) (c : Char) :
    (image c).filter isBrace = [c].filter isBrace := by
  by_cases hc : isBrace c
  · rw [keep c hc]
  · rw [List.filter_cons_of_neg hc, List.filter_nil, List.filter_eq_nil_iff]
    intro d hd hb
    rw [make c d hd (isSpecial_of_isBrace hb)] at hb
    exact hc hb

theorem filter_toLower (c : Char) : (toLower c).filter isBrace = [c].filter isBrace :=
  filter_image (fun _ => toLower_brace) (fun _ _ => eq_of_mem_toLower) c

theorem filter_toUpper (c : Char) : (toUpper c).filter isBrace = [c].filter isBrace :=
  filter_image (fun _ => toUpper_brace) (fun _ _ => eq_of_mem_toUpper) c

theorem filter_lowerFrom (before t : Text) :
    (lowerFrom before t).filter isBrace = t.filter isBrace := by
  induction t generalizing before with
  | nil => rfl
  | cons c r ih =>
    have head : (if c = 'Σ' then [if nextIsCased before && !nextIsCased r then 'ς' else 'σ']
        else toLower c).filter isBrace = [c].filter isBrace := by
      split
      · rename_i hc
        subst hc
        split <;> rfl
      · exact filter_toLower c
    rw [lowerFrom, List.filter_append, head, ih, ← List.filter_append, List.singleton_append]

theorem filter_lower (t : Text) : (lower t).filter isBrace = t.filter isBrace :=
  filter_lowerFrom [] t

theorem mem_of_mem_lowerFrom {before t : Text} {d : Char} (h : d ∈ lowerFrom before t)
    (hd : isSpecial d) : d ∈ t := by
  induction t generalizing before with
  | nil => exact h
  | cons c r ih =>
    rw [lowerFrom] at h
    rcases List.mem_append.1 h with h | h
    · split at h
      · rw [List.mem_singleton] at h
        split at h <;> subst h <;> exact absurd hd (by decide)
      · exact eq_of_mem_toLower h hd ▸ List.mem_cons_self
    · exact List.mem_cons_of_mem c (ih h)

/-- A word stays a word in lower case. -/
theorem isBlank_lower {t : Text} (ht : ∀ c ∈ t, Text.isBlank c = false) :
    ∀ c ∈ lower t, Text.isBlank c = false := by
  intro c hc
  cases hb : Text.isBlank c with
  | false => rfl
  | true => exact hb ▸ ht c (mem_of_mem_lowerFrom hc (by simp [isSpecial, hb]))

theorem exists_lower_cons (c : Char) (t : Text) :
    ∃ d r, lower (c :: t) = d :: r ∧ (isSpecial d → d = c) := by
  rw [lower, lowerFrom]
  split
  · split
    · exact ⟨'ς', _, rfl, fun h => absurd h (by decide)⟩
    · exact ⟨'σ', _, rfl, fun h => absurd h (by decide)⟩
  · obtain ⟨d, r, image⟩ : ∃ d r, toLower c = d :: r := by
      unfold toLower
      split
      · exact ⟨_, _, rfl⟩
      · split <;> exact ⟨_, _, rfl⟩
    rw [image]
    exact ⟨d, _, rfl, eq_of_mem_toLower (image ▸ List.mem_cons_self)⟩

end MudClient.Unicode
