import Mathlib.Data.List.Chain
import MudClient.Proofs.Unicode.Lower
import MudClient.Proofs.Unicode.Property
import MudClient.Unicode.CaseFold
/-! Case folding as a relation and as a set. A set made of ranges holds exactly what the ranges hold,
so closing a character under folding gives exactly the characters that fold like it: a folding is not
folded again. -/
namespace MudClient.Unicode

namespace CodeSet

variable {rs acc more : List (Nat × Nat)} {x lo hi : Nat}

/-- Ranges one after another. -/
structure IsApart (rs : List (Nat × Nat)) : Prop where
  ordered : ∀ r ∈ rs, r.1 ≤ r.2
  apart : rs.Pairwise fun r s => r.2 < s.1

/-- Only neighbours have to be compared. -/
theorem isApart_of_isChain (ordered : ∀ r ∈ rs, r.1 ≤ r.2)
    (apart : rs.IsChain fun r s => r.2 < s.1) : IsApart rs := by
  refine ⟨ordered, ?_⟩
  induction rs with
  | nil => exact .nil
  | cons r rs ih =>
    obtain ⟨-, later⟩ := List.forall_mem_cons.1 ordered
    have rest := ih later apart.tail
    refine List.pairwise_cons.2 ⟨fun s hs => ?_, rest⟩
    cases rs with
    | nil => cases hs
    | cons t rs =>
      have next : r.2 < t.1 := (List.isChain_cons_cons.1 apart).1
      rcases List.mem_cons.1 hs with rfl | hs
      · exact next
      · have := later t List.mem_cons_self
        have := (List.pairwise_cons.1 rest).1 s hs
        omega

theorem IsApart.lt (h : IsApart rs) {i j : Nat} (hij : i < j) (hj : j < rs.length) :
    rs[i].2 < rs[j].1 :=
  List.pairwise_iff_getElem.1 h.apart i j (Nat.lt_trans hij hj) hj hij

theorem IsApart.starts_le (h : IsApart rs) {i j : Nat} (hij : i ≤ j) (hj : j < rs.length) :
    rs[i].1 ≤ rs[j].1 := by
  rcases Nat.lt_or_eq_of_le hij with hlt | rfl
  · have := h.lt hlt hj
    have := h.ordered rs[i] (List.getElem_mem _)
    omega
  · exact Nat.le_refl _

theorem IsApart.ends_le (h : IsApart rs) {i j : Nat} (hij : i ≤ j) (hj : j < rs.length) :
    rs[i].2 ≤ rs[j].2 := by
  rcases Nat.lt_or_eq_of_le hij with hlt | rfl
  · have := h.lt hlt hj
    have := h.ordered rs[j] (List.getElem_mem _)
    omega
  · exact Nat.le_refl _

theorem containsIn_of_covers {a : Array (Nat × Nat)} {h : hi ≤ a.size} (ha : IsApart a.toList)
    {i : Nat} (size : i < a.size) (hlo : lo ≤ i) (hhi : i < hi) (hx : a[i].1 ≤ x ∧ x ≤ a[i].2) :
    containsIn a x lo hi h := by
  fun_induction containsIn a x lo hi h with
  | case1 lo hi h hl mid hm hlt ih =>
    refine ih hlo (Nat.lt_of_not_le fun hle => ?_)
    have : a[mid].1 ≤ a[i].1 := ha.starts_le hle size
    omega
  | case2 lo hi h hl mid hm hlt hgt ih =>
    refine ih (Nat.lt_of_not_le fun hle => ?_) hhi
    have : a[i].2 ≤ a[mid].2 := ha.ends_le hle hm
    omega
  | case3 => rfl
  | case4 => omega

theorem contains_iff_covers {s : CodeSet} (hs : IsApart s.ranges.toList) :
    s.contains x ↔ Covers s.ranges.toList x := by
  refine ⟨covers_of_containsIn, fun ⟨r, hr, hx⟩ => ?_⟩
  obtain ⟨i, hi, rfl⟩ := List.getElem_of_mem hr
  exact containsIn_of_covers hs hi (Nat.zero_le i) hi hx

/-- Ranges of one number each. -/
theorem covers_points (h : ∀ r ∈ rs, r.1 = r.2) : Covers rs x ↔ (x, x) ∈ rs := by
  constructor
  · rintro ⟨⟨n, m⟩, hr, hx⟩
    have same : n = m := h _ hr
    have : n = x := by
      dsimp only at hx
      omega
    subst same this
    exact hr
  · exact fun hx => ⟨_, hx, Nat.le_refl x, Nat.le_refl x⟩

theorem contains_point {n : Nat} : (⟨#[(n, n)]⟩ : CodeSet).contains x ↔ x = n := by
  have apart : IsApart [(n, n)] := ⟨by simp, List.pairwise_singleton _ _⟩
  rw [contains_iff_covers apart, covers_points (by simp)]
  simp

theorem covers_append : Covers (rs ++ more) x ↔ Covers rs x ∨ Covers more x := by
  simp only [Covers, List.mem_append, or_and_right, exists_or]

/-- The ranges that were joined stand apart, the last one first, and none of the others begins
before them. -/
structure IsJoined (acc rs : List (Nat × Nat)) : Prop where
  joined : ∀ r ∈ acc, r.1 ≤ r.2
  apart : acc.Pairwise fun r s => s.2 < r.1
  ordered : ∀ r ∈ rs, r.1 ≤ r.2
  sorted : rs.Pairwise fun r s => r.1 ≤ s.1
  after : ∀ r ∈ acc, ∀ s ∈ rs, r.1 ≤ s.1

theorem joinTouching_spec (h : IsJoined acc rs) : IsApart (joinTouching acc rs) ∧
    ∀ x, Covers acc x ∨ Covers rs x → Covers (joinTouching acc rs) x := by
  fun_induction joinTouching acc rs with
  | case1 acc =>
    refine ⟨⟨by simpa using h.joined, List.pairwise_reverse.2 h.apart⟩, fun x hx => ?_⟩
    rcases hx with hx | ⟨r, hr, -⟩
    · simpa [Covers] using hx
    · cases hr
  | case2 r rest ih =>
    obtain ⟨hr, ordered⟩ := List.forall_mem_cons.1 h.ordered
    obtain ⟨first, sorted⟩ := List.pairwise_cons.1 h.sorted
    obtain ⟨apart, covers⟩ :=
      ih ⟨by simpa using hr, List.pairwise_singleton _ _, ordered, sorted, by simpa using first⟩
    refine ⟨apart, fun x hx => covers x ?_⟩
    rw [covers_cons] at hx
    simpa [Covers] using hx
  | case3 lo hi acc lo' hi' rest ht ih =>
    obtain ⟨hl, joined⟩ := List.forall_mem_cons.1 h.joined
    obtain ⟨before, apart⟩ := List.pairwise_cons.1 h.apart
    obtain ⟨hr, ordered⟩ := List.forall_mem_cons.1 h.ordered
    obtain ⟨-, sorted⟩ := List.pairwise_cons.1 h.sorted
    obtain ⟨later, after⟩ := List.forall_mem_cons.1 h.after
    obtain ⟨start, later⟩ := List.forall_mem_cons.1 later
    dsimp only at hl hr start
    obtain ⟨apart, covers⟩ := ih {
      joined := List.forall_mem_cons.2 ⟨Nat.le_trans hl (Nat.le_max_left ..), joined⟩
      apart := List.pairwise_cons.2 ⟨before, apart⟩
      ordered, sorted
      after := List.forall_mem_cons.2
        ⟨later, fun r hr s hs => after r hr s (List.mem_cons_of_mem _ hs)⟩ }
    refine ⟨apart, fun x hx => covers x ?_⟩
    simp only [covers_cons] at hx ⊢
    rcases hx with (hx | hx) | hx | hx
    · exact .inl (.inl ⟨hx.1, by omega⟩)
    · exact .inl (.inr hx)
    · exact .inl (.inl ⟨by omega, by omega⟩)
    · exact .inr hx
  | case4 lo hi acc lo' hi' rest ht ih =>
    obtain ⟨hl, joined⟩ := List.forall_mem_cons.1 h.joined
    obtain ⟨before, apart⟩ := List.pairwise_cons.1 h.apart
    obtain ⟨hr, ordered⟩ := List.forall_mem_cons.1 h.ordered
    obtain ⟨first, sorted⟩ := List.pairwise_cons.1 h.sorted
    obtain ⟨later, after⟩ := List.forall_mem_cons.1 h.after
    obtain ⟨start, later⟩ := List.forall_mem_cons.1 later
    dsimp only at hl hr start
    obtain ⟨apart, covers⟩ := ih {
      joined := List.forall_mem_cons.2 ⟨hr, h.joined⟩
      apart := by
        refine List.pairwise_cons.2 ⟨List.forall_mem_cons.2 ⟨by dsimp only; omega, ?_⟩, h.apart⟩
        exact fun s hs => Nat.lt_of_lt_of_le (before s hs) start
      ordered, sorted
      after := List.forall_mem_cons.2
        ⟨first, fun r hr s hs => h.after r hr s (List.mem_cons_of_mem _ hs)⟩ }
    refine ⟨apart, fun x hx => covers x ?_⟩
    simp only [covers_cons] at hx ⊢
    rcases hx with hx | hx | hx
    · exact .inl (.inr hx)
    · exact .inl (.inl hx)
    · exact .inr hx

theorem isJoined_mergeSort (h : ∀ r ∈ rs, r.1 ≤ r.2) :
    IsJoined [] (rs.mergeSort fun a b => a.1 ≤ b.1) where
  joined := List.forall_mem_nil _
  apart := .nil
  ordered r hr := h r (List.mem_mergeSort.1 hr)
  sorted := by
    have sorted := @List.pairwise_mergeSort (Nat × Nat) (fun a b => decide (a.1 ≤ b.1))
      (by simp; omega) (by simp; omega) rs
    simpa using sorted
  after := List.forall_mem_nil _

/-- A set holds what the ranges hold that it was made of. -/
theorem covers_ofRanges (h : ∀ r ∈ rs, r.1 ≤ r.2) :
    Covers (ofRanges rs).ranges.toList x ↔ Covers rs x := by
  refine ⟨covers_of_ofRanges, fun ⟨r, hr, hx⟩ => ?_⟩
  exact (joinTouching_spec (isJoined_mergeSort h)).2 x (.inr ⟨r, List.mem_mergeSort.2 hr, hx⟩)

theorem isApart_ofRanges (h : ∀ r ∈ rs, r.1 ≤ r.2) : IsApart (ofRanges rs).ranges.toList :=
  (joinTouching_spec (isJoined_mergeSort h)).1

theorem contains_ofRanges (h : ∀ r ∈ rs, r.1 ≤ r.2) : (ofRanges rs).contains x ↔ Covers rs x :=
  (contains_iff_covers (isApart_ofRanges h)).trans (covers_ofRanges h)

end CodeSet

namespace CaseRun

theorem mem_pairs {r : CaseRun} (ordered : r.first ≤ r.last) (step : 0 < r.step) {x f : Nat} :
    (x, f) ∈ r.pairs ↔ r.Holds x ∧ f = r.image + (x - r.first) := by
  simp only [pairs, List.mem_map, List.mem_range, Prod.mk.injEq, Holds]
  constructor
  · rintro ⟨i, hi, rfl, rfl⟩
    have within := (Nat.le_div_iff_mul_le step).1 (Nat.le_of_lt_succ hi)
    exact ⟨⟨by omega, by omega, by simp⟩, by simp⟩
  · rintro ⟨⟨first, last, hm⟩, rfl⟩
    have whole := Nat.div_mul_cancel (Nat.dvd_of_mod_eq_zero hm)
    refine ⟨(x - r.first) / r.step, ?_, by omega, by omega⟩
    exact Nat.lt_succ_of_le (Nat.div_le_div_right (by omega))

def isCapitals (r : CaseRun) : Bool :=
  r.first == 0x41 && r.last == 0x5A && r.step == 1 && r.image == 0x61

/-- The runs stand one after another, and each leads to characters; of ASCII they move the capitals.
-/
structure AreSound (rs : List CaseRun) : Prop where
  step : ∀ r ∈ rs, 0 < r.step
  apart : CodeSet.IsApart (rs.map fun r => (r.first, r.last))
  valid : ∀ r ∈ rs, r.image + (r.last - r.first) < 0xD800 ∨
    0xDFFF < r.image ∧ r.image + (r.last - r.first) < 0x110000
  capitals : ∃ r ∈ rs, r.isCapitals
  others : ∀ r ∈ rs, r.isCapitals ∨ 0x80 ≤ r.first

theorem areSound_of_fields {table : String} {t : Text} (ht : table = String.ofList t)
    (own : ((fieldsOf t).map ofField).all fun r => 0 < r.step && r.first ≤ r.last &&
      (r.image + (r.last - r.first) < 0xD800 ||
        0xDFFF < r.image && r.image + (r.last - r.first) < 0x110000) &&
      (r.isCapitals || 0x80 ≤ r.first))
    (apart : ((fieldsOf t).map ofField).IsChain fun r s => r.last < s.first)
    (capitals : ((fieldsOf t).map ofField).any isCapitals) : AreSound (caseRuns table).toList := by
  rw [caseRuns, tableFields_eq ht]
  simp only [List.all_eq_true, Bool.and_eq_true, Bool.or_eq_true, decide_eq_true_eq] at own
  refine ⟨fun r hr => (own r hr).1.1.1, CodeSet.isApart_of_isChain ?_ ?_,
    fun r hr => (own r hr).1.2, List.any_eq_true.1 capitals, fun r hr => (own r hr).2⟩
  · intro r hr
    obtain ⟨s, hs, rfl⟩ := List.mem_map.1 hr
    exact (own s hs).1.1.2
  · exact (List.isChain_map _).2 apart

theorem avoid_self_of_fields {table : String} {t : Text} (ht : table = String.ofList t)
    (h : Avoid ((fieldsOf t).map ofField) ((fieldsOf t).map ofField)) :
    Avoid (caseRuns table).toList (caseRuns table).toList := by
  rwa [caseRuns, tableFields_eq ht]

section

variable {a : Array CaseRun} (ha : CodeSet.IsApart (a.toList.map fun r => (r.first, r.last)))
include ha

theorem firsts_le {j k : Nat} (hjk : j ≤ k) (hk : k < a.size) : a[j].first ≤ a[k].first := by
  have := ha.starts_le hjk (by simpa using hk)
  rwa [List.getElem_map, List.getElem_map] at this

theorem lasts_le {j k : Nat} (hjk : j ≤ k) (hk : k < a.size) : a[j].last ≤ a[k].last := by
  have := ha.ends_le hjk (by simpa using hk)
  rwa [List.getElem_map, List.getElem_map] at this

theorem last_lt_first {j k : Nat} (hjk : j < k) (hk : k < a.size) : a[j].last < a[k].first := by
  have := ha.lt hjk (by simpa using hk)
  rwa [List.getElem_map, List.getElem_map] at this

theorem mapRunsIn_of_holds {x lo hi : Nat} {h : hi ≤ a.size} {i : Nat} (size : i < a.size)
    (hlo : lo ≤ i) (hhi : i < hi) (hx : a[i].Holds x) :
    mapRunsIn a x lo hi h = a[i].image + (x - a[i].first) := by
  obtain ⟨first, last, whole⟩ := hx
  fun_induction mapRunsIn a x lo hi h with
  | case1 lo hi h hl mid hm run hlt ih =>
    refine ih hlo (Nat.lt_of_not_le fun hle => ?_)
    have : run.first ≤ a[i].first := firsts_le ha hle size
    omega
  | case2 lo hi h hl mid hm run hlt hgt ih =>
    refine ih (Nat.lt_of_not_le fun hle => ?_) hhi
    have : a[i].last ≤ run.last := lasts_le ha hle hm
    omega
  | case3 lo hi h hl mid hm run hlt hgt hs | case4 lo hi h hl mid hm run hlt hgt hs =>
    have same : mid = i := by
      rcases Nat.lt_trichotomy mid i with before | same | after
      · have : run.last < a[i].first := last_lt_first ha before size
        omega
      · exact same
      · have : a[i].last < run.first := last_lt_first ha after hm
        omega
    subst same
    first | rfl | exact absurd whole hs
  | case5 => omega

end

end CaseRun

-- The table is a long list of characters.
set_option maxRecDepth 100000

theorem areSound_foldRuns : CaseRun.AreSound foldRuns.toList :=
  CaseRun.areSound_of_fields rfl (by decide +kernel) (by decide +kernel) (by decide +kernel)

theorem avoid_foldRuns : CaseRun.Avoid foldRuns.toList foldRuns.toList :=
  CaseRun.avoid_self_of_fields rfl (by decide +kernel)

/-- The folding of a code point. -/
def foldCode (x : Nat) : Nat := mapRunsIn foldRuns x 0 foldRuns.size (Nat.le_refl _)

theorem mem_foldPairs {x f : Nat} :
    (x, f) ∈ foldPairs ↔ ∃ r ∈ foldRuns.toList, r.Holds x ∧ f = r.image + (x - r.first) := by
  rw [foldPairs, List.mem_flatMap]
  refine exists_congr fun r => and_congr_right fun hr => ?_
  have ordered := areSound_foldRuns.apart.ordered _ (List.mem_map_of_mem hr)
  exact CaseRun.mem_pairs ordered (areSound_foldRuns.step r hr)

theorem foldCode_of_mem {x f : Nat} (h : (x, f) ∈ foldPairs) : foldCode x = f := by
  obtain ⟨r, hr, holds, rfl⟩ := mem_foldPairs.1 h
  obtain ⟨i, hi, rfl⟩ := List.getElem_of_mem hr
  exact CaseRun.mapRunsIn_of_holds areSound_foldRuns.apart hi (Nat.zero_le i) hi holds

theorem foldCode_cases (x : Nat) : foldCode x = x ∨ (x, foldCode x) ∈ foldPairs := by
  rcases mapRunsIn_cases foldRuns x 0 foldRuns.size (Nat.le_refl _) with same |
    ⟨r, hr, holds, image⟩
  · exact .inl same
  · exact .inr (mem_foldPairs.2 ⟨r, hr, holds, image⟩)

/-- A folding is not folded again. -/
theorem foldCode_image {x f : Nat} (h : (x, f) ∈ foldPairs) : foldCode f = f := by
  rcases foldCode_cases f with same | moved
  · exact same
  · obtain ⟨r, hr, holds, rfl⟩ := mem_foldPairs.1 h
    obtain ⟨s, hs, held, -⟩ := mem_foldPairs.1 moved
    exact absurd held (avoid_foldRuns.not_holds hr hs holds)

theorem isValidChar_foldCode (c : Char) : (foldCode c.toNat).isValidChar := by
  rcases foldCode_cases c.toNat with same | moved
  · rw [same]
    exact c.valid
  · obtain ⟨r, hr, ⟨first, last, -⟩, image⟩ := mem_foldPairs.1 moved
    have := areSound_foldRuns.valid r hr
    rw [image, Nat.isValidChar]
    omega

theorem foldCode_ascii {x : Nat} (hx : x < 0x80) :
    foldCode x = if 0x41 ≤ x ∧ x ≤ 0x5A then x + 0x20 else x := by
  split
  · rename_i capital
    obtain ⟨r, hr, hc⟩ := areSound_foldRuns.capitals
    simp only [CaseRun.isCapitals, Bool.and_eq_true, beq_iff_eq] at hc
    obtain ⟨⟨⟨first, last⟩, step⟩, image⟩ := hc
    refine foldCode_of_mem (mem_foldPairs.2 ⟨r, hr, ⟨by omega, by omega, ?_⟩, by omega⟩)
    rw [step, Nat.mod_one]
  · rename_i other
    refine (foldCode_cases x).resolve_right fun moved => other ?_
    obtain ⟨r, hr, ⟨first, last, -⟩, -⟩ := mem_foldPairs.1 moved
    have hc := (areSound_foldRuns.others r hr).resolve_right (by omega)
    simp only [CaseRun.isCapitals, Bool.and_eq_true, beq_iff_eq] at hc
    omega

theorem toNat_fold (c : Char) : (fold c).toNat = foldCode c.toNat := by
  unfold fold
  split
  · rename_i ascii
    rw [foldCode_ascii ascii]
    exact forall_ascii (p := fun c => c.toLower.toNat =
      if 0x41 ≤ c.toNat ∧ c.toNat ≤ 0x5A then c.toNat + 0x20 else c.toNat) (by decide) ascii
  · show (Char.ofNat (foldCode c.toNat)).toNat = _
    rw [Char.ofNat, dif_pos (isValidChar_foldCode c)]
    rfl

theorem eqFold_iff {c d : Char} : EqFold c d ↔ foldCode c.toNat = foldCode d.toNat := by
  rw [EqFold, ← Char.toNat_inj, toNat_fold, toNat_fold]

section

variable {s : CodeSet} {x y : Nat} {keep : Nat × Nat → Bool} {point : Nat × Nat → Nat}

theorem mem_filterMap_point {ps : List (Nat × Nat)} {r : Nat × Nat} :
    r ∈ ps.filterMap (fun p => if keep p then some (point p, point p) else none) ↔
      ∃ p ∈ ps, keep p ∧ (point p, point p) = r := by
  rw [List.mem_filterMap]
  refine exists_congr fun p => and_congr_right fun _ => ?_
  cases keep p <;> simp

/-- The foldings of the members of a set, and the members that are foldings. -/
def foldings (s : CodeSet) : CodeSet :=
  .ofRanges <| foldPairs.filterMap fun p =>
    if s.contains p.1 || s.contains p.2 then some (p.2, p.2) else none

/-- What is folded to one of them. -/
def variants (s : CodeSet) : List (Nat × Nat) :=
  foldPairs.filterMap fun p => if (foldings s).contains p.2 then some (p.1, p.1) else none

theorem closeUnderFold_eq (s : CodeSet) : s.closeUnderFold =
    .ofRanges (s.ranges.toList ++ (foldings s).ranges.toList ++ variants s) := rfl

theorem foldings_points : ∀ r ∈ foldPairs.filterMap (fun p : Nat × Nat =>
    if s.contains p.1 || s.contains p.2 then some (p.2, p.2) else none), r.1 = r.2 := by
  intro r hr
  obtain ⟨p, -, -, rfl⟩ := mem_filterMap_point.1 hr
  rfl

theorem variants_points : ∀ r ∈ variants s, r.1 = r.2 := by
  intro r hr
  obtain ⟨p, -, -, rfl⟩ := mem_filterMap_point.1 hr
  rfl

theorem contains_foldings : (foldings s).contains y ↔
    ∃ c, (c, y) ∈ foldPairs ∧ (s.contains c ∨ s.contains y) := by
  rw [foldings, CodeSet.contains_ofRanges fun r hr => Nat.le_of_eq (foldings_points r hr),
    CodeSet.covers_points foldings_points, mem_filterMap_point]
  constructor
  · rintro ⟨⟨c, f⟩, hp, hs, hy⟩
    cases hy
    exact ⟨c, hp, by simpa using hs⟩
  · rintro ⟨c, hp, hs⟩
    exact ⟨(c, y), hp, by simpa using hs, rfl⟩

theorem covers_variants : CodeSet.Covers (variants s) y ↔
    ∃ f, (y, f) ∈ foldPairs ∧ (foldings s).contains f := by
  rw [CodeSet.covers_points variants_points, variants, mem_filterMap_point]
  constructor
  · rintro ⟨⟨c, f⟩, hp, hf, hy⟩
    cases hy
    exact ⟨f, hp, hf⟩
  · rintro ⟨f, hp, hf⟩
    exact ⟨(y, f), hp, hf, rfl⟩

theorem contains_closeUnderFold (hs : CodeSet.IsApart s.ranges.toList) :
    s.closeUnderFold.contains y ↔
      s.contains y ∨ (foldings s).contains y ∨ CodeSet.Covers (variants s) y := by
  have apart : CodeSet.IsApart (foldings s).ranges.toList :=
    CodeSet.isApart_ofRanges fun r hr => Nat.le_of_eq (foldings_points r hr)
  have ordered : ∀ r ∈ s.ranges.toList ++ (foldings s).ranges.toList ++ variants s, r.1 ≤ r.2 := by
    intro r hr
    rcases List.mem_append.1 hr with hr | hr
    · exact (List.mem_append.1 hr).elim (hs.ordered r) (apart.ordered r)
    · exact Nat.le_of_eq (variants_points r hr)
  rw [closeUnderFold_eq, CodeSet.contains_ofRanges ordered, CodeSet.covers_append,
    CodeSet.covers_append, CodeSet.contains_iff_covers hs, CodeSet.contains_iff_covers apart,
    or_assoc]

end

/-- Closing a code point gives those that fold like it. -/
theorem contains_closeUnderFold_point {x y : Nat} :
    (CodeSet.closeUnderFold ⟨#[(x, x)]⟩).contains y ↔ foldCode y = foldCode x := by
  have apart : CodeSet.IsApart [(x, x)] := ⟨by simp, List.pairwise_singleton _ _⟩
  rw [contains_closeUnderFold apart, covers_variants]
  simp only [contains_foldings, CodeSet.contains_point]
  constructor
  · rintro (rfl | ⟨c, hc, rfl | rfl⟩ | ⟨f, hy, c, hc, rfl | rfl⟩)
    · rfl
    · rw [foldCode_image hc, foldCode_of_mem hc]
    · rfl
    · rw [foldCode_of_mem hy, foldCode_of_mem hc]
    · rw [foldCode_of_mem hy, foldCode_image hc]
  · intro same
    rcases foldCode_cases y with hy | hy <;> rcases foldCode_cases x with hx | hx
    · exact .inl (by rw [← hy, same, hx])
    · rw [← same, hy] at hx
      exact .inr (.inl ⟨x, hx, .inl rfl⟩)
    · rw [same, hx] at hy
      exact .inr (.inr ⟨x, hy, y, hy, .inr rfl⟩)
    · rw [same] at hy
      exact .inr (.inr ⟨_, hy, x, hx, .inl rfl⟩)

theorem mem_closeUnderFold {c d : Char} :
    (CodeSet.closeUnderFold ⟨#[(c.toNat, c.toNat)]⟩).mem d ↔ EqFold c d := by
  rw [CodeSet.mem, contains_closeUnderFold_point, eqFold_iff, eq_comm]

end MudClient.Unicode
