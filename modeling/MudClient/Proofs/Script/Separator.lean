import MudClient.Proofs.Script.Brace
import MudClient.Script.Separator
/-! What separators do to a text. Reading a line leaves every semicolon behind a backslash, writing
one leaves no newline, and neither touches a brace. -/
namespace MudClient.Script.Separator

/-- Every semicolon stands behind a backslash. -/
def Escaped (t : Text) : Prop := ∀ a b, t = a ++ ';' :: b → a.getLast? = some '\\'

theorem escaped_of_not_mem {t : Text} (h : ';' ∉ t) : Escaped t := by
  rintro a b rfl
  simp at h

theorem Escaped.of_append_left {a b : Text} (h : Escaped (a ++ b)) : Escaped a := by
  rintro x y rfl
  exact h x (y ++ b) (by simp)

/-- An end of the text is escaped, unless it begins between a backslash and its semicolon. -/
theorem Escaped.of_append_right {a b : Text} (h : Escaped (a ++ b)) (hb : b.head? ≠ some ';') :
    Escaped b := by
  rintro x y rfl
  have hx : x ≠ [] := by
    rintro rfl
    simp at hb
  have last := h (a ++ x) y (by simp)
  rw [List.getLast?_append] at last
  cases hl : x.getLast? with
  | none => exact absurd (List.getLast?_eq_none_iff.1 hl) hx
  | some c => simpa [hl] using last

/-- An end of the text is escaped if the character before it is no backslash. -/
theorem Escaped.of_append {a b : Text} (h : Escaped (a ++ b)) (ha : a.getLast? ≠ some '\\') :
    Escaped b := by
  apply h.of_append_right
  intro hb
  obtain ⟨left, rfl⟩ := List.head?_eq_some_iff.1 hb
  exact ha (h a left rfl)

theorem Escaped.dropWhile {t : Text} {p : Char → Bool} (h : Escaped t) (hp : p '\\' = false) :
    Escaped (t.dropWhile p) := by
  rw [← List.takeWhile_append_dropWhile (p := p) (l := t)] at h
  apply h.of_append
  intro hl
  have := List.all_takeWhile (p := p) (l := t)
  rw [List.all_eq_true] at this
  simp [this _ (List.mem_of_getLast? hl)] at hp

theorem escaped_cons {c : Char} {t : Text} (hc : c ≠ ';') (ht : t.head? ≠ some ';') :
    Escaped (c :: t) ↔ Escaped t := by
  constructor
  · intro h
    exact Escaped.of_append_right (a := [c]) h ht
  · intro h x y hx
    cases x with
    | nil => exact absurd (List.cons.inj hx).1 hc
    | cons d x =>
      obtain ⟨rfl, rfl⟩ := List.cons.inj hx
      have hne : x ≠ [] := by
        rintro rfl
        simp at ht
      rw [List.getLast?_cons_of_ne_nil hne]
      exact h x y rfl

theorem escaped_pair {t : Text} (ht : t.head? ≠ some ';') :
    Escaped ('\\' :: ';' :: t) ↔ Escaped t := by
  constructor
  · intro h
    exact Escaped.of_append_right (a := ['\\', ';']) h ht
  · intro h x y hx
    match x, hx with
    | [c], hx =>
      cases (List.cons.inj hx).1
      rfl
    | c :: d :: x, hx =>
      obtain ⟨-, rfl, rfl⟩ : '\\' = c ∧ ';' = d ∧ t = x ++ ';' :: y := by simpa using hx
      have hne : x ≠ [] := by
        rintro rfl
        simp at ht
      rw [List.getLast?_cons_of_ne_nil (List.cons_ne_nil _ _), List.getLast?_cons_of_ne_nil hne]
      exact h x y rfl

theorem head?_expand_ne (t : Text) : (expand t).head? ≠ some ';' := by
  fun_induction expand t <;> simp_all

/-- What was read of a line is escaped. -/
theorem escaped_expand (t : Text) : Escaped (expand t) := by
  fun_induction expand t with
  | case1 r ih | case2 r ih => exact (escaped_pair (head?_expand_ne r)).2 ih
  | case3 r _ ih => exact (escaped_cons (by decide) (head?_expand_ne r)).2 ih
  | case4 c r h1 h2 h3 ih => exact (escaped_cons (by simpa using h3) (head?_expand_ne r)).2 ih
  | case5 => exact escaped_of_not_mem (by simp)

theorem expand_of_escaped {t : Text} (h : Escaped t) : expand t = t := by
  fun_induction expand t with
  | case1 r ih =>
    have hr : r.head? ≠ some ';' := by
      intro hr
      obtain ⟨left, rfl⟩ := List.head?_eq_some_iff.1 hr
      simpa using h ['\\', ';'] left rfl
    rw [ih ((escaped_pair hr).1 h)]
  | case2 r ih => simpa using h [] (';' :: r) rfl
  | case3 r _ ih => simpa using h [] r rfl
  | case4 c r h1 h2 h3 ih =>
    have hr : r.head? ≠ some ';' := by
      intro hr
      obtain ⟨left, rfl⟩ := List.head?_eq_some_iff.1 hr
      have hc : c = '\\' := by simpa using h [c] left rfl
      exact h1 left hc rfl
    have hc : c ≠ ';' := fun hc => h3 hc
    rw [ih ((escaped_cons hc hr).1 h)]
  | case5 => rfl

theorem filter_expand (t : Text) : (expand t).filter isBrace = t.filter isBrace := by
  fun_induction expand t <;> simp_all [isBrace, List.filter_cons]

theorem filter_collapse (t : Text) : (collapse t).filter isBrace = t.filter isBrace := by
  fun_induction collapse t <;> simp_all [isBrace, List.filter_cons]

theorem mem_expand {c : Char} {t : Text} (h : c ∈ expand t) :
    c ∈ t ∨ c = '\n' ∨ c = '\\' ∨ c = ';' := by
  fun_induction expand t <;> simp_all <;> grind

theorem mem_collapse {c : Char} {t : Text} (h : c ∈ collapse t) :
    c ≠ '\n' ∧ (c ∈ t ∨ c = ';') := by
  fun_induction collapse t <;> simp_all <;> grind

end MudClient.Script.Separator
