import MudClient.Script.Separator
import MudClient.Script.Source
/-! Braces. A text is balanced if every brace has its partner in it; between braces it is then read
whole. Whether it is depends on its braces alone, so what touches only other characters keeps it. -/
namespace MudClient.Script

/-- How many braces are open after a text, when `depth` were before it; `none` if one is closed that
was not opened. -/
def level : Nat → Text → Option Nat
  | depth, [] => some depth
  | depth, '{' :: r => level (depth + 1) r
  | 0, '}' :: _ => none
  | depth + 1, '}' :: r => level depth r
  | depth, _ :: r => level depth r

/-- Every brace has a partner. -/
def Balanced (t : Text) : Prop := level 0 t = some 0

instance (t : Text) : Decidable (Balanced t) := inferInstanceAs (Decidable (_ = _))

def isBrace (c : Char) : Bool := c == '{' || c == '}'

theorem isBrace_iff {c : Char} : isBrace c ↔ c = '{' ∨ c = '}' := by
  simp [isBrace]

theorem isBrace_eq_false {c : Char} : isBrace c = false ↔ c ≠ '{' ∧ c ≠ '}' := by
  simp [isBrace]

@[simp] theorem level_nil (d : Nat) : level d [] = some d := by
  cases d <;> rfl

@[simp] theorem level_open (d : Nat) (r : Text) : level d ('{' :: r) = level (d + 1) r := by
  cases d <;> rfl

@[simp] theorem level_close_zero (r : Text) : level 0 ('}' :: r) = none := rfl

@[simp] theorem level_close_succ (d : Nat) (r : Text) : level (d + 1) ('}' :: r) = level d r := rfl

theorem level_other {c : Char} (h : isBrace c = false) (d : Nat) (r : Text) :
    level d (c :: r) = level d r := by
  obtain ⟨ho, hc⟩ := isBrace_eq_false.1 h
  rw [level] <;> simp_all

theorem closeBrace_open (d : Nat) (r : Text) : closeBrace d ('{' :: r) =
    (closeBrace (d + 1) r).map fun (inner, rest) => ('{' :: inner, rest) := by
  cases d <;> rfl

theorem closeBrace_close_zero (r : Text) : closeBrace 0 ('}' :: r) = some ([], r) := rfl

theorem closeBrace_close_succ (d : Nat) (r : Text) : closeBrace (d + 1) ('}' :: r) =
    (closeBrace d r).map fun (inner, rest) => ('}' :: inner, rest) := rfl

theorem closeBrace_other {c : Char} (h : isBrace c = false) (d : Nat) (r : Text) :
    closeBrace d (c :: r) = (closeBrace d r).map fun (inner, rest) => (c :: inner, rest) := by
  obtain ⟨ho, hc⟩ := isBrace_eq_false.1 h
  rw [closeBrace] <;> simp_all

/-- A text from its end on, by what its first character does. -/
theorem braceInduction {motive : Nat → Text → Prop} (nil : ∀ d, motive d [])
    (opens : ∀ d r, motive (d + 1) r → motive d ('{' :: r)) (stray : ∀ r, motive 0 ('}' :: r))
    (closes : ∀ d r, motive d r → motive (d + 1) ('}' :: r))
    (other : ∀ c d r, isBrace c = false → motive d r → motive d (c :: r)) (d : Nat) (t : Text) :
    motive d t := by
  induction t generalizing d with
  | nil => exact nil d
  | cons c r ih =>
    by_cases ho : c = '{'
    · subst ho
      exact opens d r (ih _)
    · by_cases hc : c = '}'
      · subst hc
        cases d with
        | zero => exact stray r
        | succ d => exact closes d r (ih d)
      · exact other c d r (isBrace_eq_false.2 ⟨ho, hc⟩) (ih d)

theorem level_append (d : Nat) (a b : Text) :
    level d (a ++ b) = (level d a).bind (level · b) := by
  induction d, a using braceInduction with
  | nil d => simp
  | opens d r ih => simpa using ih
  | stray r => simp
  | closes d r ih => simpa using ih
  | other c d r hc ih => simpa [level_other hc] using ih

/-- How many braces are open is how many more were opened than closed, at every place. -/
theorem level_eq_some_iff {d k : Nat} {t : Text} : level d t = some k ↔
    (∀ p, p <+: t → p.count '}' ≤ d + p.count '{') ∧ d + t.count '{' = k + t.count '}' := by
  have split {c : Char} {d : Nat} {r : Text} :
      (∀ p, p <+: c :: r → p.count '}' ≤ d + p.count '{') ↔
        ∀ p, p <+: r → (c :: p).count '}' ≤ d + (c :: p).count '{' := by
    simp only [List.prefix_cons_iff, forall_eq_or_imp, List.count_nil]
    constructor
    · rintro ⟨-, h⟩ p hp
      exact h _ ⟨p, rfl, hp⟩
    · intro h
      refine ⟨Nat.zero_le _, ?_⟩
      rintro _ ⟨p, rfl, hp⟩
      exact h p hp
  induction d, t using braceInduction with
  | nil d => simp
  | opens d r ih =>
    simp only [level_open, ih, split, List.count_cons, beq_iff_eq, Char.reduceEq, if_true, if_false]
    apply and_congr
    · exact forall₂_congr fun p _ => by omega
    · omega
  | stray r =>
    rw [level_close_zero, split]
    constructor
    · intro h
      cases h
    · rintro ⟨h, -⟩
      simpa using h [] List.nil_prefix
  | closes d r ih =>
    simp only [level_close_succ, ih, split, List.count_cons, beq_iff_eq, Char.reduceEq, if_true, if_false]
    apply and_congr
    · exact forall₂_congr fun p _ => by omega
    · omega
  | other c d r hc ih =>
    obtain ⟨ho, hcl⟩ := isBrace_eq_false.1 hc
    simp only [level_other hc, ih, split, List.count_cons_of_ne ho, List.count_cons_of_ne hcl]

/-- No beginning of a balanced text closes more braces than it opens, and the whole opens as many as
it closes. -/
theorem balanced_iff {t : Text} : Balanced t ↔
    (∀ p, p <+: t → p.count '}' ≤ p.count '{') ∧ t.count '{' = t.count '}' := by
  unfold Balanced
  simpa using level_eq_some_iff (d := 0) (k := 0) (t := t)

/-- More braces around a text change nothing inside it. -/
theorem level_add {d k : Nat} {t : Text} (n : Nat) (h : level d t = some k) :
    level (d + n) t = some (k + n) := by
  induction d, t using braceInduction with
  | nil d => simpa using h
  | opens d r ih => simpa [Nat.add_right_comm] using ih (by simpa using h)
  | stray r => simp at h
  | closes d r ih => simpa [Nat.add_right_comm] using ih (by simpa using h)
  | other c d r hc ih => simpa [level_other hc] using ih (by simpa [level_other hc] using h)

theorem Balanced.level {t : Text} (h : Balanced t) (d : Nat) : Script.level d t = some d := by
  simpa using level_add d h

theorem level_filter (d : Nat) (t : Text) : level d (t.filter isBrace) = level d t := by
  induction d, t using braceInduction with
  | nil d => rfl
  | opens d r ih => simpa [isBrace] using ih
  | stray r => simp [isBrace]
  | closes d r ih => simpa [isBrace] using ih
  | other c d r hc ih => simpa [hc, level_other hc] using ih

/-- Only the braces count. -/
theorem balanced_iff_of_filter {a b : Text} (h : a.filter isBrace = b.filter isBrace) :
    Balanced a ↔ Balanced b := by
  unfold Balanced
  rw [← level_filter 0 a, ← level_filter 0 b, h]

theorem Balanced.append {a b : Text} (ha : Balanced a) (hb : Balanced b) : Balanced (a ++ b) := by
  unfold Balanced at *
  rw [level_append, ha]
  exact hb

theorem balanced_of_forall {t : Text} (h : ∀ c ∈ t, isBrace c = false) : Balanced t := by
  have none : t.filter isBrace = [] := List.filter_eq_nil_iff.2 fun c hc => by simp [h c hc]
  rw [balanced_iff_of_filter (b := []) none]
  rfl

theorem Balanced.wrap {t : Text} (h : Balanced t) : Balanced ('{' :: t ++ ['}']) := by
  unfold Balanced
  rw [List.cons_append, level_open, level_append, h.level]
  rfl

/-- The closing brace is looked for behind a text that leaves some braces open. -/
theorem closeBrace_append {d k : Nat} {t : Text} (h : level d t = some k) (r : Text) :
    closeBrace d (t ++ r) = (closeBrace k r).map fun (inner, rest) => (t ++ inner, rest) := by
  induction d, t using braceInduction with
  | nil d =>
    cases h
    simp
  | opens d t ih =>
    rw [List.cons_append, closeBrace_open, ih (by simpa using h), Option.map_map]
    rfl
  | stray t => simp at h
  | closes d t ih =>
    rw [List.cons_append, closeBrace_close_succ, ih (by simpa using h), Option.map_map]
    rfl
  | other c d t hc ih =>
    rw [List.cons_append, closeBrace_other hc, ih (by simpa [level_other hc] using h),
      Option.map_map]
    rfl

theorem closeBrace_of_balanced {t : Text} (h : Balanced t) (r : Text) :
    closeBrace 0 (t ++ '}' :: r) = some (t, r) := by
  rw [closeBrace_append h, closeBrace_close_zero]
  simp

theorem eq_of_closeBrace {d : Nat} {t inner rest : Text} (h : closeBrace d t = some (inner, rest)) :
    t = inner ++ '}' :: rest ∧ level d inner = some 0 := by
  induction d, t using braceInduction generalizing inner with
  | nil d => simp [closeBrace] at h
  | opens d t ih =>
    rw [closeBrace_open] at h
    obtain ⟨⟨more, left⟩, hc, h⟩ := Option.map_eq_some_iff.1 h
    cases h
    obtain ⟨rfl, hl⟩ := ih hc
    exact ⟨rfl, by simpa using hl⟩
  | stray t =>
    cases h
    exact ⟨rfl, rfl⟩
  | closes d t ih =>
    rw [closeBrace_close_succ] at h
    obtain ⟨⟨more, left⟩, hc, h⟩ := Option.map_eq_some_iff.1 h
    cases h
    obtain ⟨rfl, hl⟩ := ih hc
    exact ⟨rfl, by simpa using hl⟩
  | other c d t hb ih =>
    rw [closeBrace_other hb] at h
    obtain ⟨⟨more, left⟩, hc, h⟩ := Option.map_eq_some_iff.1 h
    cases h
    obtain ⟨rfl, hl⟩ := ih hc
    exact ⟨rfl, by simpa [level_other hb] using hl⟩

end MudClient.Script
