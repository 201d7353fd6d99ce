import Mathlib.Data.List.DropRight
import MudClient.Text
/-! Cutting a text at a character, and taking the white space off its ends. -/
namespace MudClient.Text

variable {sep c : Char} {t part : Text}

theorem join_splitAtChar (sep : Char) (t : Text) : join [sep] (splitAtChar sep t) = t :=
  List.intercalate_splitOn sep

theorem mem_of_mem_splitAtChar (h : part ∈ splitAtChar sep t) (hc : c ∈ part) : c ∈ t := by
  unfold splitAtChar at h
  induction t generalizing part with
  | nil =>
    rw [List.splitOnP_nil, List.mem_singleton] at h
    simp [h] at hc
  | cons d r ih =>
    rw [List.splitOnP_cons_eq_if_modifyHead] at h
    split at h
    · rcases List.mem_cons.1 h with rfl | h
      · simp at hc
      · exact List.mem_cons_of_mem _ (ih h hc)
    · cases hs : r.splitOnP (· == sep) with
      | nil => simp at hs
      | cons first more =>
        rw [hs, List.modifyHead_cons] at h
        rcases List.mem_cons.1 h with rfl | h
        · rcases List.mem_cons.1 hc with rfl | hc
          · exact List.mem_cons_self
          · have own : first ∈ r.splitOnP (· == sep) := by simp [hs]
            exact List.mem_cons_of_mem _ (ih own hc)
        · exact List.mem_cons_of_mem _ (ih (by simp [hs, h]) hc)

theorem not_mem_of_mem_splitAtChar (h : part ∈ splitAtChar sep t) : sep ∉ part := by
  unfold splitAtChar at h
  induction t generalizing part with
  | nil =>
    rw [List.splitOnP_nil, List.mem_singleton] at h
    simp [h]
  | cons c t ih =>
    rw [List.splitOnP_cons_eq_if_modifyHead] at h
    split at h
    · rcases List.mem_cons.1 h with rfl | h
      · exact List.not_mem_nil
      · exact ih h
    · rename_i hc
      cases hs : t.splitOnP (· == sep) with
      | nil => simp at hs
      | cons first more =>
        rw [hs, List.modifyHead_cons] at h
        rcases List.mem_cons.1 h with rfl | h
        · have : sep ≠ c := fun same => hc (by simp [same])
          have own : sep ∉ first := ih (by simp [hs])
          simp [this, own]
        · exact ih (by simp [hs, h])

theorem length_splitAtChar (sep : Char) (t : Text) :
    (splitAtChar sep t).length = t.count sep + 1 := by
  unfold splitAtChar
  induction t with
  | nil => rfl
  | cons c t ih =>
    rw [List.splitOnP_cons_eq_if_modifyHead, List.count_cons]
    split <;> simp [ih]

theorem splitAtChar_of_not_mem (h : sep ∉ t) : splitAtChar sep t = [t] :=
  List.splitOnP_eq_singleton fun _ he => beq_eq_false_iff_ne.2 fun same => h (same ▸ he)

/-! ### White space at the ends -/

theorem trim_sublist (t : Text) : (trim t).Sublist t := by
  have ending : (trim t).Sublist (trimStart t) := (List.rdropWhile_prefix isBlank _).sublist
  exact ending.trans (List.dropWhile_suffix isBlank).sublist

theorem trim_cons_blank (hc : isBlank c) (t : Text) : trim (c :: t) = trim t := by
  rw [trim, trimStart, List.dropWhile_cons_of_pos hc]
  rfl

theorem trim_spaced (t : Text) : trim (' ' :: t ++ [' ']) = trim t := by
  have end_ (t : Text) : trimEnd (t ++ [' ']) = trimEnd t := by
    rw [trimEnd, dropEndWhile, List.reverse_append, List.reverse_singleton,
      List.singleton_append, List.dropWhile_cons_of_pos (by decide)]
    rfl
  rw [List.cons_append, trim_cons_blank rfl, trim, trimStart, List.dropWhile_append, trim,
    trimStart]
  split
  · rename_i h
    rw [List.isEmpty_iff.1 h]
    rfl
  · exact end_ _

theorem isBlank_trimEnd (t : Text) : ∀ c ∈ (trimEnd t).getLast?, isBlank c = false := by
  intro c hc
  rw [trimEnd, dropEndWhile, List.getLast?_reverse] at hc
  have first := List.head?_dropWhile_not isBlank t.reverse
  rwa [hc] at first

theorem trim_trim (t : Text) : trim (trim t) = trim t := by
  have start : trimStart (trim t) = trim t := by
    have front : trim t <+: trimStart t := List.rdropWhile_prefix isBlank _
    cases h : trim t with
    | nil => rfl
    | cons c r =>
      obtain ⟨more, hm⟩ := h ▸ front
      have first := List.head?_dropWhile_not isBlank t
      rw [show t.dropWhile isBlank = c :: r ++ more from hm.symm] at first
      exact List.dropWhile_cons_of_neg (by simpa using first)
  rw [trim, start]
  exact List.rdropWhile_idempotent isBlank (trimStart t)

theorem trim_eq_nil_iff : trim t = [] ↔ isAllBlank t := by
  have ending : trim t = [] ↔ ∀ c ∈ trimStart t, isBlank c := List.rdropWhile_eq_nil_iff
  rw [ending, isAllBlank, List.all_eq_true]
  constructor
  · intro rest c hc
    rw [← List.takeWhile_append_dropWhile (p := isBlank) (l := t)] at hc
    exact (List.mem_append.1 hc).elim List.mem_takeWhile_imp (rest c)
  · exact fun all c hc => all c ((List.dropWhile_suffix isBlank).subset hc)

end MudClient.Text
