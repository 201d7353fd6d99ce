import Mathlib.Data.List.Induction
import MudClient.Proofs.Script.SingleLine
/-! Escaped texts. A character that a reader would take for its own is kept by a backslash in front
of it, wherever it stands. Semicolons that are escaped come back when the text leaves the script. -/
namespace MudClient

namespace Text

variable {special c : Char} {t : Text}

/-- The text with a backslash before each of its special characters. -/
def escape (special : Char) (t : Text) : Text :=
  t.flatMap fun c => if c = special then ['\\', special] else [c]

@[simp] theorem escape_nil : escape special [] = [] := rfl

@[simp] theorem escape_special (t : Text) :
    escape special (special :: t) = '\\' :: special :: escape special t := by
  simp [escape]

theorem escape_other (hc : c ≠ special) (t : Text) :
    escape special (c :: t) = c :: escape special t := by
  simp [escape, hc]

theorem escape_append (a b : Text) :
    escape special (a ++ b) = escape special a ++ escape special b := List.flatMap_append

theorem head?_escape_ne (h : special ≠ '\\') (t : Text) : (escape special t).head? ≠ some special := by
  cases t with
  | nil => simp
  | cons c t =>
    by_cases hc : c = special
    · simpa [hc] using h.symm
    · simpa [escape_other hc] using hc

theorem mem_of_mem_escape (h : c ∈ escape special t) (hc : c ≠ '\\') : c ∈ t := by
  obtain ⟨e, he, h⟩ := List.mem_flatMap.1 h
  split at h <;> simp_all

/-- The end of a text that is dropped has nothing special in it. -/
theorem dropEndWhile_escape {p : Char → Bool} (h : p special = false) (t : Text) :
    dropEndWhile p (escape special t) = escape special (dropEndWhile p t) := by
  induction t using List.reverseRecOn with
  | nil => rfl
  | append_singleton t c ih =>
    unfold dropEndWhile at ih ⊢
    by_cases hc : c = special
    · subst hc
      simp [escape_append, h]
    · cases hp : p c with
      | true => simpa [escape_append, escape_other hc, hp] using ih
      | false => simp [escape_append, escape_other hc, hp]

end Text

namespace Script.Separator

variable {c : Char} {t : Text}

theorem mem_of_mem_unescape (h : c ∈ unescape t) : c ∈ t := by
  fun_induction unescape t with
  | case1 r ih => rcases List.mem_cons.1 h with rfl | h <;> simp_all
  | case2 e r _ ih => rcases List.mem_cons.1 h with rfl | h <;> simp_all
  | case3 => exact h

/-- A semicolon is not blank, so none that comes out makes a text blank. -/
theorem isAllBlank_unescape (t : Text) : Text.isAllBlank (unescape t) = Text.isAllBlank t := by
  unfold Text.isAllBlank
  fun_induction unescape t with
  | case1 r ih => rfl
  | case2 e r _ ih => rw [List.all_cons, List.all_cons, ih]
  | case3 => rfl

theorem unescape_escape (t : Text) : unescape (Text.escape ';' t) = t := by
  induction t with
  | nil => rfl
  | cons c t ih =>
    by_cases hc : c = ';'
    · rw [hc, Text.escape_special, unescape, ih]
    · rw [Text.escape_other hc, unescape_other fun _ => Text.head?_escape_ne (by decide) t, ih]

theorem isAllBlank_escape (t : Text) : Text.isAllBlank (Text.escape ';' t) = Text.isAllBlank t := by
  rw [← isAllBlank_unescape, unescape_escape]

end Script.Separator
end MudClient
