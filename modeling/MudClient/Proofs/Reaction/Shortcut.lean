import MudClient.Proofs.Script.Reading
import MudClient.Proofs.Text
import MudClient.Proofs.Unicode.LetterCase
import MudClient.Reaction.Shortcut
/-! Shortcuts and scripts. A shortcut has the braces of the text it was read from, and no white
space that was not in it. -/
namespace MudClient

namespace Shortcut

open Script (isBrace)

def shownModifiers (s : Shortcut) : Text :=
  ((if s.ctrl then ["Ctrl".toList] else []) ++ (if s.alt then ["Alt".toList] else []) ++
    (if s.shift then ["Shift".toList] else [])).flatMap (· ++ " + ".toList)

theorem display_eq (s : Shortcut) : s.display = s.shownModifiers ++ s.key := by
  obtain ⟨key, ctrl, alt, shift⟩ := s
  cases ctrl <;> cases alt <;> cases shift <;>
    simp [display, shownModifiers, Text.join, List.intercalate]

theorem shownModifiers_plain (s : Shortcut) :
    ∀ c ∈ s.shownModifiers, isBrace c = false ∧ c ≠ '\n' := by
  have shown : ∀ ctrl alt shift,
      (shownModifiers ⟨[], ctrl, alt, shift⟩).all fun c => !isBrace c && c != '\n' := by
    decide
  have plain : s.shownModifiers.all fun c => !isBrace c && c != '\n' :=
    shown s.ctrl s.alt s.shift
  simpa using plain

theorem filter_shownModifiers (s : Shortcut) : s.shownModifiers.filter isBrace = [] :=
  List.filter_eq_nil_iff.2 fun c hc => by simp [(s.shownModifiers_plain c hc).1]

theorem filter_normalizeKey (t : Text) : (normalizeKey t).filter isBrace = t.filter isBrace := by
  cases t with
  | nil => rfl
  | cons c r =>
    have rest : (r.flatMap Unicode.toLower).filter isBrace = r.filter isBrace := by
      induction r with
      | nil => rfl
      | cons d r ih =>
        rw [List.flatMap_cons, List.filter_append, ih, Unicode.filter_toLower,
          ← List.filter_append, List.singleton_append]
    rw [normalizeKey, List.filter_append, rest, Unicode.filter_toUpper, ← List.filter_append,
      List.singleton_append]

theorem mem_of_mem_normalizeKey {t : Text} {c : Char} (h : c ∈ normalizeKey t)
    (hc : Unicode.isSpecial c) : c ∈ t := by
  cases t with
  | nil => exact h
  | cons d r =>
    rcases List.mem_append.1 h with h | h
    · rw [Unicode.eq_of_mem_toUpper h hc]
      exact List.mem_cons_self
    · obtain ⟨e, he, h⟩ := List.mem_flatMap.1 h
      rw [Unicode.eq_of_mem_toLower h hc]
      exact List.mem_cons_of_mem _ he

theorem filter_of_modifier? {part : Text} {m : Modifier} (h : modifier? part = some m) :
    part.filter isBrace = [] := by
  rw [← Unicode.filter_lower]
  unfold modifier? Modifier.ofName? at h
  split at h
  · rename_i hn
    rcases hn with hn | hn <;> rw [hn] <;> rfl
  · split at h
    · rename_i hn
      rw [hn]
      rfl
    · split at h
      · rename_i hn
        rw [hn]
        rfl
      · cases h

/-- The plus signs are all that the parts lack. -/
theorem flatMap_splitAtChar (t : Text) :
    (Text.splitAtChar '+' t).flatMap (·.filter isBrace) = t.filter isBrace := by
  unfold Text.splitAtChar
  induction t with
  | nil => simp
  | cons c r ih =>
    rw [List.splitOnP_cons_eq_if_modifyHead]
    split
    · rename_i hc
      rw [List.flatMap_cons, List.filter_nil, List.nil_append, ih]
      simp [show c = '+' by simpa using hc, isBrace]
    · cases hs : r.splitOnP (· == '+') with
      | nil => simp at hs
      | cons first more =>
        rw [List.filter_cons, ← ih, hs]
        by_cases hc : isBrace c <;> simp [hc]

theorem flatMap_parts (t : Text) : (parts t).flatMap (·.filter isBrace) = t.filter isBrace := by
  rw [parts, List.flatMap_map, ← flatMap_splitAtChar t]
  congr 1
  funext part
  exact Script.filter_trim part

theorem mem_of_mem_parts {t part : Text} {c : Char} (h : part ∈ parts t) (hc : c ∈ part) :
    c ∈ t := by
  obtain ⟨piece, hp, rfl⟩ := List.mem_map.1 h
  exact Text.mem_of_mem_splitAtChar hp ((Text.trim_sublist piece).subset hc)

/-- A shortcut comes from one part of a text, and the other parts have no braces. -/
theorem exists_part_of_parse? {t : Text} {s : Shortcut} (h : parse? t = some s) :
    ∃ part ∈ parts t, s.key = normalizeKey part ∧ part.filter isBrace = t.filter isBrace := by
  unfold parse? at h
  dsimp only at h
  split at h
  · rename_i key hkey
    split at h
    · cases h
    · cases h
      refine ⟨key, (List.mem_filter.1 (hkey ▸ List.mem_singleton_self key)).1, rfl, ?_⟩
      rw [← flatMap_parts t]
      have rest (ps : List Text) : ps.flatMap (·.filter isBrace) =
          (ps.filter fun p => (modifier? p).isNone).flatMap (·.filter isBrace) := by
        induction ps with
        | nil => rfl
        | cons p ps ih =>
          cases hm : modifier? p with
          | none => simp [hm, ih]
          | some m => simp [hm, ih, filter_of_modifier? hm]
      rw [rest, hkey]
      simp
  · cases h

theorem filter_display {t : Text} {s : Shortcut} (h : parse? t = some s) :
    s.display.filter isBrace = t.filter isBrace := by
  obtain ⟨part, -, hkey, hpart⟩ := exists_part_of_parse? h
  rw [display_eq, List.filter_append, filter_shownModifiers, hkey, filter_normalizeKey, hpart,
    List.nil_append]

theorem mem_of_mem_key {t : Text} {s : Shortcut} (h : parse? t = some s) {c : Char}
    (hc : c ∈ s.key) (hb : Text.isBlank c) : c ∈ t := by
  obtain ⟨part, hpart, hkey, -⟩ := exists_part_of_parse? h
  rw [hkey] at hc
  exact mem_of_mem_parts hpart (mem_of_mem_normalizeKey hc (by simp [Unicode.isSpecial, hb]))

end Shortcut
end MudClient
