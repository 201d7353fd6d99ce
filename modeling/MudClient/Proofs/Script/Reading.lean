import Mathlib.Data.List.TakeWhile
import Mathlib.Tactic.ByContra
import MudClient.Proofs.Script.Separator
/-! What the readers of a script take. The equations say what each does with the character at hand;
from them come the shapes of what any text is read as. -/
namespace MudClient.Script

open Separator (Escaped escaped_of_not_mem)

def isWordChar (c : Char) : Bool := !Text.isBlank c

theorem arguments_eq (flags : Flags) (t : Text) : arguments flags t =
    match t.dropWhile isInlineSpace with
    | [] => .ok ([], flags, [])
    | '\n' :: r => .ok ([], flags, '\n' :: r)
    | '{' :: r =>
      match closeBrace 0 r with
      | none => .error ('{' :: r)
      | some (inner, rest) =>
        (arguments flags rest).map fun (args, e) => (argumentOfBraces inner :: args, e)
    | c :: r =>
      match flagOfWord? (c :: r.takeWhile isWordChar) with
      | some (name, value) => arguments (flags.insert name value) (r.dropWhile isWordChar)
      | none => (arguments flags (r.dropWhile isWordChar)).map fun (args, e) =>
          (.plain (c :: r.takeWhile isWordChar) :: args, e) := by
  rw [arguments]
  split
  · rename_i h
    simp [h]
  · rename_i h
    simp [h]
  · rename_i r h
    cases hc : closeBrace 0 r with
    | none => simp [h, hc]
    | some found => simp [h, hc]
  · rename_i c r h1 h2 h
    have word : (fun c => !Text.isBlank c) = isWordChar := rfl
    cases hf : flagOfWord? (c :: r.takeWhile isWordChar) with
    | none => simp_all
    | some flag => simp_all

theorem arguments_space (flags : Flags) {c : Char} (hc : isInlineSpace c) (t : Text) :
    arguments flags (c :: t) = arguments flags t := by
  rw [arguments_eq, List.dropWhile_cons_of_pos hc, ← arguments_eq]

@[simp] theorem arguments_nil (flags : Flags) : arguments flags [] = .ok ([], flags, []) := by
  rw [arguments_eq]
  rfl

@[simp] theorem arguments_newline (flags : Flags) (r : Text) :
    arguments flags ('\n' :: r) = .ok ([], flags, '\n' :: r) := by
  rw [arguments_eq]
  rfl

theorem arguments_brace (flags : Flags) (r : Text) : arguments flags ('{' :: r) =
    match closeBrace 0 r with
    | none => .error ('{' :: r)
    | some (inner, rest) =>
      (arguments flags rest).map fun (args, e) => (argumentOfBraces inner :: args, e) := by
  rw [arguments_eq]
  rfl

theorem arguments_word (flags : Flags) {c : Char} (hb : Text.isBlank c = false) (hc : c ≠ '{')
    (r : Text) : arguments flags (c :: r) =
      match flagOfWord? (c :: r.takeWhile isWordChar) with
      | some (name, value) => arguments (flags.insert name value) (r.dropWhile isWordChar)
      | none => (arguments flags (r.dropWhile isWordChar)).map fun (args, e) =>
          (.plain (c :: r.takeWhile isWordChar) :: args, e) := by
  have hs : ¬ isInlineSpace c := by simp [isInlineSpace, hb]
  have hn : c ≠ '\n' := by
    rintro rfl
    exact absurd hb (by decide)
  rw [arguments_eq, List.dropWhile_cons_of_neg hs]
  split <;> simp_all

theorem map_eq_ok {ε α β : Type} {f : α → β} {x : Except ε α} {b : β} :
    x.map f = .ok b ↔ ∃ a, x = .ok a ∧ f a = b := by
  cases x <;> simp [Except.map]

theorem argumentOfBraces_ne_plain (inner word : Text) : argumentOfBraces inner ≠ .plain word := by
  unfold argumentOfBraces
  split <;> simp

theorem exists_of_arguments_brace {flags flags' : Flags} {r rest : Text} {args : List Argument}
    (h : arguments flags ('{' :: r) = .ok (args, flags', rest)) :
    ∃ inner left more, closeBrace 0 r = some (inner, left) ∧
      arguments flags left = .ok (more, flags', rest) ∧ args = argumentOfBraces inner :: more := by
  rw [arguments_brace] at h
  split at h
  · cases h
  · rename_i inner left hc
    obtain ⟨⟨more, e⟩, hm, he⟩ := map_eq_ok.1 h
    cases he
    exact ⟨inner, left, more, hc, hm, rfl⟩

/-- What is read behind a word, be it a flag or not. -/
theorem exists_of_arguments_word {flags flags' : Flags} {c : Char} {r rest : Text}
    {args : List Argument} (hb : Text.isBlank c = false) (hc : c ≠ '{')
    (h : arguments flags (c :: r) = .ok (args, flags', rest)) :
    ∃ flags more, arguments flags (r.dropWhile isWordChar) = .ok (more, flags', rest) := by
  rw [arguments_word flags hb hc] at h
  split at h
  · exact ⟨_, _, h⟩
  · obtain ⟨⟨more, e⟩, hm, he⟩ := map_eq_ok.1 h
    cases he
    exact ⟨_, _, hm⟩

theorem statements_nil {t : Text} (h : t.dropWhile Text.isBlank = []) : statements t = .ok [] := by
  rw [statements]
  split
  · rfl
  · simp_all

theorem statements_cons {t r : Text} {c : Char} (h : t.dropWhile Text.isBlank = c :: r) :
    statements t = match statement (c :: r) with
      | .error left => .error left
      | .ok (s, rest) => (statements rest).map (s :: ·) := by
  rw [statements]
  split
  · simp_all
  · rename_i d u hd
    obtain ⟨rfl, rfl⟩ := List.cons.inj (h.symm.trans hd)
    split <;> simp_all

theorem statements_cons_blank {c : Char} (hc : Text.isBlank c) (t : Text) :
    statements (c :: t) = statements t := by
  cases hd : t.dropWhile Text.isBlank with
  | nil =>
    rw [statements_nil hd, statements_nil (by rw [List.dropWhile_cons_of_pos hc, hd])]
  | cons d r =>
    rw [statements_cons hd, statements_cons (by rw [List.dropWhile_cons_of_pos hc, hd])]

theorem filter_dropWhile {p q : Char → Bool} (h : ∀ c, q c → p c = false) (t : Text) :
    (t.dropWhile q).filter p = t.filter p := by
  induction t with
  | nil => rfl
  | cons c r ih =>
    by_cases hc : q c
    · rw [List.dropWhile_cons_of_pos hc, ih, List.filter_cons_of_neg (by simp [h c hc])]
    · rw [List.dropWhile_cons_of_neg hc]

theorem isBrace_of_isBlank {c : Char} (h : Text.isBlank c) : isBrace c = false := by
  rw [isBrace_eq_false]
  constructor <;> rintro rfl <;> exact absurd h (by decide)

theorem filter_trim (t : Text) : (Text.trim t).filter isBrace = t.filter isBrace := by
  have start (t : Text) : (t.dropWhile Text.isBlank).filter isBrace = t.filter isBrace :=
    filter_dropWhile (fun _ => isBrace_of_isBlank) t
  simp only [Text.trim, Text.trimEnd, Text.dropEndWhile, Text.trimStart, List.filter_reverse, start,
    List.reverse_reverse]

theorem filter_foreignSource (t : Text) : (foreignSource t).filter isBrace = t.filter isBrace := by
  unfold foreignSource
  rw [filter_trim]
  split
  · simp [isBrace]
  · rfl

/-- What an argument that was read may be. -/
def Argument.IsRead : Argument → Prop
  | plain word => ∀ c ∈ word, Text.isBlank c = false
  | braced text => Balanced text
  | foreign source => Balanced source

theorem isRead_argumentOfBraces {inner : Text} (h : Balanced inner) :
    (argumentOfBraces inner).IsRead := by
  unfold argumentOfBraces
  split
  · exact (balanced_iff_of_filter (filter_foreignSource inner)).2 h
  · exact h

theorem isBlank_of_dropWhile {t r : Text} {c : Char} (h : t.dropWhile isInlineSpace = c :: r)
    (hn : c ≠ '\n') : Text.isBlank c = false := by
  have hc := List.head?_dropWhile_not isInlineSpace t
  simpa [h, isInlineSpace, hn] using hc

/-- What holds of every balanced group and of every word holds of all arguments. -/
theorem forall_arguments {p : Argument → Prop}
    (group : ∀ inner, Balanced inner → p (argumentOfBraces inner))
    (word : ∀ w, (∀ c ∈ w, Text.isBlank c = false) → p (.plain w)) {flags flags' : Flags}
    {t rest : Text} {args : List Argument} (h : arguments flags t = .ok (args, flags', rest)) :
    ∀ a ∈ args, p a := by
  fun_induction arguments flags t generalizing args with
  | case1 | case2 =>
    cases h
    simp
  | case3 => cases h
  | case4 flags t r ht inner left hc ih =>
    obtain ⟨⟨more, _, _⟩, ha, h⟩ := map_eq_ok.1 h
    cases h
    exact List.forall_mem_cons.2 ⟨group inner (eq_of_closeBrace hc).2, ih ha⟩
  | case5 =>
    rename_i ih
    exact ih h
  | case6 flags t c r hn _ ht =>
    rename_i ih
    obtain ⟨⟨more, _, _⟩, ha, h⟩ := map_eq_ok.1 h
    cases h
    have hc : Text.isBlank c = false := isBlank_of_dropWhile ht hn
    refine List.forall_mem_cons.2 ⟨word _ (List.forall_mem_cons.2 ⟨hc, fun d hd => ?_⟩), ih ha⟩
    simpa using List.mem_takeWhile_imp hd

theorem isRead_of_arguments {flags flags' : Flags} {t rest : Text} {args : List Argument}
    (h : arguments flags t = .ok (args, flags', rest)) : ∀ a ∈ args, a.IsRead :=
  forall_arguments (fun _ => isRead_argumentOfBraces) (fun _ hw => hw) h

/-- A word ends at white space, so no semicolon is cut from its backslash. -/
theorem escaped_word {c : Char} {r : Text} (h : Escaped (c :: r)) :
    Escaped (c :: r.takeWhile isWordChar) ∧ Escaped (r.dropWhile isWordChar) := by
  rw [← List.takeWhile_append_dropWhile (p := isWordChar) (l := r), ← List.cons_append] at h
  refine ⟨h.of_append_left, h.of_append_right fun hd => ?_⟩
  have hs := List.head?_dropWhile_not isWordChar r
  rw [hd] at hs
  exact absurd hs (by decide)

/-- In a text whose semicolons are escaped, those of the words are. -/
theorem escaped_of_arguments {flags flags' : Flags} {t rest : Text} {args : List Argument}
    (h : arguments flags t = .ok (args, flags', rest)) (ht : Escaped t) :
    (∀ word, .plain word ∈ args → Escaped word) ∧ Escaped rest := by
  fun_induction arguments flags t generalizing args with
  | case1 =>
    cases h
    exact ⟨by simp, escaped_of_not_mem (by simp)⟩
  | case2 flags t r hd =>
    cases h
    exact ⟨by simp, hd ▸ ht.dropWhile (by decide)⟩
  | case3 => cases h
  | case4 flags t r hd inner left hc ih =>
    obtain ⟨⟨more, _, _⟩, ha, h⟩ := map_eq_ok.1 h
    cases h
    have hi : Escaped (('{' :: inner ++ ['}']) ++ left) := by
      rw [List.append_assoc, List.cons_append, List.singleton_append, ← (eq_of_closeBrace hc).1,
        ← hd]
      exact ht.dropWhile (by decide)
    obtain ⟨hw, hr⟩ := ih ha (hi.of_append (by rw [List.getLast?_append]; simp))
    refine ⟨fun word hm => ?_, hr⟩
    rcases List.mem_cons.1 hm with hm | hm
    · exact absurd hm.symm (argumentOfBraces_ne_plain inner word)
    · exact hw word hm
  | case5 flags t c r hn _ hd =>
    rename_i ih
    exact ih h (escaped_word (hd ▸ ht.dropWhile (by decide))).2
  | case6 flags t c r hn _ hd =>
    rename_i ih
    obtain ⟨⟨more, _, _⟩, ha, h⟩ := map_eq_ok.1 h
    cases h
    have hword := escaped_word (hd ▸ ht.dropWhile (by decide))
    obtain ⟨hw, hr⟩ := ih ha hword.2
    refine ⟨fun word hm => ?_, hr⟩
    rcases List.mem_cons.1 hm with hm | hm
    · cases hm
      exact hword.1
    · exact hw word hm

end MudClient.Script
