import Mathlib.Data.List.TakeWhile
import MudClient.Proofs.Script.Escape
import MudClient.Proofs.Script.Template
/-! Placeholders. A dollar sign behind a backslash is no placeholder, and no placeholder goes on
behind a character that can be in none. So a template is read piece by piece, and what a variable
holds is put in as it stands. -/
namespace MudClient.Script

variable {a b r name : Text} {c : Char}

/-- What comes before the text cannot be a placeholder that goes on in it. -/
def IsBoundary (b : Text) : Prop :=
  b = [] ∨ ∃ c r, b = c :: r ∧ Unicode.isWord c = false ∧ c ≠ '$' ∧ c ≠ '{' ∧ c ≠ '}'

theorem IsBoundary.notWord (h : IsBoundary b) : ∀ c ∈ b.head?, Unicode.isWord c = false := by
  obtain rfl | ⟨c, r, rfl, hw, -⟩ := h <;> simp_all

theorem takeWhile_append_of_head? {p : Char → Bool} (h : ∀ c ∈ b.head?, p c = false) (a : Text) :
    (a ++ b).takeWhile p = a.takeWhile p := by
  induction a with
  | nil => cases b <;> simp_all
  | cons c a ih => simp [List.takeWhile_cons, ih]

theorem dropWhile_append_of_head? {p : Char → Bool} (h : ∀ c ∈ b.head?, p c = false) (a : Text) :
    (a ++ b).dropWhile p = a.dropWhile p ++ b := by
  induction a with
  | nil => cases b <;> simp_all
  | cons c a ih =>
    simp only [List.cons_append, List.dropWhile_cons, ih]
    split <;> rfl

theorem variableName?_of_ne (h : r.head? ≠ some '{') : variableName? r =
    match r.takeWhile Unicode.isWord with
    | [] => none
    | c :: name => some (c :: name, r.dropWhile Unicode.isWord) := by
  unfold variableName?
  split
  · simp at h
  · rfl

/-- The name after a dollar sign does not change with what stands behind a boundary. -/
theorem variableName?_append (h : IsBoundary b) (r : Text) :
    variableName? (r ++ b) = (variableName? r).map fun found => (found.1, found.2 ++ b) := by
  have take := takeWhile_append_of_head? h.notWord
  have drop := dropWhile_append_of_head? h.notWord
  cases r with
  | nil =>
    obtain rfl | ⟨c, b, rfl, hw, -, open?, -⟩ := h
    · simp [variableName?]
    · simp [variableName?, hw, open?]
  | cons c r =>
    by_cases hc : c = '{'
    · subst hc
      simp only [List.cons_append, variableName?, take, drop]
      cases hr : r.dropWhile Unicode.isWord with
      | nil =>
        obtain rfl | ⟨c, b, rfl, -, -, -, close?⟩ := h <;> simp_all
      | cons e rest =>
        by_cases he : e = '}'
        · subst he
          cases r.takeWhile Unicode.isWord <;> rfl
        · simp [he]
    · rw [variableName?_of_ne (by simpa using hc), variableName?_of_ne (by simpa using hc), take,
        drop]
      cases (c :: r).takeWhile Unicode.isWord <;> rfl

theorem parts_dollar (r : Text) : parts ('$' :: r) =
    match variableName? r with
    | some (name, rest) => .name name :: parts rest
    | none => .char '$' :: parts r := by
  rw [parts]
  split <;> simp_all

theorem parts_escaped (r : Text) : parts ('\\' :: '$' :: r) = .char '$' :: parts r := by
  rw [parts]

theorem parts_other (hc : c ≠ '$') (h : c = '\\' → r.head? ≠ some '$') :
    parts (c :: r) = .char c :: parts r := by
  rw [parts]
  · rintro u rfl rfl
    exact h rfl rfl
  · exact fun e => hc e

/-- A template is read up to a boundary and then from there on. -/
theorem parts_append (h : IsBoundary b) (a : Text) : parts (a ++ b) = parts a ++ parts b := by
  fun_induction parts a with
  | case1 r ih => rw [List.cons_append, List.cons_append, parts_escaped, ih, List.cons_append]
  | case2 r name rest hr ih =>
    rw [List.cons_append, parts_dollar, variableName?_append h, hr, List.cons_append, ← ih]
    rfl
  | case3 r hr ih =>
    rw [List.cons_append, parts_dollar, variableName?_append h, hr, List.cons_append, ← ih]
    rfl
  | case4 c r hescaped hdollar ih =>
    have hc : c ≠ '$' := hdollar
    rw [List.cons_append, parts_other hc, ih, List.cons_append]
    rintro rfl
    cases r with
    | nil => obtain rfl | ⟨e, b, rfl, -, dollar, -⟩ := h <;> simp_all
    | cons e r =>
      rintro he
      cases (Option.some.inj he : e = '$')
      exact hescaped r rfl rfl
  | case5 => rw [List.nil_append, List.nil_append]

/-- Nothing of an escaped text is a placeholder. -/
theorem parts_escape (t : Text) : parts (Text.escape '$' t) = t.map .char := by
  induction t with
  | nil => simp [parts]
  | cons c t ih =>
    by_cases hc : c = '$'
    · rw [hc, Text.escape_special, parts_escaped, ih, List.map_cons]
    · rw [Text.escape_other hc, parts_other hc fun _ => Text.head?_escape_ne (by decide) t, ih,
        List.map_cons]

theorem variableName?_braced (hn : name ≠ []) (hw : ∀ c ∈ name, Unicode.isWord c) (b : Text) :
    variableName? ('{' :: (name ++ '}' :: b)) = some (name, b) := by
  have close : ∀ c ∈ ('}' :: b).head?, Unicode.isWord c = false := by
    simp only [List.head?_cons, Option.mem_some_iff, forall_eq']
    decide
  have take : name.takeWhile Unicode.isWord = name := List.takeWhile_eq_self_iff.2 hw
  have drop : name.dropWhile Unicode.isWord = [] := List.dropWhile_eq_nil_iff.2 hw
  obtain ⟨c, name, rfl⟩ := List.exists_cons_of_ne_nil hn
  simp only [variableName?, takeWhile_append_of_head? close, dropWhile_append_of_head? close, take,
    drop, List.nil_append]

theorem variableName?_plain (hn : name ≠ []) (hw : ∀ c ∈ name, Unicode.isWord c)
    (hb : ∀ c ∈ b.head?, Unicode.isWord c = false) :
    variableName? (name ++ b) = some (name, b) := by
  have take : name.takeWhile Unicode.isWord = name := List.takeWhile_eq_self_iff.2 hw
  have drop : name.dropWhile Unicode.isWord = [] := List.dropWhile_eq_nil_iff.2 hw
  obtain ⟨c, name, rfl⟩ := List.exists_cons_of_ne_nil hn
  have hc : c ≠ '{' := by
    rintro rfl
    exact absurd (hw '{' List.mem_cons_self) (by decide)
  rw [variableName?_of_ne (by simpa using hc), takeWhile_append_of_head? hb,
    dropWhile_append_of_head? hb, take, drop, List.nil_append]

theorem replaceVariables_eq (t : Text) (l : Locals) :
    replaceVariables t l = (parts t).flatMap (Part.fill l.value) := substitute_eq_flatMap _ t

theorem replaceVariables_escape (t : Text) (l : Locals) :
    replaceVariables (Text.escape '$' t) l = t := by
  rw [replaceVariables_eq, parts_escape, Part.flatMap_fill_char]

theorem replaceVariables_append (h : IsBoundary b) (a : Text) (l : Locals) :
    replaceVariables (a ++ b) l = replaceVariables a l ++ replaceVariables b l := by
  simp only [replaceVariables_eq, parts_append h, List.flatMap_append]

/-- The value of a variable stands where its name stood, and is not searched. -/
theorem replaceVariables_name {r : Text} (h : variableName? r = some (name, b)) (l : Locals) :
    replaceVariables ('$' :: r) l = l.value name ++ replaceVariables b l := by
  simp only [replaceVariables_eq, parts_dollar, h, List.flatMap_cons, Part.fill]

/-- Every text can be escaped so that it is sent as it stands, and substitution is local: a text is
replaced up to a boundary and from there on, and a placeholder by what its variable holds. -/
theorem replaceVariables_local (l : Locals) :
    (∀ t, replaceVariables (Text.escape '$' t) l = t) ∧
    (∀ a b, IsBoundary b →
      replaceVariables (a ++ b) l = replaceVariables a l ++ replaceVariables b l) ∧
    ∀ name b, name ≠ [] → (∀ c ∈ name, Unicode.isWord c) →
      replaceVariables ('$' :: '{' :: (name ++ '}' :: b)) l =
        l.value name ++ replaceVariables b l ∧
      ((∀ c ∈ b.head?, Unicode.isWord c = false) →
        replaceVariables ('$' :: (name ++ b)) l = l.value name ++ replaceVariables b l) :=
  ⟨fun t => replaceVariables_escape t l, fun a _ h => replaceVariables_append h a l,
    fun _ b hn hw => ⟨replaceVariables_name (variableName?_braced hn hw b) l,
      fun hb => replaceVariables_name (variableName?_plain hn hw hb) l⟩⟩

/-- A variable that holds a placeholder, with one that is not closed in front of a boundary. -/
theorem replaceVariables_local_dollars :
    let l : Locals := (Locals.empty.set ['n'] "$m".toList).set ['m'] ['x']
    replaceVariables "$\x7bn".toList l = "$\x7bn".toList ∧
    replaceVariables ("$\x7bn".toList ++ "-\x7d$n$m\\$m".toList) l =
      "$\x7bn".toList ++ "-\x7d$mx$m".toList ∧
    replaceVariables ('$' :: (['n'] ++ "$\x7bn\x7d".toList)) l = "$m".toList ++ "$m".toList := by
  intro l
  obtain ⟨-, append, name⟩ := replaceVariables_local l
  have open? : replaceVariables "$\x7bn".toList l = "$\x7bn".toList := by decide +kernel
  have rest : replaceVariables "-\x7d$n$m\\$m".toList l = "-\x7d$mx$m".toList := by decide +kernel
  have value : l.value ['n'] = "$m".toList := by decide +kernel
  have last : replaceVariables "$\x7bn\x7d".toList l = "$m".toList := by decide +kernel
  refine ⟨open?, ?_, ?_⟩
  · have boundary : IsBoundary "-\x7d$n$m\\$m".toList := .inr ⟨'-', _, rfl, by decide, by decide⟩
    rw [append _ _ boundary, open?, rest]
  · have isName : ∀ c ∈ ['n'], Unicode.isWord c := List.forall_mem_singleton.2 (by decide +kernel)
    have ends : ∀ c ∈ "$\x7bn\x7d".toList.head?, Unicode.isWord c = false := by
      rintro c ⟨⟩
      decide +kernel
    rw [(name ['n'] "$\x7bn\x7d".toList (by decide) isName).2 ends, value, last]

end MudClient.Script
