import Mathlib.Data.List.DropRight
import MudClient.Proofs.Script.Refusal
import MudClient.Proofs.Script.Stable
import MudClient.Proofs.Unicode.Lower
/-! Scripts that are written again. A balanced script can be read. Its statements come back from
their lines unless a plus sign or a space makes code of them, or other code, or a word has a brace
without a partner. -/
namespace MudClient

namespace Script

/-- What was opened within a text is closed in it. -/
theorem exists_closeBrace {d k : Nat} {t : Text} (h : level (d + k + 1) t = some 0) :
    ∃ inner rest, closeBrace k t = some (inner, rest) := by
  induction k, t using braceInduction with
  | nil k => simp at h
  | opens k t ih =>
    obtain ⟨inner, rest, hc⟩ := ih (by simpa [Nat.add_assoc] using h)
    exact ⟨'{' :: inner, rest, by rw [closeBrace_open, hc]; rfl⟩
  | stray t => exact ⟨[], t, rfl⟩
  | closes k t ih =>
    obtain ⟨inner, rest, hc⟩ := ih (by simpa [← Nat.add_assoc] using h)
    exact ⟨'}' :: inner, rest, by rw [closeBrace_close_succ, hc]; rfl⟩
  | other c k t hb ih =>
    obtain ⟨inner, rest, hc⟩ := ih (by simpa [level_other hb] using h)
    exact ⟨c :: inner, rest, by rw [closeBrace_other hb, hc]; rfl⟩

/-- Every brace that is opened in it is closed in it. -/
def IsClosing (t : Text) : Prop := ∃ d, level d t = some 0

theorem IsClosing.of_suffix {t r : Text} (h : IsClosing t) (hr : r <:+ t) : IsClosing r := by
  obtain ⟨d, hd⟩ := h
  obtain ⟨a, rfl⟩ := hr
  rw [level_append] at hd
  obtain ⟨e, -, he⟩ := Option.bind_eq_some_iff.1 hd
  exact ⟨e, he⟩

theorem IsClosing.exists_closeBrace {t : Text} (h : IsClosing ('{' :: t)) :
    ∃ inner rest, closeBrace 0 t = some (inner, rest) := by
  obtain ⟨d, hd⟩ := h
  exact Script.exists_closeBrace (d := d) (k := 0) (by simpa using hd)

/-- No brace in it is a reason to refuse it. -/
theorem exists_statements {t : Text} (h : IsClosing t) : ∃ ss, statements t = .ok ss := by
  cases hs : statements t with
  | ok ss => exact ⟨ss, rfl⟩
  | error left =>
    obtain ⟨suffix, r, rfl, hc⟩ := isUnclosed_of_statements hs
    obtain ⟨inner, rest, hc'⟩ := (h.of_suffix suffix).exists_closeBrace
    cases hc.symm.trans hc'

/-- What an argument that was read is: between braces it is well-formed, without them it ends in no
white space. -/
def Argument.IsTaken : Argument → Prop
  | plain t => ∀ c ∈ t.getLast?, Text.isBlank c = false
  | a => a.WellFormed

theorem isTaken_argumentOfBraces {inner : Text} (h : Balanced inner) :
    (argumentOfBraces inner).IsTaken := by
  unfold argumentOfBraces
  split
  · exact ⟨(balanced_iff_of_filter (filter_foreignSource inner)).2 h, Text.trim_trim _⟩
  · exact ⟨h, ‹_›⟩

theorem isTaken_of_arguments {flags flags' : Flags} {t rest : Text} {args : List Argument}
    (h : arguments flags t = .ok (args, flags', rest)) : ∀ a ∈ args, a.IsTaken :=
  forall_arguments (fun _ => isTaken_argumentOfBraces)
    (fun _ hw c hc => hw c (List.mem_of_getLast? hc)) h

/-- What a statement that was read is. -/
structure Statement.IsTaken (s : Statement) : Prop where
  name : s.isBlock = false → IsFunctionName s.function
  arguments : ∀ a ∈ s.arguments, a.IsTaken
  flags : ∀ f ∈ s.flags.entries, IsFlagName f.1

theorem isFunctionName_lower {name : Text} (ne_nil : name ≠ [])
    (word : ∀ c ∈ name, Text.isBlank c = false) (head_ne : name.head? ≠ some '#')
    (ne_block : Unicode.lower name ≠ blockFunction) : IsFunctionName (Unicode.lower name) := by
  obtain ⟨c, t, rfl⟩ := List.exists_cons_of_ne_nil ne_nil
  obtain ⟨d, r, hl, hd⟩ := Unicode.exists_lower_cons c t
  refine ⟨by simp [hl], Unicode.isBlank_lower word, ?_, ne_block, Unicode.lower_lower _⟩
  rw [hl]
  intro sign
  obtain rfl : d = '#' := Option.some.inj sign
  exact head_ne (congrArg some (hd (by decide)).symm)

theorem isTaken_of_statement {s : Statement} {t rest : Text} (h : statement t = .ok (s, rest)) :
    s.IsTaken := by
  rcases statement_forms t with ⟨u, -, he⟩ | ⟨c, r, rfl, hc, hb, he⟩ | ⟨r, rfl, he⟩
  · rw [he] at h
    cases h
    exact ⟨fun _ => isFunctionName_implicit, List.forall_mem_singleton.2 (Text.isBlank_trimEnd _),
      List.forall_mem_nil _⟩
  · rw [he, callStatement] at h
    obtain ⟨⟨args, flags, left⟩, ha, hs⟩ := map_eq_ok.1 h
    cases hs
    refine ⟨fun call => ?_, isTaken_of_arguments ha,
      isFlagName_of_arguments (List.forall_mem_nil _) ha⟩
    have name : (c :: r).takeWhile isWordChar = c :: r.takeWhile isWordChar :=
      List.takeWhile_cons_of_pos (by simp [isWordChar, hb])
    refine isFunctionName_lower ?_ ?_ ?_ (by simpa [Statement.isBlock] using call)
    · exact fun none => absurd (name.symm.trans none) (by simp)
    · exact fun d hd => by simpa using List.mem_takeWhile_imp hd
    · exact fun sign => hc (Option.some.inj ((congrArg List.head? name).symm.trans sign))
  · rw [he, blockStatement] at h
    split at h
    · cases h
    · rename_i inner left hi
      cases h
      refine ⟨fun call => Bool.noConfusion call, ?_, List.forall_mem_nil _⟩
      have source : Balanced (foreignSource inner) :=
        (balanced_iff_of_filter (filter_foreignSource inner)).2 (eq_of_closeBrace hi).2
      exact List.forall_mem_singleton.2 ⟨source, Text.trim_trim _⟩

/-- An argument is written as a group, which is balanced if its text is, or as a word. -/
theorem format_forms (a : Argument) :
    (∃ t, a.format = '{' :: t ++ ['}'] ∧ (Balanced a.text → Balanced t)) ∨
      needsBraces a.format = false := by
  cases a with
  | plain t | braced t =>
    cases hn : needsBraces t with
    | true => exact .inl ⟨t, if_pos hn, id⟩
    | false => exact .inr (by simp [Argument.format, hn])
  | foreign source =>
    exact .inl ⟨'+' :: ' ' :: source ++ [' '], by simp [Argument.format], balanced_foreignText⟩

/-- Where an argument ends is seen from its own form, if its text is balanced. -/
theorem format_append_inj {a b : Argument} {r u : Text} (ha : Balanced a.text)
    (hb : Balanced b.text) (hr : StartsBlank r) (hu : StartsBlank u)
    (h : a.format ++ r = b.format ++ u) : a.format = b.format ∧ r = u := by
  have group {t : Text} (ht : Balanced t) (r : Text) :
      closeBrace 0 ('{' :: t ++ ['}'] ++ r).tail = some (t, r) := by
    simpa using closeBrace_of_balanced ht r
  have word {w : Text} (hw : needsBraces w = false) (t r u : Text) :
      '{' :: t ++ ['}'] ++ r ≠ w ++ u := by
    obtain ⟨hall, c, s, rfl, -⟩ := needsBraces_eq_false.1 hw
    have hc := (isBrace_eq_false.1 (hall c List.mem_cons_self).2.1).1
    exact fun same => hc (List.cons.inj same).1.symm
  rcases format_forms a with ⟨t, wa, ht⟩ | wa <;> rcases format_forms b with ⟨v, wb, hv⟩ | wb
  · rw [wa, wb] at h
    have first := group (ht ha) r
    rw [h, group (hv hb) u] at first
    cases first
    exact ⟨wa.trans wb.symm, rfl⟩
  · exact absurd (wa ▸ h) (word wb t r u)
  · exact absurd (wb ▸ h).symm (word wa v u r)
  · have first := takeWhile_word (fun c hc => ((needsBraces_eq_false.1 wa).1 c hc).1) hr
    have second := takeWhile_word (fun c hc => ((needsBraces_eq_false.1 wb).1 c hc).1) hu
    rw [h] at first
    exact ⟨first.1.symm.trans second.1, first.2.symm.trans second.2⟩

/-- No argument starts as a flag does. -/
theorem writtenFlags_ne (flags : Flags) (a : Argument) (r : Text) :
    writtenFlags flags ≠ ' ' :: (a.format ++ r) := by
  obtain ⟨c, s, hs, plus, minus⟩ : ∃ c s, a.format = c :: s ∧ c ≠ '+' ∧ c ≠ '-' := by
    rcases format_forms a with ⟨t, ht, -⟩ | hn
    · exact ⟨'{', t ++ ['}'], ht, by decide, by decide⟩
    · obtain ⟨-, c, s, hs, -, signs⟩ := needsBraces_eq_false.1 hn
      exact ⟨c, s, hs, signs⟩
  intro same
  unfold writtenFlags at same
  cases he : flags.entries with
  | nil =>
    rw [he] at same
    cases same
  | cons f more =>
    rw [he, hs] at same
    have first : (if f.2 then '+' else '-') = c := (List.cons.inj (List.cons.inj same).2).1
    split at first
    · exact plus first.symm
    · exact minus first.symm

/-- What is written behind the name of a call's function. -/
def writtenLine (args : List Argument) (flags : Flags) : Text :=
  (args.flatMap fun a => ' ' :: a.format) ++ writtenFlags flags

theorem startsBlank_writtenLine (args : List Argument) (flags : Flags) :
    StartsBlank (writtenLine args flags) := by
  have last := startsBlank_flatMap formatFlag flags.entries (r := []) (by simp [StartsBlank])
  exact startsBlank_flatMap Argument.format args (by simpa [writtenFlags] using last)

/-- Two lines with balanced texts are the same only argument by argument. -/
theorem map_format_eq {as bs : List Argument} {f g : Flags} (ha : ∀ a ∈ as, Balanced a.text)
    (hb : ∀ b ∈ bs, Balanced b.text) (h : writtenLine as f = writtenLine bs g) :
    as.map Argument.format = bs.map Argument.format := by
  have cons (a : Argument) (as : List Argument) (f : Flags) :
      writtenLine (a :: as) f = ' ' :: (a.format ++ writtenLine as f) := by simp [writtenLine]
  induction as generalizing bs with
  | nil =>
    cases bs with
    | nil => rfl
    | cons b bs => exact absurd (h.trans (cons b bs g)) (writtenFlags_ne f b _)
  | cons a as ih =>
    cases bs with
    | nil => exact absurd (h.symm.trans (cons a as f)) (writtenFlags_ne g a _)
    | cons b bs =>
      obtain ⟨ha, has⟩ := List.forall_mem_cons.1 ha
      obtain ⟨hb, hbs⟩ := List.forall_mem_cons.1 hb
      rw [cons, cons] at h
      obtain ⟨first, others⟩ := format_append_inj ha hb (startsBlank_writtenLine as f)
        (startsBlank_writtenLine bs g) (List.cons.inj h).2
      rw [List.map_cons, List.map_cons, first, ih has hbs others]

theorem writtenLine_eq {s w : Statement} (hs : IsFunctionName s.function)
    (hw : IsFunctionName w.function) (h : s.format = w.format) :
    writtenLine s.arguments s.flags = writtenLine w.arguments w.flags := by
  have line {s : Statement} (hs : IsFunctionName s.function) :
      s.format.tail.dropWhile isWordChar = writtenLine s.arguments s.flags := by
    have written := format_call hs.isBlock []
    rw [List.append_nil, List.append_nil] at written
    rw [written, List.tail_cons]
    exact (takeWhile_word hs.word (startsBlank_writtenLine s.arguments s.flags)).2
  rw [← line hs, ← line hw, h]

/-- Between braces it is not taken for code. -/
def Argument.IsUnsigned : Argument → Prop
  | plain t => t.head? ≠ some '+'
  | _ => True

instance : DecidablePred Argument.IsUnsigned
  | .plain _ => inferInstanceAs (Decidable (_ ≠ _))
  | .braced _ | .foreign _ => .isTrue trivial

/-- Nothing in it is taken for code, or for other code. -/
def Statement.IsKept (s : Statement) : Prop :=
  if s.isBlock then Text.trim s.source = s.source else ∀ a ∈ s.arguments, a.IsUnsigned

instance : DecidablePred Statement.IsKept :=
  fun s => inferInstanceAs (Decidable (if s.isBlock then _ else _))

theorem Argument.WellFormed.balanced {a : Argument} (h : a.WellFormed) : Balanced a.text := by
  cases a <;> exact h.1

theorem balanced_source {s : Statement} (h : ∀ a ∈ s.arguments, Balanced a.text) :
    Balanced s.source := by
  unfold Statement.source
  cases hs : s.arguments with
  | nil => rfl
  | cons a as => exact h a (hs ▸ List.mem_cons_self)

/-- A word that starts with a plus sign is written as no well-formed argument is. -/
theorem isUnsigned_of_format_eq {a b : Argument} (ha : a.WellFormed) (hb : b.IsTaken)
    (h : a.format = b.format) : b.IsUnsigned := by
  cases b with
  | braced | foreign => trivial
  | plain t =>
    intro plus
    obtain ⟨r, rfl⟩ := List.head?_eq_some_iff.1 plus
    have written : (Argument.plain ('+' :: r)).format = '{' :: ('+' :: r) ++ ['}'] := by
      have braces : needsBraces ('+' :: r) = true := by simp [needsBraces]
      rw [Argument.format, if_pos braces]
    rw [written] at h
    cases a with
    | plain u | braced u =>
      rw [Argument.format] at h
      split at h
      · have same : u = '+' :: r := List.append_cancel_right (List.cons.inj h).2
        exact ha.2 (same ▸ rfl)
      · rename_i hn
        obtain ⟨hall, -⟩ := needsBraces_eq_false.1 (by simpa using hn)
        exact absurd (hall '{' (h ▸ List.mem_cons_self)).2.1 (by decide)
    | foreign source =>
      have same : (' ' :: source ++ [' ']) ++ ['}'] = r ++ ['}'] := by
        simpa [Argument.format] using h
      obtain rfl := List.append_cancel_right same
      have last : ('+' :: (' ' :: source ++ [' '])).getLast? = some ' ' := by
        rw [← List.cons_append, List.getLast?_concat]
      exact absurd (hb ' ' last) (by decide)

/-- If the texts of a statement that was read are balanced, then it is written as a well-formed one
is exactly if nothing in it is taken for code. -/
theorem exists_wellFormed_iff {s : Statement} (hs : s.IsTaken)
    (balanced : ∀ a ∈ s.arguments, Balanced a.text) :
    (∃ w : Statement, w.WellFormed ∧ w.format = s.format) ↔ s.IsKept := by
  have call {s : Statement} (h : s.isBlock = false) : s.format.head? = some '#' := by
    have written := format_call h []
    rw [List.append_nil] at written
    rw [written]
    rfl
  have block {s : Statement} (h : s.isBlock = true) :
      s.format = '{' :: '+' :: ' ' :: s.source ++ [' ', '}'] := if_pos h
  unfold Statement.IsKept
  cases hb : s.isBlock with
  | true =>
    rw [if_pos rfl]
    constructor
    · rintro ⟨w, hw, h⟩
      cases hw with
      | call name =>
        have sign := call name.isBlock
        rw [h, block hb] at sign
        cases sign
      | @block source hsource =>
        have same := (block (s := .block source) rfl).symm.trans (h.trans (block hb))
        have code : (Statement.block source).source = s.source := by simpa using same
        rw [← code]
        exact hsource.2
    · intro kept
      exact ⟨.block s.source, .block ⟨balanced_source balanced, kept⟩, (block hb).symm⟩
  | false =>
    rw [if_neg Bool.false_ne_true]
    constructor
    · rintro ⟨w, hw, h⟩ b hb'
      cases hw with
      | call name arguments =>
        have line := writtenLine_eq name (hs.name hb) h
        have same := map_format_eq (fun a ha => (arguments a ha).balanced) balanced line
        obtain ⟨a, ha, written⟩ := List.mem_map.1 (same ▸ List.mem_map_of_mem hb')
        exact isUnsigned_of_format_eq (arguments a ha) (hs.arguments b hb') written
      | block =>
        have sign := call hb
        rw [← h] at sign
        cases sign
    · intro kept
      refine ⟨s, .call (hs.name hb) (fun a ha => ?_) hs.flags, rfl⟩
      cases a with
      | plain t => exact ⟨balanced _ ha, kept _ ha⟩
      | braced t | foreign source => exact hs.arguments _ ha

/-- A balanced script can be read. What is written from it comes back exactly if each line is one in
which a well-formed statement is written; and if no word or line has a brace without a partner in
it, exactly if none is taken for code. -/
theorem exists_split_of_balanced {t : Text} (h : Balanced t) : ∃ ss, split t = .ok ss ∧
    (IsStable ss ↔ ∀ s ∈ ss, ∃ w : Statement, w.WellFormed ∧ w.format = s.format) ∧
    ((∀ s ∈ ss, ∀ a ∈ s.arguments, Balanced a.text) → (IsStable ss ↔ ∀ s ∈ ss, s.IsKept)) := by
  obtain ⟨ss, hss⟩ := exists_statements ⟨0, h⟩
  have taken : ∀ s ∈ ss, s.IsTaken :=
    forall_statements (q := fun _ => True) (fun _ _ => trivial)
      (fun _ _ _ _ h => ⟨isTaken_of_statement h, trivial⟩) trivial hss
  refine ⟨ss, by rw [split, hss]; rfl, isStable_iff, fun balanced => ?_⟩
  rw [isStable_iff]
  exact forall₂_congr fun s hs => exists_wellFormed_iff (taken s hs) (balanced s hs)

/-- A declaration, two lines to be sent and a block. -/
def severalLines : Text :=
  ("#alias \x7bk *\x7d kill +once\nkill the \x7bbig\x7d orc\n" ++
    "## 1;\n\x7b+f\x7b\x7d\x7d").toList

theorem exists_split_severalLines :
    ∃ ss, split severalLines = .ok ss ∧ ss.length = 4 ∧ IsStable ss := by
  obtain ⟨ss, hs, -, stable⟩ :=
    exists_split_of_balanced (show Balanced severalLines by decide)
  have checked : (split severalLines).toOption.elim false (fun ss => decide (ss.length = 4 ∧
      (∀ s ∈ ss, ∀ a ∈ s.arguments, Balanced a.text) ∧ ∀ s ∈ ss, s.IsKept)) = true := by
    decide +kernel
  rw [hs] at checked
  obtain ⟨number, balanced, kept⟩ := of_decide_eq_true checked
  exact ⟨ss, hs, number, (stable balanced).2 kept⟩

/-- A line that starts with a plus sign is written between braces, and then read as code. -/
theorem not_isStable_of_sign : ¬ ∀ t, Balanced t → ∃ ss, split t = .ok ss ∧ IsStable ss := by
  intro stable
  obtain ⟨ss, hs, ss', hs', same⟩ := stable "+1".toList (by decide)
  have first : (split "+1".toList).toOption.map (List.map Statement.format) =
      some ["#send \x7b+1\x7d".toList] := by decide +kernel
  have second : (split "#send \x7b+1\x7d".toList).toOption.map (List.map Statement.format) =
      some ["#send \x7b+ 1 \x7d".toList] := by decide +kernel
  rw [hs] at first
  have lines : ss.map Statement.format = ["#send \x7b+1\x7d".toList] := Option.some.inj first
  rw [lines] at hs' same
  rw [show split "#send \x7b+1\x7d".toList = .ok ss' from hs'] at second
  exact absurd (same.symm.trans (Option.some.inj second)) (by decide)

end Script
end MudClient
