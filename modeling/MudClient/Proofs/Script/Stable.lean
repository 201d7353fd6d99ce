import MudClient.Proofs.Script.Format
import MudClient.Proofs.Script.Origin
/-! Lines that come back as they were written. Only a well-formed statement is read from its own
line, so what is written from statements comes back exactly if each line is one in which a
well-formed statement is written. -/
namespace MudClient

namespace Script

section

variable {flags flags' : Flags} {t r rest : Text} {args : List Argument} {a : Argument}

theorem isFlagName_of_flagOfWord? {w name : Text} {value : Bool}
    (h : flagOfWord? w = some (name, value)) : IsFlagName name := by
  unfold flagOfWord? at h
  split at h
  · split at h
    · rename_i sign c r hc
      cases h
      simp only [Bool.and_eq_true, List.all_eq_true, Bool.or_eq_true, beq_iff_eq] at hc
      exact ⟨⟨c, rfl, hc.1.2⟩, hc.2⟩
    · cases h
  · cases h

/-- Only names of flags are read as flags. -/
theorem isFlagName_of_arguments (hf : ∀ f ∈ flags.entries, IsFlagName f.1)
    (h : arguments flags t = .ok (args, flags', rest)) : ∀ f ∈ flags'.entries, IsFlagName f.1 := by
  fun_induction arguments flags t generalizing args with
  | case1 | case2 =>
    cases h
    exact hf
  | case3 => cases h
  | case4 flags t r ht inner left hc ih =>
    obtain ⟨⟨more, _, _⟩, ha, h⟩ := map_eq_ok.1 h
    cases h
    exact ih hf ha
  | case5 flags t c r _ _ _ _ _ name value hw =>
    rename_i ih
    refine ih (fun f hm => ?_) h
    rcases NameMap.fst_of_mem_insertEntry hm with rfl | hm
    · exact isFlagName_of_flagOfWord? hw
    · exact hf f hm
  | case6 =>
    rename_i ih
    obtain ⟨⟨more, _, _⟩, ha, h⟩ := map_eq_ok.1 h
    cases h
    exact ih hf ha

/-- What is read as code was written as code only if it is balanced and trimmed. -/
theorem closeBrace_foreign {source inner : Text}
    (h : closeBrace 0 ('+' :: ' ' :: source ++ ' ' :: '}' :: r) = some (inner, rest))
    (hs : foreignSource inner = source) : (Argument.foreign source).WellFormed ∧ rest = r := by
  have balanced : Balanced source :=
    hs ▸ (balanced_iff_of_filter (filter_foreignSource inner)).2 (eq_of_closeBrace h).2
  have text : '+' :: ' ' :: source ++ ' ' :: '}' :: r =
      ('+' :: ' ' :: source ++ [' ']) ++ '}' :: r := by simp
  rw [text, closeBrace_of_balanced (balanced_foreignText balanced)] at h
  cases h
  have code : foreignSource ('+' :: ' ' :: source ++ [' ']) = Text.trim source :=
    Argument.foreign.inj (argumentOfBraces_foreign source)
  exact ⟨⟨balanced, code.symm.trans hs⟩, rfl⟩

/-- An argument is read from its own written form only if it is well-formed. -/
theorem arguments_format_self (hr : StartsBlank r)
    (h : arguments flags (a.format ++ r) = .ok (a :: args, flags', rest)) :
    a.WellFormed ∧ arguments flags r = .ok (args, flags', rest) := by
  have plain {t : Text} (hn : needsBraces t = false)
      (h : arguments flags (t ++ r) = .ok (a :: args, flags', rest)) :
      a = .plain t ∧ arguments flags r = .ok (args, flags', rest) := by
    rw [arguments_plain flags hn hr] at h
    obtain ⟨⟨more, e⟩, hm, he⟩ := map_eq_ok.1 h
    cases he
    exact ⟨rfl, hm⟩
  have group {t : Text} (h : arguments flags ('{' :: t ++ ['}'] ++ r) =
      .ok (a :: args, flags', rest)) : ∃ inner left,
        closeBrace 0 (t ++ '}' :: r) = some (inner, left) ∧ a = argumentOfBraces inner ∧
        arguments flags left = .ok (args, flags', rest) := by
    have text : '{' :: t ++ ['}'] ++ r = '{' :: (t ++ '}' :: r) := by simp
    rw [text] at h
    obtain ⟨inner, left, more, hc, hm, he⟩ := exists_of_arguments_brace h
    cases he
    exact ⟨inner, left, hc, rfl, hm⟩
  cases a with
  | plain t =>
    cases hn : needsBraces t with
    | true =>
      rw [show (Argument.plain t).format = '{' :: t ++ ['}'] from if_pos hn] at h
      obtain ⟨inner, left, -, he, -⟩ := group h
      exact absurd he.symm (argumentOfBraces_ne_plain inner t)
    | false =>
      rw [show (Argument.plain t).format = t from if_neg (by simp [hn])] at h
      obtain ⟨hall, c, s, rfl, -, hp, -⟩ := needsBraces_eq_false.1 hn
      exact ⟨⟨balanced_of_forall fun d hd => (hall d hd).2.1, by simpa using hp⟩, (plain hn h).2⟩
  | braced t =>
    cases hn : needsBraces t with
    | true =>
      rw [show (Argument.braced t).format = '{' :: t ++ ['}'] from if_pos hn] at h
      obtain ⟨inner, left, hc, he, hm⟩ := group h
      unfold argumentOfBraces at he
      split at he
      · cases he
      · rename_i hh
        cases he
        have balanced : Balanced t := (eq_of_closeBrace hc).2
        rw [closeBrace_of_balanced balanced] at hc
        cases hc
        exact ⟨⟨balanced, hh⟩, hm⟩
    | false =>
      rw [show (Argument.braced t).format = t from if_neg (by simp [hn])] at h
      cases (plain hn h).1
  | foreign source =>
    have text : (Argument.foreign source).format =
        '{' :: ('+' :: ' ' :: source ++ [' ']) ++ ['}'] := by
      simp [Argument.format]
    rw [text] at h
    obtain ⟨inner, left, hc, he, hm⟩ := group h
    unfold argumentOfBraces at he
    split at he
    · obtain ⟨wellFormed, rfl⟩ :=
        closeBrace_foreign (by simpa using hc) (Argument.foreign.inj he).symm
      exact ⟨wellFormed, hm⟩
    · cases he

/-- What is read from its own written form is well-formed, and nothing more is read. -/
theorem arguments_formats_self (hr : EndsLine r)
    (h : arguments ∅ ((args.flatMap fun a => ' ' :: a.format) ++ (writtenFlags flags ++ r)) =
      .ok (args, flags, rest)) :
    (∀ a ∈ args, a.WellFormed) ∧ (∀ f ∈ flags.entries, IsFlagName f.1) ∧ rest = r := by
  have names := isFlagName_of_arguments (fun _ hf => absurd hf List.not_mem_nil) h
  have next : StartsBlank (writtenFlags flags ++ r) :=
    startsBlank_flatMap formatFlag flags.entries hr.startsBlank
  suffices (∀ a ∈ args, a.WellFormed) ∧
      arguments ∅ (writtenFlags flags ++ r) = .ok ([], flags, rest) by
    obtain ⟨wellFormed, hf⟩ := this
    rw [arguments_flags (fun f hf => (names f hf).isWrittenFlag f.2) hr.startsBlank,
      arguments_endsLine flags hr] at hf
    cases hf
    exact ⟨wellFormed, names, rfl⟩
  clear names
  induction args with
  | nil => exact ⟨List.forall_mem_nil _, h⟩
  | cons a args ih =>
    rw [List.flatMap_cons, List.cons_append, List.cons_append, List.append_assoc,
      arguments_space ∅ (by decide)] at h
    obtain ⟨ha, h⟩ := arguments_format_self (startsBlank_flatMap Argument.format args next) h
    obtain ⟨hargs, hf⟩ := ih h
    exact ⟨List.forall_mem_cons.2 ⟨ha, hargs⟩, hf⟩

/-- The function of a call that is read from its own written form. -/
theorem function_of_statement {s : Statement} {t : Text} (ht : StartsBlank t)
    (h : statement ('#' :: (s.function ++ t)) = .ok (s, rest)) :
    (∀ c ∈ s.function, Text.isBlank c = false) ∧ s.function ≠ [] ∧ s.function.head? ≠ some '#' := by
  rcases statement_forms ('#' :: (s.function ++ t)) with ⟨u, -, he⟩ | ⟨c, r, ht', hc, hb, he⟩ |
    ⟨r, hr, -⟩
  · rw [he] at h
    have send : s.function = implicitFunction := by
      cases h
      rfl
    rw [send]
    have name := isFunctionName_implicit
    exact ⟨name.word, name.ne_nil, name.head_ne⟩
  · have text : s.function ++ t = c :: r := (List.cons.inj ht').2
    have name : s.function = Unicode.lower ((c :: r).takeWhile isWordChar) := by
      rw [he, callStatement] at h
      obtain ⟨out, -, hs⟩ := map_eq_ok.1 h
      cases hs
      rfl
    refine ⟨?_, ?_, ?_⟩
    · rw [name]
      exact Unicode.isBlank_lower fun d hd => by simpa [isWordChar] using List.mem_takeWhile_imp hd
    · intro none
      rw [none, List.nil_append] at text
      have blank := ht c (by rw [text]; rfl)
      rw [hb] at blank
      cases blank
    · intro hh
      rw [List.head?_eq_some_iff] at hh
      obtain ⟨more, hm⟩ := hh
      rw [hm, List.cons_append] at text
      exact hc (List.cons.inj text).1.symm
  · cases hr

/-- A statement is read from its own written form only if it is well-formed, and then no more than
its line is read. -/
theorem statement_format_self {s : Statement} (hr : EndsLine r)
    (h : statement (s.format ++ r) = .ok (s, rest)) : s.WellFormed ∧ rest = r := by
  cases hb : s.isBlock with
  | true =>
    have text : s.format ++ r = '{' :: ('+' :: ' ' :: s.source ++ ' ' :: '}' :: r) := by
      rw [Statement.format, if_pos hb, Argument.format]
      simp
    rw [text] at h
    have block : blockStatement ('+' :: ' ' :: s.source ++ ' ' :: '}' :: r) = .ok (s, rest) := h
    rw [blockStatement] at block
    split at block
    · cases block
    · rename_i inner left hc
      cases block
      obtain ⟨wellFormed, rfl⟩ := closeBrace_foreign hc rfl
      exact ⟨.block wellFormed, rfl⟩
  | false =>
    have next : StartsBlank (writtenFlags s.flags ++ r) :=
      startsBlank_flatMap formatFlag s.flags.entries hr.startsBlank
    have behind := startsBlank_flatMap Argument.format s.arguments next
    rw [format_call hb] at h
    obtain ⟨word, ne_nil, head_ne⟩ := function_of_statement behind h
    rw [statement_call word ne_nil head_ne behind] at h
    obtain ⟨⟨args, flags, left⟩, ha, hs⟩ := map_eq_ok.1 h
    obtain ⟨same, rfl⟩ := Prod.mk.inj hs
    have lower : Unicode.lower s.function = s.function := congrArg Statement.function same
    obtain rfl : args = s.arguments := congrArg Statement.arguments same
    obtain rfl : flags = s.flags := congrArg Statement.flags same
    obtain ⟨arguments, flags, rest⟩ := arguments_formats_self hr ha
    have ne_block : s.function ≠ blockFunction := by simpa [Statement.isBlock] using hb
    exact ⟨.call ⟨ne_nil, word, head_ne, ne_block, lower⟩ arguments flags, rest⟩

/-- Statements that are read from their own lines are well-formed. -/
theorem wellFormed_of_statements {ss ss' : List Statement}
    (h : statements (ss.flatMap fun s => '\n' :: s.format) = .ok ss')
    (same : ss'.map Statement.format = ss.map Statement.format) : ∀ s ∈ ss', s.WellFormed := by
  induction ss generalizing ss' with
  | nil =>
    rw [List.map_eq_nil_iff.1 same]
    exact List.forall_mem_nil _
  | cons s ss ih =>
    obtain ⟨s', more, rfl, line, lines⟩ := List.map_eq_cons_iff.1 same
    have next : EndsLine (ss.flatMap fun s => '\n' :: s.format) := by
      cases ss with
      | nil => simp [EndsLine]
      | cons => simp [EndsLine]
    rw [List.flatMap_cons, List.cons_append, statements_cons_blank (by decide), ← line] at h
    obtain ⟨c, t, ht, hc⟩ := exists_format_cons s'
    have start : (s'.format ++ ss.flatMap fun s => '\n' :: s.format).dropWhile Text.isBlank =
        c :: (t ++ ss.flatMap fun s => '\n' :: s.format) := by
      rw [ht, List.cons_append, List.dropWhile_cons_of_neg (by simp [hc])]
    rw [statements_cons start, ← List.cons_append, ← ht] at h
    split at h
    · cases h
    · rename_i first rest hs
      obtain ⟨others, ho, he⟩ := map_eq_ok.1 h
      cases he
      obtain ⟨wellFormed, rfl⟩ := statement_format_self next hs
      exact List.forall_mem_cons.2 ⟨wellFormed, ih ho lines⟩

end

@[simp] theorem Argument.format_canonical (a : Argument) : a.canonical.format = a.format := by
  cases a with
  | plain t | braced t =>
    simp only [canonical]
    split <;> rfl
  | foreign source => rfl

@[simp] theorem Argument.text_canonical (a : Argument) : a.canonical.text = a.text := by
  cases a with
  | plain t | braced t =>
    simp only [canonical]
    split <;> rfl
  | foreign source => rfl

@[simp] theorem Statement.format_canonical (s : Statement) : s.canonical.format = s.format := by
  have source : s.canonical.source = s.source := by
    simp [Statement.source, canonical, Function.comp_def]
  unfold Statement.format
  rw [source]
  simp [canonical, Statement.isBlock, Function.comp_def]

/-- Written, read and written again, statements are written the same. -/
def IsStable (ss : List Statement) : Prop :=
  ∃ ss', split (Text.join ['\n'] (ss.map Statement.format)) = .ok ss' ∧
    ss'.map Statement.format = ss.map Statement.format

theorem isStable_iff {ss : List Statement} :
    IsStable ss ↔ ∀ s ∈ ss, ∃ w : Statement, w.WellFormed ∧ w.format = s.format := by
  constructor
  · rintro ⟨ss', h, same⟩ s hs
    have read := statements_of_split h
    rw [statements_join] at read
    obtain ⟨w, hw, he⟩ := List.mem_map.1 (same ▸ List.mem_map_of_mem hs)
    exact ⟨w, wellFormed_of_statements read same w hw, he⟩
  · intro h
    have written : ∃ ws : List Statement, (∀ w ∈ ws, w.WellFormed) ∧
        ws.map Statement.format = ss.map Statement.format := by
      induction ss with
      | nil => exact ⟨[], List.forall_mem_nil _, rfl⟩
      | cons s ss ih =>
        obtain ⟨⟨w, hw, he⟩, hss⟩ := List.forall_mem_cons.1 h
        obtain ⟨ws, hws, hes⟩ := ih hss
        exact ⟨w :: ws, List.forall_mem_cons.2 ⟨hw, hws⟩, by rw [List.map_cons, he, hes]; rfl⟩
    obtain ⟨ws, hws, hes⟩ := written
    refine ⟨ws.map Statement.canonical, hes ▸ split_format hws, ?_⟩
    rw [← hes, List.map_map]
    exact List.map_congr_left fun w _ => w.format_canonical

end Script
end MudClient
