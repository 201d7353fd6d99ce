import MudClient.Proofs.Engine.Rule
/-! Where declarations come from. Words of a script have no white space and blocks are balanced, so
not every text can be declared. A text whose semicolons are escaped declares even less: none of its
words gets a newline. -/
namespace MudClient

namespace Script

open Separator (Escaped escaped_of_not_mem escaped_expand expand_of_escaped mem_expand)

theorem statement_block (r : Text) : statement ('{' :: '+' :: r) = blockStatement ('+' :: r) := rfl

/-- How a statement starts decides how it is read. -/
theorem statement_forms (t : Text) :
    (∃ u, (t = u ∨ t = '#' :: u) ∧ statement t = .ok (implicitStatement u)) ∨
      (∃ c r, t = '#' :: c :: r ∧ c ≠ '#' ∧ Text.isBlank c = false ∧
        statement t = callStatement (c :: r)) ∨
      ∃ r, t = '{' :: '+' :: r ∧ statement t = blockStatement ('+' :: r) := by
  unfold statement
  split
  · exact .inl ⟨_, .inr rfl, rfl⟩
  · rename_i c r hc
    split
    · exact .inl ⟨_, .inl rfl, rfl⟩
    · rename_i hb
      exact .inr (.inl ⟨c, r, rfl, hc, by simpa using hb, rfl⟩)
  · exact .inr (.inr ⟨_, rfl, rfl⟩)
  · exact .inl ⟨t, .inl rfl, rfl⟩

/-- What every statement leaves true of the rest holds of all statements. -/
theorem forall_statements {p : Statement → Prop} {q : Text → Prop}
    (drop : ∀ t, q t → q (t.dropWhile Text.isBlank))
    (step : ∀ t s rest, q t → statement t = .ok (s, rest) → p s ∧ q rest) {t : Text}
    {ss : List Statement} (ht : q t) (h : statements t = .ok ss) : ∀ s ∈ ss, p s := by
  fun_induction statements t generalizing ss with
  | case1 =>
    cases h
    simp
  | case2 => cases h
  | case3 t c r hd s rest hs ih =>
    obtain ⟨more, hm, rfl⟩ := map_eq_ok.1 h
    obtain ⟨hp, hq⟩ := step (c :: r) s rest (hd ▸ drop t ht) hs
    exact List.forall_mem_cons.2 ⟨hp, ih hq hm⟩

theorem statements_of_split {t : Text} {ss : List Statement} (h : split t = .ok ss) :
    statements t = .ok ss := by
  unfold split at h
  cases hr : statements t with
  | error left =>
    rw [hr] at h
    cases h
  | ok more =>
    rw [hr] at h
    cases h
    rfl

/-- A statement whose function takes its texts as they are written. -/
def Statement.Declares (s : Statement) : Prop :=
  ∃ f, Registry.builtins.find? s.function = some f ∧ f.substitutes = false

theorem Statement.not_declares_implicit (u : Text) : ¬ (Statement.implicit u).Declares := by
  rintro ⟨f, hf, hs⟩
  have send : Registry.builtins.find? implicitFunction = some .send := by decide
  cases send.symm.trans hf
  cases hs

theorem find?_blockFunction : Registry.builtins.find? blockFunction = none := by decide

theorem Statement.not_declares_block (source : Text) : ¬ (Statement.block source).Declares := by
  rintro ⟨f, hf, -⟩
  cases find?_blockFunction.symm.trans hf

/-- A statement that declares something is a call. -/
theorem Statement.Declares.exists_call {t rest : Text} {s : Statement} (hd : s.Declares)
    (h : statement t = .ok (s, rest)) : ∃ c r args flags, t = '#' :: c :: r ∧ c ≠ '#' ∧
      Text.isBlank c = false ∧
      Script.arguments ∅ (r.dropWhile isWordChar) = .ok (args, flags, rest) ∧
      s = ⟨Unicode.lower (c :: r.takeWhile isWordChar), args, flags⟩ := by
  rcases statement_forms t with ⟨u, -, ht⟩ | ⟨c, r, rfl, hc, hb, ht⟩ | ⟨r, rfl, ht⟩
  · rw [ht] at h
    cases h
    exact absurd hd (not_declares_implicit _)
  · rw [ht, callStatement] at h
    obtain ⟨⟨args, flags, left⟩, ha, h⟩ := map_eq_ok.1 h
    cases h
    have word : isWordChar c := by simp [isWordChar, hb]
    refine ⟨c, r, args, flags, rfl, hc, hb, ?_, ?_⟩
    · rw [← ha, ← List.dropWhile_cons_of_pos (p := isWordChar) (l := r) word]
      rfl
    · rw [← List.takeWhile_cons_of_pos (p := isWordChar) (l := r) word]
      rfl
  · rw [ht, blockStatement] at h
    split at h
    · cases h
    · cases h
      exact absurd hd (not_declares_block _)

@[simp] theorem Argument.resolve_value (a : Argument) (locals : Locals) :
    (a.value false).resolve locals = a.literal := by
  cases a <;> rfl

/-- An instruction that declares something was compiled from a call with these texts. -/
theorem Statement.gives_compile_of_declares [Chance] {s : Statement} {f : Builtin}
    {vars : Option Locals} {i : Instruction} (hf : Registry.builtins.find? s.function = some f)
    (hs : f.substitutes = false) : (s.compile .builtins vars).Gives i ↔
      f.accepts s.arguments.length ∧
        i = .call s.function (s.arguments.map (Argument.value false)) s.flags := by
  have call : s.isBlock = false := by
    rw [isBlock, beq_eq_false_iff_ne]
    intro hb
    rw [hb, find?_blockFunction] at hf
    cases hf
  have table : f.table vars = none := by simp [Builtin.table, hs]
  have delay (args : List Text) : f.delay? args = none := by
    cases f <;> first | rfl | cases hs
  rw [compile, call, if_neg (by simp), hf]
  dsimp only
  rw [table, gives_compileCall, delay]
  simp

end Script

namespace Rule

open Script

variable {l : Rule}

theorem allowsInstruction_of_compile [Chance] {s : Statement} {vars : Option Locals}
    {i : Instruction} (hs : s.Declares → l.AllowsTexts (s.arguments.map Argument.literal))
    (h : (s.compile .builtins vars).Gives i) : l.AllowsInstruction i := by
  cases i with
  | pause | block => trivial
  | call function values flags =>
    intro f hf hsub locals
    have same : s.function = function := by
      unfold Statement.compile at h
      split at h
      · cases Attempt.gives_pure.1 h
      · split at h
        · cases h
        · obtain ⟨-, ⟨_, _, _, _, hi⟩ | ⟨-, hi⟩⟩ := Statement.gives_compileCall.1 h
          · cases hi
          · cases hi
            rfl
    rw [← same] at hf
    obtain ⟨-, hi⟩ := (Statement.gives_compile_of_declares hf hsub).1 h
    cases hi
    have texts : (s.arguments.map (Argument.value false)).map (Value.resolve locals) =
        s.arguments.map Argument.literal := by
      simp
    rw [texts]
    exact hs ⟨f, hf, hsub⟩

/-- A script keeps to a rule if those of its statements do that declare something. -/
theorem allowsProgram_of_compile [Chance] {source : Text} {vars : Option Locals} {p : Program}
    (hs : ∀ ss, statements source = .ok ss → ∀ s ∈ ss, s.Declares →
      l.AllowsTexts (s.arguments.map Argument.literal))
    (h : (compile .builtins vars source).Gives p) : l.AllowsProgram p := by
  obtain ⟨ss, hss, compiled⟩ := forall₂_of_gives_compile h
  have read := statements_of_split hss
  have allowed := hs ss read
  clear read hss hs h
  induction compiled with
  | nil => exact fun _ hi => nomatch hi
  | cons hc _ ih =>
    obtain ⟨_, hc⟩ := hc
    obtain ⟨hs, hmore⟩ := List.forall_mem_cons.1 allowed
    exact List.forall_mem_cons.2 ⟨allowsInstruction_of_compile hs hc, ih hmore⟩

end Rule

namespace Script

open Separator (Escaped escaped_of_not_mem escaped_expand expand_of_escaped mem_expand)

/-- What may be declared at all: a block, or a word, whose semicolons may have become newlines. -/
def IsSound (t : Text) : Prop := Balanced t ∨ ∀ c ∈ t, Text.isBlank c → c = '\n'

theorem balanced_foreign {code : Text} (h : Balanced code) :
    Balanced (Argument.foreign code).format := by
  have inner : Balanced ('+' :: ' ' :: code ++ [' ']) := by
    refine (balanced_iff_of_filter ?_).2 h
    simp [isBrace]
  simpa [Argument.format] using inner.wrap

theorem Argument.IsRead.isSound {a : Argument} (h : a.IsRead) : IsSound a.literal := by
  cases a with
  | plain word =>
    refine .inr fun c hc hb => ?_
    rcases mem_expand hc with hm | rfl | rfl | rfl
    · simp [h c hm] at hb
    · rfl
    · cases hb
    · cases hb
  | braced text => exact .inl ((balanced_iff_of_filter (Separator.filter_expand text)).2 h)
  | foreign code => exact .inl (balanced_foreign h)

/-- No newline outside of braces. -/
def IsTame (t : Text) : Prop := Balanced t ∨ '\n' ∉ t

/-- A script that declares only tame texts. -/
def IsSafe (t : Text) : Prop :=
  Escaped t ∨ ∃ code, Balanced code ∧ t = (Argument.foreign code).format

theorem Argument.IsRead.isSafe {a : Argument} (h : a.IsRead) : IsSafe a.literal := by
  cases a with
  | plain | braced => exact .inl (escaped_expand _)
  | foreign code => exact .inr ⟨code, h, rfl⟩

theorem Argument.IsRead.isTame {a : Argument} (h : a.IsRead)
    (hw : ∀ word, a = .plain word → Escaped word) : IsTame a.literal := by
  cases a with
  | plain word =>
    refine .inr fun hm => ?_
    rw [literal, expand_of_escaped (hw word rfl)] at hm
    exact absurd (h _ hm) (by decide)
  | braced text => exact .inl ((balanced_iff_of_filter (Separator.filter_expand text)).2 h)
  | foreign code => exact .inl (balanced_foreign h)

/-- An escaped text stays escaped behind each of its statements. -/
theorem escaped_of_statement {t rest : Text} {s : Statement} (ht : Escaped t)
    (h : statement t = .ok (s, rest)) : Escaped rest := by
  rcases statement_forms t with ⟨u, hu, he⟩ | ⟨c, r, rfl, -, hb, he⟩ | ⟨r, rfl, he⟩
  · rw [he] at h
    cases h
    have line : Escaped u := by
      rcases hu with rfl | rfl
      · exact ht
      · exact ht.of_append (a := ['#']) (by decide)
    rw [← List.takeWhile_append_dropWhile (p := (· != '\n')) (l := u)] at line
    refine line.of_append_right fun hd => ?_
    have := List.head?_dropWhile_not (· != '\n') u
    rw [hd] at this
    exact absurd this (by decide)
  · rw [he, callStatement] at h
    obtain ⟨⟨args, flags, left⟩, ha, h⟩ := map_eq_ok.1 h
    cases h
    have name : Escaped (c :: r) := ht.of_append (a := ['#']) (by decide)
    have behind : Escaped ((c :: r).dropWhile isWordChar) := by
      rw [List.dropWhile_cons_of_pos (by simp [isWordChar, hb])]
      exact (escaped_word name).2
    exact (escaped_of_arguments ha behind).2
  · rw [he, blockStatement] at h
    split at h
    · cases h
    · rename_i inner left hc
      cases h
      have block : Escaped (('{' :: inner ++ ['}']) ++ rest) := by
        rw [List.append_assoc, List.cons_append, List.singleton_append, ← (eq_of_closeBrace hc).1]
        exact ht
      exact block.of_append (by rw [List.getLast?_append]; simp)

end Script

namespace Rule

open Script
open Separator (Escaped)

/-- The rule that every script keeps to. -/
def sound : Rule := ⟨IsSound, IsSound⟩

/-- The rule that every script keeps to whose semicolons are escaped. -/
def tame : Rule := ⟨IsTame, IsSafe⟩

theorem allowsProgram_sound [Chance] {source : Text} {vars : Option Locals} {p : Program}
    (h : (compile .builtins vars source).Gives p) : sound.AllowsProgram p := by
  refine allowsProgram_of_compile (fun ss hss => ?_) h
  refine forall_statements (q := fun _ => True) (fun _ _ => trivial) (fun t s rest _ hs => ?_)
    trivial hss
  refine ⟨fun hd => ?_, trivial⟩
  obtain ⟨c, r, args, flags, -, -, -, ha, rfl⟩ := hd.exists_call hs
  have read := isRead_of_arguments ha
  have texts : ∀ u ∈ args.map Argument.literal, IsSound u := by
    intro u hu
    obtain ⟨a, hm, rfl⟩ := List.mem_map.1 hu
    exact (read a hm).isSound
  exact ⟨fun u hu => texts u (List.mem_of_mem_head? hu), fun u hu => texts u (List.mem_of_mem_tail hu)⟩

theorem isClosed_sound : sound.IsClosed := fun _ _ _ _ _ => allowsProgram_sound

/-- Texts that were read are tame if the first of them is, should it be a word. -/
theorem allowsTexts_tame {args : List Argument} (hr : ∀ a ∈ args, a.IsRead)
    (hw : ∀ word, args.head? = some (.plain word) → Escaped word) :
    tame.AllowsTexts (args.map Argument.literal) := by
  constructor
  · intro u hu
    obtain ⟨a, ha, rfl⟩ := Option.map_eq_some_iff.1 (List.head?_map .. ▸ hu)
    exact (hr a (List.mem_of_mem_head? ha)).isTame fun word h => hw word (h ▸ ha)
  · intro u hu
    rw [← List.map_tail] at hu
    obtain ⟨a, ha, rfl⟩ := List.mem_map.1 hu
    exact (hr a (List.mem_of_mem_tail ha)).isSafe

theorem isClosed_tame : tame.IsClosed := by
  rintro _ source (hs | ⟨code, hc, rfl⟩) vars p h
  · refine allowsProgram_of_compile (fun ss hss => ?_) h
    refine forall_statements (q := Escaped) (fun t ht => ht.dropWhile (by decide))
      (fun t s rest ht hs => ⟨fun hd => ?_, escaped_of_statement ht hs⟩) hs hss
    obtain ⟨c, r, args, flags, rfl, -, hb, ha, rfl⟩ := hd.exists_call hs
    have behind : Escaped (r.dropWhile isWordChar) :=
      (escaped_word (ht.of_append (a := ['#']) (by decide))).2
    exact allowsTexts_tame (isRead_of_arguments ha) fun word hm =>
      (escaped_of_arguments ha behind).1 word (List.mem_of_mem_head? hm)
  · -- The script is one block, and nothing follows it.
    refine allowsProgram_of_compile (fun ss hss => ?_) h
    have inner : Balanced ('+' :: ' ' :: code ++ [' ']) := by
      refine (balanced_iff_of_filter ?_).2 hc
      simp [isBrace]
    have text : (Argument.foreign code).format = '{' :: '+' :: (' ' :: code ++ [' '] ++ ['}']) := by
      simp [Argument.format]
    refine forall_statements (q := fun t => t = (Argument.foreign code).format ∨ t = []) ?_
      (fun t s rest ht hs => ?_) (.inl rfl) hss
    · rintro t (rfl | rfl)
      · exact .inl rfl
      · exact .inr rfl
    · rcases ht with rfl | rfl
      · have block : statement (Argument.foreign code).format =
            .ok (.block (foreignSource ('+' :: ' ' :: code ++ [' '])), []) := by
          have close := closeBrace_of_balanced inner []
          rw [text, statement_block, blockStatement]
          simp only [List.cons_append] at close ⊢
          rw [close]
        rw [block] at hs
        cases hs
        exact ⟨fun hd => absurd hd (Statement.not_declares_block _), .inr rfl⟩
      · cases hs
        exact ⟨fun hd => absurd hd (Statement.not_declares_implicit _), .inr rfl⟩

end Rule
end MudClient
