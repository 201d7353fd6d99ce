import MudClient.Proofs.Script.Written
import MudClient.Proofs.Text
import MudClient.Proofs.Unicode.Property
/-! Reading what was formatted. Each form of a statement is read as it was written, whatever follows on
the next line, so a script comes back from its statements one by one. -/
namespace MudClient

namespace Script

/-- Braces have partners, so the text can stand between braces; and it is not taken for code. -/
def Argument.WellFormed : Argument → Prop
  | plain t | braced t => Balanced t ∧ t.head? ≠ some '+'
  | foreign source => Balanced source ∧ Text.trim source = source

instance : DecidablePred Argument.WellFormed
  | .plain _ | .braced _ | .foreign _ => inferInstanceAs (Decidable (_ ∧ _))

/-- It starts with a letter and goes on with letters, digits and underscores. -/
def IsFlagName (name : Text) : Prop :=
  (∃ c ∈ name.head?, Unicode.isAlphabetic c) ∧ ∀ c ∈ name, Unicode.isAlphanumeric c ∨ c = '_'

instance : DecidablePred IsFlagName := fun name =>
  decidable_of_iff (name.head?.any Unicode.isAlphabetic ∧
    name.all fun c => Unicode.isAlphanumeric c || c == '_') (by simp [IsFlagName, Option.any_eq_true])

/-- A lower-case word that stands for itself behind a number sign. -/
structure IsFunctionName (name : Text) : Prop where
  ne_nil : name ≠ []
  word : ∀ c ∈ name, Text.isBlank c = false
  head_ne : name.head? ≠ some '#'
  ne_block : name ≠ blockFunction
  lower : Unicode.lower name = name

instance : DecidablePred IsFunctionName := fun name =>
  decidable_of_iff (name ≠ [] ∧ (name.all fun c => !Text.isBlank c) ∧ name.head? ≠ some '#' ∧
    name ≠ blockFunction ∧ Unicode.lower name = name) <| by
  constructor
  · rintro ⟨hne, hw, hh, hb, hl⟩
    exact ⟨hne, by simpa using hw, hh, hb, hl⟩
  · intro h
    exact ⟨h.ne_nil, by simpa using h.word, h.head_ne, h.ne_block, h.lower⟩

theorem isFunctionName_implicit : IsFunctionName implicitFunction := by decide

theorem IsFunctionName.isBlock {s : Statement} (h : IsFunctionName s.function) :
    s.isBlock = false := by
  simpa [Statement.isBlock] using h.ne_block

inductive Statement.WellFormed : Statement → Prop where
  | call {s : Statement} (name : IsFunctionName s.function)
      (arguments : ∀ a ∈ s.arguments, a.WellFormed) (flags : ∀ f ∈ s.flags.entries, IsFlagName f.1) :
      WellFormed s
  | block {source : Text} (h : (Argument.foreign source).WellFormed) : WellFormed (.block source)

/-- The one form in which an argument with this text is read. -/
def Argument.canonical : Argument → Argument
  | plain t | braced t => if needsBraces t then braced t else plain t
  | foreign source => foreign source

def Statement.canonical (s : Statement) : Statement :=
  { s with arguments := s.arguments.map Argument.canonical }

theorem isAlphanumeric_of_isBrace {c : Char} (h : isBrace c) : Unicode.isAlphanumeric c = false := by
  rcases isBrace_iff.1 h with rfl | rfl <;> decide

theorem IsFlagName.isWrittenFlag {name : Text} (h : IsFlagName name) (value : Bool) :
    IsWrittenFlag (name, value) := by
  obtain ⟨⟨c, hc, ha⟩, hall⟩ := h
  obtain ⟨r, rfl⟩ := List.head?_eq_some_iff.1 hc
  constructor
  · have all : (c :: r).all (fun d => Unicode.isAlphanumeric d || d == '_') := by
      simpa using hall
    cases value <;> simp only [formatFlag, flagOfWord?, ha, all] <;> rfl
  · intro d hd
    rcases hall d hd with h | rfl
    · constructor
      · by_contra hb
        rw [Unicode.isAlphanumeric_of_isBlank (by simpa using hb)] at h
        cases h
      · by_contra hb
        rw [isAlphanumeric_of_isBrace (by simpa using hb)] at h
        cases h
    · exact ⟨by decide, by decide⟩

theorem argumentOfBraces_foreign (source : Text) :
    argumentOfBraces ('+' :: ' ' :: source ++ [' ']) = .foreign (Text.trim source) := by
  rw [← Text.trim_spaced]
  rfl

theorem balanced_foreignText {source : Text} (h : Balanced source) :
    Balanced ('+' :: ' ' :: source ++ [' ']) := by
  refine (balanced_iff_of_filter ?_).2 h
  simp [isBrace]

/-- An argument is read in its one form. -/
theorem arguments_format (flags : Flags) {a : Argument} {r : Text} (h : a.WellFormed)
    (hr : StartsBlank r) : arguments flags (a.format ++ r) =
      (arguments flags r).map fun (args, e) => (a.canonical :: args, e) := by
  have text (t : Text) (ht : Balanced t ∧ t.head? ≠ some '+') :
      arguments flags ((Argument.braced t).format ++ r) =
        (arguments flags r).map fun (args, e) => ((Argument.braced t).canonical :: args, e) := by
    have written : argumentOfWritten t = (Argument.braced t).canonical := by
      rw [argumentOfWritten, argumentOfBraces, if_neg ht.2]
      rfl
    rw [arguments_written flags ht.1 hr, written]
  cases a with
  | plain t => exact text t h
  | braced t => exact text t h
  | foreign source =>
    have group : (Argument.foreign source).format ++ r =
        '{' :: (('+' :: ' ' :: source ++ [' ']) ++ '}' :: r) := by
      simp [Argument.format]
    rw [group, arguments_brace, closeBrace_of_balanced (balanced_foreignText h.1)]
    dsimp only
    rw [argumentOfBraces_foreign, h.2]
    rfl

theorem arguments_formats (flags : Flags) {as : List Argument} {r : Text}
    (h : ∀ a ∈ as, a.WellFormed) (hr : StartsBlank r) :
    arguments flags ((as.flatMap fun a => ' ' :: a.format) ++ r) =
      (arguments flags r).map fun (args, e) => (as.map Argument.canonical ++ args, e) := by
  induction as with
  | nil =>
    show arguments flags r = _
    cases arguments flags r <;> rfl
  | cons a as ih =>
    obtain ⟨ha, has⟩ := List.forall_mem_cons.1 h
    have next := startsBlank_flatMap Argument.format as hr
    rw [List.flatMap_cons, List.cons_append, List.cons_append, List.append_assoc,
      arguments_space flags (by decide), arguments_format flags ha next, ih has]
    cases arguments flags r <;> rfl

/-- Where a statement ends: at the end of the text, or of a line. -/
def EndsLine (r : Text) : Prop := ∀ c ∈ r.head?, c = '\n'

theorem EndsLine.startsBlank {r : Text} (h : EndsLine r) : StartsBlank r := by
  intro c hc
  rw [h c hc]
  rfl

theorem arguments_endsLine (flags : Flags) {r : Text} (h : EndsLine r) :
    arguments flags r = .ok ([], flags, r) := by
  cases r with
  | nil => exact arguments_nil flags
  | cons c r =>
    obtain rfl := h c rfl
    exact arguments_newline flags r

theorem format_call {s : Statement} (h : s.isBlock = false) (r : Text) : s.format ++ r =
    '#' :: (s.function ++ ((s.arguments.flatMap fun a => ' ' :: a.format) ++
      (writtenFlags s.flags ++ r))) := by
  rw [Statement.format, h, if_neg Bool.false_ne_true, List.cons_append, unwords_cons]
  simp [writtenFlags, List.flatMap_map]

/-- A statement is read up to the end of its line, in its one form. -/
theorem statement_format {s : Statement} {r : Text} (h : s.WellFormed) (hr : EndsLine r) :
    statement (s.format ++ r) = .ok (s.canonical, r) := by
  cases h with
  | call name args flags =>
    have written : ∀ f ∈ s.flags.entries, IsWrittenFlag f := fun f hf => (flags f hf).isWrittenFlag f.2
    have next : StartsBlank (writtenFlags s.flags ++ r) :=
      startsBlank_flatMap formatFlag s.flags.entries hr.startsBlank
    have last : arguments ∅ (writtenFlags s.flags ++ r) = .ok ([], s.flags, r) := by
      rw [arguments_flags written hr.startsBlank, arguments_endsLine s.flags hr]
    rw [format_call name.isBlock, statement_call name.word name.ne_nil name.head_ne
      (startsBlank_flatMap Argument.format s.arguments next), arguments_formats ∅ args next, last]
    simp [Except.map, name.lower, Statement.canonical]
  | @block source h =>
    have text : (Statement.block source).format ++ r =
        '{' :: '+' :: (' ' :: source ++ [' '] ++ '}' :: r) := by
      have format : (Statement.block source).format = (Argument.foreign source).format := rfl
      rw [format, Argument.format]
      simp
    have close := closeBrace_of_balanced (balanced_foreignText h.1) r
    have code : foreignSource ('+' :: ' ' :: source ++ [' ']) = source := by
      have := argumentOfBraces_foreign source
      rw [h.2] at this
      exact Argument.foreign.inj this
    rw [text]
    show blockStatement ('+' :: ' ' :: source ++ [' '] ++ '}' :: r) = _
    rw [blockStatement, close]
    dsimp only
    rw [code]
    rfl

theorem exists_format_cons (s : Statement) : ∃ c t, s.format = c :: t ∧ Text.isBlank c = false := by
  unfold Statement.format
  split
  · exact ⟨'{', _, rfl, by decide⟩
  · rw [List.cons_append, unwords_cons]
    exact ⟨'#', _, rfl, by decide⟩

theorem statements_format {s : Statement} {r : Text} (h : s.WellFormed) (hr : EndsLine r) :
    statements (s.format ++ r) = (statements r).map (s.canonical :: ·) := by
  obtain ⟨c, t, ht, hc⟩ := exists_format_cons s
  have start : (s.format ++ r).dropWhile Text.isBlank = c :: (t ++ r) := by
    rw [ht, List.cons_append, List.dropWhile_cons_of_neg (by simp [hc])]
  rw [statements_cons start, ← List.cons_append, ← ht, statement_format h hr]

theorem statements_lines {ss : List Statement} (h : ∀ s ∈ ss, s.WellFormed) :
    statements (ss.flatMap fun s => '\n' :: s.format) = .ok (ss.map Statement.canonical) := by
  induction ss with
  | nil => exact statements_nil rfl
  | cons s ss ih =>
    obtain ⟨hs, hss⟩ := List.forall_mem_cons.1 h
    have next : EndsLine (ss.flatMap fun s => '\n' :: s.format) := by
      cases ss with
      | nil => simp [EndsLine]
      | cons => simp [EndsLine]
    rw [List.flatMap_cons, List.cons_append, statements_cons_blank (by decide),
      statements_format hs next, ih hss]
    rfl

/-- A newline in front changes nothing, and with it all statements begin alike. -/
theorem statements_join (ss : List Statement) :
    statements (Text.join ['\n'] (ss.map Statement.format)) =
      statements (ss.flatMap fun s => '\n' :: s.format) := by
  cases ss with
  | nil => rfl
  | cons s ss =>
    rw [List.map_cons, join_cons, List.flatMap_cons, List.cons_append,
      statements_cons_blank (by decide), List.flatMap_map]
    rfl

/-- A script of well-formed statements, one a line, is read as these statements, each argument in the
one form in which its text is read. -/
theorem split_format {ss : List Statement} (h : ∀ s ∈ ss, s.WellFormed) :
    split (Text.join ['\n'] (ss.map Statement.format)) = .ok (ss.map Statement.canonical) := by
  rw [split, statements_join, statements_lines h]
  rfl

/-- An action that takes three lines, arguments that need braces and one that does not, and a block
before a call without arguments. -/
theorem split_format_actions :
    let flags : Flags := .ofList [("once".toList, true), ("x_1".toList, false)]
    let ss : List Statement :=
      [⟨"alias".toList, [.plain "k *".toList, .braced "kill".toList,
          .plain "#if \x7b$1\x7d\n#beep;\n-x".toList, .foreign "f \x7b\n\x7d".toList], flags⟩,
        .block "local t = \x7b\x7d".toList, ⟨"unload".toList, [], ∅⟩]
    (∀ s ∈ ss, s.WellFormed) ∧ split (Text.join ['\n'] (ss.map Statement.format)) = .ok
      [⟨"alias".toList, [.braced "k *".toList, .plain "kill".toList,
          .braced "#if \x7b$1\x7d\n#beep;\n-x".toList, .foreign "f \x7b\n\x7d".toList], flags⟩,
        .block "local t = \x7b\x7d".toList, ⟨"unload".toList, [], ∅⟩] := by
  intro flags ss
  have called : IsFunctionName "alias".toList := by decide
  have unload : IsFunctionName "unload".toList := by decide
  have names : ∀ f ∈ flags.entries, IsFlagName f.1 := by
    have entries : flags.entries = [("once".toList, true), ("x_1".toList, false)] := by
      decide
    rw [entries, List.forall_mem_cons, List.forall_mem_singleton]
    exact ⟨by decide, by decide +kernel⟩
  have wellFormed : ∀ s ∈ ss, s.WellFormed := by
    simp only [ss, List.forall_mem_cons]
    exact ⟨.call called (by decide) names, .block (by decide +kernel),
      .call unload (List.forall_mem_nil _) (List.forall_mem_nil _), List.forall_mem_nil _⟩
  exact ⟨wellFormed, split_format wellFormed⟩

end Script
end MudClient
