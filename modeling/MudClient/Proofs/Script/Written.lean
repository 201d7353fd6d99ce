import MudClient.Proofs.Script.Reading
import MudClient.Script.Program
/-! Reading what was written. A text that is written between braces comes back if its braces are
balanced, up to its separators; if they are not, another text is read. -/
namespace MudClient.Script

/-- What a text that was written is read as. -/
def readBack (written : Text) : Text := (argumentOfBraces written).literal

def argumentOfWritten (t : Text) : Argument := if needsBraces t then argumentOfBraces t else .plain t

/-- A word can stand without braces. -/
theorem needsBraces_eq_false {t : Text} : needsBraces t = false ↔
    (∀ c ∈ t, Text.isBlank c = false ∧ isBrace c = false ∧ c ≠ ';') ∧
      ∃ c r, t = c :: r ∧ c ≠ '#' ∧ c ≠ '+' ∧ c ≠ '-' := by
  cases t with
  | nil => simp [needsBraces]
  | cons c r =>
    simp [needsBraces, isBrace]
    grind

@[simp] theorem literal_argumentOfWritten (t : Text) :
    (argumentOfWritten t).literal = readBack t := by
  unfold argumentOfWritten readBack
  split
  · rfl
  · rename_i h
    obtain ⟨-, c, r, rfl, -, hp, -⟩ := needsBraces_eq_false.1 (by simpa using h)
    simp [argumentOfBraces, hp, Argument.literal]

theorem format_braced (t : Text) : (Argument.braced t).format =
    if needsBraces t then '{' :: t ++ ['}'] else t := rfl

/-- Text after which a word has ended. -/
def StartsBlank (t : Text) : Prop := ∀ c ∈ t.head?, Text.isBlank c

theorem startsBlank_cons {c : Char} (h : Text.isBlank c) (r : Text) : StartsBlank (c :: r) := by
  intro d hd
  cases hd
  exact h

theorem startsBlank_flatMap {α : Type} (f : α → Text) (as : List α) {r : Text}
    (hr : StartsBlank r) : StartsBlank ((as.flatMap fun a => ' ' :: f a) ++ r) := by
  cases as with
  | nil => exact hr
  | cons a as => exact startsBlank_cons rfl _

theorem takeWhile_word {t r : Text} (ht : ∀ c ∈ t, Text.isBlank c = false) (hr : StartsBlank r) :
    (t ++ r).takeWhile isWordChar = t ∧ (t ++ r).dropWhile isWordChar = r := by
  have word : ∀ c ∈ t, isWordChar c := fun c hc => by simp [isWordChar, ht c hc]
  rw [List.takeWhile_append_of_pos word, List.dropWhile_append_of_pos word]
  cases r with
  | nil => simp
  | cons c r =>
    have hc : ¬ isWordChar c := by simp [isWordChar, hr c rfl]
    simp [hc]

theorem flagOfWord?_eq_none {c : Char} (hp : c ≠ '+') (hm : c ≠ '-') (r : Text) :
    flagOfWord? (c :: r) = none := by
  cases r <;> simp [flagOfWord?, hp, hm]

theorem arguments_plain (flags : Flags) {t r : Text} (h : needsBraces t = false)
    (hr : StartsBlank r) : arguments flags (t ++ r) =
      (arguments flags r).map fun (args, e) => (.plain t :: args, e) := by
  obtain ⟨hall, c, s, rfl, -, hp, hm⟩ := needsBraces_eq_false.1 h
  obtain ⟨hc, hs⟩ := List.forall_mem_cons.1 hall
  have hb : c ≠ '{' := (isBrace_eq_false.1 hc.2.1).1
  obtain ⟨htake, hdrop⟩ := takeWhile_word (fun d hd => (hs d hd).1) hr
  rw [List.cons_append, arguments_word flags hc.1 hb, htake, hdrop, flagOfWord?_eq_none hp hm]

theorem arguments_written (flags : Flags) {t r : Text} (ht : Balanced t) (hr : StartsBlank r) :
    arguments flags ((Argument.braced t).format ++ r) =
      (arguments flags r).map fun (args, e) => (argumentOfWritten t :: args, e) := by
  rw [format_braced, argumentOfWritten]
  split
  · have group : '{' :: t ++ ['}'] ++ r = '{' :: (t ++ '}' :: r) := by simp
    rw [group, arguments_brace, closeBrace_of_balanced ht]
  · rename_i h
    exact arguments_plain flags (by simpa using h) hr

theorem balanced_literal_argumentOfBraces {inner : Text} (h : Balanced inner) :
    Balanced (argumentOfBraces inner).literal := by
  unfold argumentOfBraces
  split
  · rw [Argument.literal, Argument.format]
    have source : Balanced (foreignSource inner) :=
      (balanced_iff_of_filter (filter_foreignSource inner)).2 h
    have spaced : Balanced ('+' :: ' ' :: foreignSource inner ++ [' ']) := by
      refine (balanced_iff_of_filter ?_).2 source
      simp [isBrace]
    simpa using spaced.wrap
  · exact (balanced_iff_of_filter (Separator.filter_expand inner)).2 h

/-- Whatever was written, what is read has balanced braces unless the text itself has. -/
theorem exists_of_arguments_written {flags flags' : Flags} {t r rest : Text}
    {args : List Argument} (hr : StartsBlank r)
    (h : arguments flags ((Argument.braced t).format ++ r) = .ok (args, flags', rest)) :
    ∃ a more, args = a :: more ∧ (Balanced t ∨ Balanced a.literal) := by
  rw [format_braced] at h
  split at h
  · have group : '{' :: t ++ ['}'] ++ r = '{' :: (t ++ '}' :: r) := by simp
    rw [group] at h
    obtain ⟨inner, left, more, hc, -, rfl⟩ := exists_of_arguments_brace h
    exact ⟨_, _, rfl, .inr (balanced_literal_argumentOfBraces (eq_of_closeBrace hc).2)⟩
  · rename_i hn
    have plain : needsBraces t = false := by simpa using hn
    rw [arguments_plain flags plain hr] at h
    obtain ⟨⟨more, e⟩, -, h⟩ := map_eq_ok.1 h
    cases h
    have none : ∀ c ∈ t, isBrace c = false := fun c hc => ((needsBraces_eq_false.1 plain).1 c hc).2.1
    exact ⟨_, _, rfl, .inl (balanced_of_forall none)⟩

def writtenTexts (texts : List Text) : Text := texts.flatMap fun t => ' ' :: (Argument.braced t).format

theorem startsBlank_writtenTexts (texts : List Text) {r : Text} (hr : StartsBlank r) :
    StartsBlank (writtenTexts texts ++ r) :=
  startsBlank_flatMap _ texts hr

theorem arguments_writtenTexts (flags : Flags) {texts : List Text} {r : Text}
    (h : ∀ t ∈ texts, Balanced t) (hr : StartsBlank r) :
    arguments flags (writtenTexts texts ++ r) =
      (arguments flags r).map fun (args, e) => (texts.map argumentOfWritten ++ args, e) := by
  induction texts with
  | nil =>
    show arguments flags r = _
    cases arguments flags r <;> rfl
  | cons t more ih =>
    obtain ⟨ht, hmore⟩ := List.forall_mem_cons.1 h
    have line : writtenTexts (t :: more) ++ r =
        ' ' :: ((Argument.braced t).format ++ (writtenTexts more ++ r)) := by
      simp [writtenTexts]
    rw [line, arguments_space flags (by decide),
      arguments_written flags ht (startsBlank_writtenTexts more hr), ih hmore]
    cases arguments flags r <;> rfl

/-- If what is read has the braces of the texts, then the texts are balanced. -/
theorem balanced_of_arguments_writtenTexts {flags flags' : Flags} {texts : List Text}
    {r rest : Text} {args : List Argument} (hr : StartsBlank r)
    (h : arguments flags (writtenTexts texts ++ r) = .ok (args, flags', rest))
    (same : texts.map (·.filter isBrace) <+: args.map (·.literal.filter isBrace)) :
    ∀ t ∈ texts, Balanced t := by
  induction texts generalizing args with
  | nil => simp
  | cons t more ih =>
    have line : writtenTexts (t :: more) ++ r =
        ' ' :: ((Argument.braced t).format ++ (writtenTexts more ++ r)) := by
      simp [writtenTexts]
    have hmore := startsBlank_writtenTexts more hr
    rw [line, arguments_space flags (by decide)] at h
    obtain ⟨a, left, rfl, ht⟩ := exists_of_arguments_written hmore h
    obtain ⟨first, others⟩ := List.cons_prefix_cons.1 same
    have balanced : Balanced t := ht.elim id (balanced_iff_of_filter first).2
    rw [arguments_written flags balanced hmore] at h
    obtain ⟨⟨rest', e⟩, hrest, h⟩ := map_eq_ok.1 h
    cases h
    exact List.forall_mem_cons.2 ⟨balanced, ih hrest others⟩

/-- A flag that is read as it is written. -/
def IsWrittenFlag (flag : Text × Bool) : Prop :=
  flagOfWord? (formatFlag flag) = some flag ∧
    ∀ c ∈ flag.1, Text.isBlank c = false ∧ isBrace c = false

instance (flag : Text × Bool) : Decidable (IsWrittenFlag flag) :=
  decidable_of_iff (flagOfWord? (formatFlag flag) = some flag ∧
    flag.1.all fun c => !Text.isBlank c && !isBrace c) (by simp [IsWrittenFlag])

def writtenFlags (flags : Flags) : Text := flags.entries.flatMap fun f => ' ' :: formatFlag f

theorem arguments_writtenFlag (flags : Flags) {flag : Text × Bool} {r : Text}
    (h : IsWrittenFlag flag) (hr : StartsBlank r) :
    arguments flags (formatFlag flag ++ r) = arguments (flags.insert flag.1 flag.2) r := by
  obtain ⟨htake, hdrop⟩ := takeWhile_word (fun c hc => (h.2 c hc).1) hr
  have hb : Text.isBlank (if flag.2 then '+' else '-') = false := by split <;> rfl
  have hc : (if flag.2 then '+' else '-') ≠ '{' := by split <;> decide
  rw [formatFlag, List.cons_append, arguments_word flags hb hc, htake, hdrop]
  have read : flagOfWord? ((if flag.2 then '+' else '-') :: flag.1) = some flag := h.1
  rw [read]

theorem arguments_writtenFlags (flags : Flags) {more : List (Text × Bool)} {r : Text}
    (h : ∀ f ∈ more, IsWrittenFlag f) (hr : StartsBlank r) :
    arguments flags ((more.flatMap fun f => ' ' :: formatFlag f) ++ r) =
      arguments (more.foldl (fun m f => m.insert f.1 f.2) flags) r := by
  induction more generalizing flags with
  | nil => rfl
  | cons f more ih =>
    obtain ⟨hf, hmore⟩ := List.forall_mem_cons.1 h
    have next := startsBlank_flatMap formatFlag more hr
    rw [List.flatMap_cons, List.cons_append, List.cons_append, List.append_assoc,
      arguments_space flags (by decide), arguments_writtenFlag flags hf next, ih _ hmore,
      List.foldl_cons]

/-- The flags of a statement come back as they were. -/
theorem arguments_flags {flags : Flags} {r : Text} (h : ∀ f ∈ flags.entries, IsWrittenFlag f)
    (hr : StartsBlank r) : arguments ∅ (writtenFlags flags ++ r) = arguments flags r := by
  have entries : flags.entries.foldl (fun m f => m.insert f.1 f.2) ∅ = flags := flags.ofList_entries
  rw [writtenFlags, arguments_writtenFlags ∅ h hr, entries]

/-- A number sign before a name is that of a call. -/
theorem statement_hash {c : Char} (hs : c ≠ '#') (hb : Text.isBlank c = false) (r : Text) :
    statement ('#' :: c :: r) = callStatement (c :: r) := by
  unfold statement
  split
  · rename_i heq
    exact absurd (List.cons.inj (List.cons.inj heq).2).1 hs
  · rename_i d u _ heq
    obtain ⟨rfl, rfl⟩ := List.cons.inj (List.cons.inj heq).2
    rw [if_neg (by simp [hb])]
  · rename_i heq
    exact absurd (List.cons.inj heq).1 (by decide)
  · rename_i h1 h2 h3
    exact absurd rfl (h2 _ _)

/-- A call is read up to its line's end, its name in lower case. -/
theorem statement_call {name rest : Text} (hn : ∀ c ∈ name, Text.isBlank c = false)
    (hne : name ≠ []) (hh : name.head? ≠ some '#') (hr : StartsBlank rest) :
    statement ('#' :: (name ++ rest)) = (arguments ∅ rest).map fun (args, flags, left) =>
      (⟨Unicode.lower name, args, flags⟩, left) := by
  obtain ⟨c, more, rfl⟩ := List.exists_cons_of_ne_nil hne
  obtain ⟨htake, hdrop⟩ := takeWhile_word hn hr
  have hc : Text.isBlank c = false := hn c List.mem_cons_self
  have hs : c ≠ '#' := fun h => hh (by rw [h]; rfl)
  have call : statement ('#' :: (c :: more ++ rest)) = callStatement (c :: more ++ rest) :=
    statement_hash hs hc (more ++ rest)
  rw [call, callStatement]
  have word : (fun c => !Text.isBlank c) = isWordChar := rfl
  simp only [word, htake, hdrop]

theorem join_cons (sep t : Text) (more : List Text) :
    Text.join sep (t :: more) = t ++ more.flatMap (sep ++ ·) := by
  induction more generalizing t with
  | nil => simp [Text.join, List.intercalate]
  | cons u more ih =>
    have step : Text.join sep (t :: u :: more) = t ++ sep ++ Text.join sep (u :: more) := by
      simp [Text.join, List.intercalate]
    rw [step, ih, List.flatMap_cons]
    simp

theorem unwords_cons (t : Text) (more : List Text) :
    Text.unwords (t :: more) = t ++ more.flatMap (' ' :: ·) :=
  join_cons [' '] t more

theorem declaration_eq {function : String} (hf : function.toList ≠ blockFunction) (subject : Text)
    (actions : List Text) (flags : Flags) : declaration function subject actions flags =
      '#' :: function.toList ++ writtenTexts (subject :: actions.map Separator.collapse) ++
        writtenFlags flags := by
  have call : (⟨function.toList, .braced subject :: actions.map fun a => .braced (Separator.collapse a),
      flags⟩ : Statement).isBlock = false := by
    simpa [Statement.isBlock] using hf
  rw [declaration, Statement.format, call, if_neg (by simp), List.cons_append, unwords_cons]
  simp [writtenTexts, writtenFlags, List.flatMap_map, List.flatMap_append, List.map_map, Function.comp_def]

end MudClient.Script
