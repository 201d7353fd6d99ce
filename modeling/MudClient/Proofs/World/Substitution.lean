import MudClient.Proofs.World.Stacking
import MudClient.Proofs.Script.Template
import MudClient.Surroundings
/-! Substituted values in commands. Two tables fill a statement in to texts that correspond: the
same characters and, in the same places, values. Cutting at newlines, dropping carriage returns and
cutting at the delimiter keep them so, piece by piece, as long as the values stay data. -/
namespace MudClient

open Script (Chance Registry Statement Locals Instruction)

namespace Text

theorem dropEndWhile_append (p : Char → Bool) (x y : Text) : dropEndWhile p (x ++ y) =
    if y.all p then dropEndWhile p x else x ++ dropEndWhile p y := by
  have none_left : (y.reverse.dropWhile p).isEmpty = y.all p := by
    rw [Bool.eq_iff_iff, List.isEmpty_iff, List.dropWhile_eq_nil_iff]
    simp
  simp only [dropEndWhile, List.reverse_append, List.dropWhile_append, none_left]
  split <;> simp

theorem splitAtChar_append {v : Text} (hv : '\n' ∉ v) (r : Text) :
    splitAtChar '\n' (v ++ r) = (splitAtChar '\n' r).modifyHead (v ++ ·) := by
  induction v with
  | nil => cases h : splitAtChar '\n' r <;> simp [h]
  | cons c v ih =>
    obtain ⟨hc, hv⟩ : '\n' ≠ c ∧ '\n' ∉ v := by simpa using hv
    have rest := ih hv
    simp only [splitAtChar] at rest
    simp [splitAtChar, List.splitOnP_cons_eq_if_modifyHead, hc.symm, rest, Function.comp_def]

end Text

theorem forall₂_modifyHead {R : Text → Text → Prop} {f g : Text → Text} {xs ys : List Text}
    (h : List.Forall₂ R xs ys) (hR : ∀ {x y}, R x y → R (f x) (g y)) :
    List.Forall₂ R (xs.modifyHead f) (ys.modifyHead g) := by
  cases h with
  | nil => exact .nil
  | cons h hs => exact .cons (hR h) hs

variable {d v v' a b : Text}

theorem isBlank_return {c : Char} (h : c == '\r') : Text.isBlank c := by
  rw [beq_iff_eq.1 h]
  rfl

/-- Carriage returns at the end may go. -/
theorem IsSolid.dropReturns (h : IsSolid d v) :
    IsSolid d (Text.dropEndWhile (· == '\r') v) where
  visible := by
    intro blank
    apply h.visible
    rw [← List.rdropWhile_append_rtakeWhile (p := (· == '\r')) (l := v), Text.isAllBlank,
      List.all_append, Bool.and_eq_true]
    refine ⟨blank, List.all_eq_true.2 fun c hc => isBlank_return ?_⟩
    exact List.mem_rtakeWhile_imp (p := (· == '\r')) hc
  line := fun hn => h.line ((List.rdropWhile_prefix _ v).subset hn)
  whole := by
    obtain ⟨w, hw⟩ := List.rdropWhile_prefix (· == '\r') v
    by_cases hd : d = []
    · simp [splitStacked, hd]
    · have whole := h.isWhole hd
      rw [← hw] at whole
      exact (isWhole_iff hd).1 whole.of_append
  head := h.head.mono (List.rdropWhile_prefix _ v)

/-- Two texts that are the same but for values, which are data in both. A value at the end may have
lost what stood at its own end. -/
inductive Corresponds (d : Text) : Text → Text → Prop
  | nil : Corresponds d [] []
  | char (c : Char) {a b : Text} : Corresponds d a b → Corresponds d (c :: a) (c :: b)
  | value {v v' a b : Text} : IsData d v → IsData d v' → Corresponds d a b →
      Corresponds d (v ++ a) (v' ++ b)
  | last {v v' : Text} : IsSolid d v → IsSolid d v' → Corresponds d v v'

namespace Corresponds

theorem symm (h : Corresponds d a b) : Corresponds d b a := by
  induction h with
  | nil => exact .nil
  | char c _ ih => exact .char c ih
  | value hv hv' _ ih => exact .value hv' hv ih
  | last hv hv' => exact .last hv' hv

theorem append_left (w : Text) (h : Corresponds d a b) : Corresponds d (w ++ a) (w ++ b) := by
  induction w with
  | nil => exact h
  | cons c w ih => exact .char c ih

/-- Both texts are of blanks of one kind, or neither is. -/
theorem all_eq (h : Corresponds d a b) (q : Char → Bool) (hq : ∀ {c}, q c → Text.isBlank c) :
    a.all q = b.all q := by
  have seen {v : Text} (hv : IsSolid d v) : v.all q = false := by
    by_contra hn
    refine hv.visible (List.all_eq_true.2 fun c hc => hq ?_)
    exact List.all_eq_true.1 (by simpa using hn) c hc
  induction h with
  | nil => rfl
  | char c _ ih => simp [ih]
  | value hv hv' => simp [List.all_append, seen hv.toIsSolid, seen hv'.toIsSolid]
  | last hv hv' => rw [seen hv, seen hv']

theorem dropReturns (h : Corresponds d a b) : Corresponds d
    (Text.dropEndWhile (· == '\r') a) (Text.dropEndWhile (· == '\r') b) := by
  induction h with
  | nil => exact .nil
  | @char c a b h ih =>
    have same := h.all_eq _ @isBlank_return
    rw [← List.singleton_append, ← List.singleton_append (l := b), Text.dropEndWhile_append,
      Text.dropEndWhile_append, same]
    split
    · simpa using append_left (Text.dropEndWhile (· == '\r') [c]) .nil
    · exact .char c ih
  | @value v v' a b hv hv' h ih =>
    rw [Text.dropEndWhile_append, Text.dropEndWhile_append, h.all_eq _ @isBlank_return]
    split
    · exact .last hv.toIsSolid.dropReturns hv'.toIsSolid.dropReturns
    · exact .value hv hv' ih
  | last hv hv' => exact .last hv.dropReturns hv'.dropReturns

theorem lines (h : Corresponds d a b) :
    List.Forall₂ (Corresponds d) (Text.splitAtChar '\n' a) (Text.splitAtChar '\n' b) := by
  induction h with
  | nil => exact .cons .nil .nil
  | @char c a b h ih =>
    simp only [Text.splitAtChar, List.splitOnP_cons_eq_if_modifyHead] at ih ⊢
    split
    · exact .cons .nil ih
    · exact forall₂_modifyHead ih (.char c)
  | @value v v' a b hv hv' _ ih =>
    rw [Text.splitAtChar_append hv.line, Text.splitAtChar_append hv'.line]
    exact forall₂_modifyHead ih (.value hv hv')
  | @last v v' hv hv' =>
    have single {v : Text} (hv : IsSolid d v) : Text.splitAtChar '\n' v = [v] := by
      simpa [Text.splitAtChar] using Text.splitAtChar_append hv.line []
    rw [single hv, single hv']
    exact .cons (.last hv hv') .nil

/-- The rest of a delimiter that stands in one of the texts is no part of a value. -/
theorem of_rest (h : Corresponds d a b) {p s : Text} (hd : d = p ++ s) (hp : p ≠ [])
    (hs : s <+: a) : ∃ a' b', a = s ++ a' ∧ b = s ++ b' ∧ Corresponds d a' b' := by
  induction h generalizing p s with
  | nil =>
    rw [List.prefix_nil.1 hs]
    exact ⟨[], [], rfl, rfl, .nil⟩
  | @char c a b h ih =>
    cases s with
    | nil => exact ⟨_, _, rfl, rfl, .char c h⟩
    | cons e s =>
      obtain ⟨rfl, hsa⟩ := List.cons_prefix_cons.1 hs
      obtain ⟨a', b', rfl, rfl, h'⟩ := ih (p := p ++ [e]) (by simpa using hd) (by simp) hsa
      exact ⟨a', b', rfl, rfl, h'⟩
  | @value v v' a b hv hv' h =>
    cases s with
    | nil => exact ⟨_, _, rfl, rfl, .value hv hv' h⟩
    | cons e s =>
      obtain hsv | hvs := List.prefix_or_prefix_of_prefix hs (List.prefix_append v a)
      · exact absurd hsv (hv.head p _ hd hp (List.cons_ne_nil e s))
      · refine absurd ?_ hv.inner
        rw [hd]
        exact hvs.isInfix.trans (List.suffix_append p _).isInfix
  | @last v v' hv hv' =>
    cases s with
    | nil => exact ⟨_, _, rfl, rfl, .last hv hv'⟩
    | cons e s => exact absurd hs (hv.head p _ hd hp (List.cons_ne_nil e s))

/-- A delimiter at the beginning of one of the texts is none of its values' doing. -/
theorem of_delimiter (hd : d ≠ []) (h : Corresponds d a b) (ha : d <+: a) :
    ∃ a' b', a = d ++ a' ∧ b = d ++ b' ∧ Corresponds d a' b' := by
  cases h with
  | nil => exact absurd (List.prefix_nil.1 ha) hd
  | @char c a b h =>
    obtain ⟨e, s, rfl⟩ := List.exists_cons_of_ne_nil hd
    obtain ⟨rfl, hs⟩ := List.cons_prefix_cons.1 ha
    obtain ⟨a', b', rfl, rfl, h'⟩ := h.of_rest (p := [e]) rfl (by simp) hs
    exact ⟨a', b', rfl, rfl, h'⟩
  | value hv hv' h =>
    exact absurd ha (hv.tail.not_prefix_append hv.ne_nil ((hv.isWhole hd).uncut hd))
  | last hv hv' => exact absurd ha ((hv.isWhole hd).uncut hd)

theorem prefix_iff (hd : d ≠ []) (h : Corresponds d a b) : d <+: a ↔ d <+: b := by
  constructor
  · intro ha
    obtain ⟨a', b', -, rfl, -⟩ := h.of_delimiter hd ha
    exact List.prefix_append d b'
  · intro hb
    obtain ⟨b', a', -, rfl, -⟩ := h.symm.of_delimiter hd hb
    exact List.prefix_append d a'

theorem splitStacked (h : Corresponds d a b) :
    List.Forall₂ (Corresponds d) (splitStacked d a) (splitStacked d b) := by
  by_cases hd : d = []
  · subst hd
    exact .cons h .nil
  induction hn : a.length using Nat.strong_induction_on generalizing a b with
  | _ n ih =>
    subst hn
    cases h with
    | nil =>
      rw [splitStacked_nil]
      exact .cons .nil .nil
    | @value v v' a b hv hv' h =>
      have some_char := List.length_pos_iff.2 hv.ne_nil
      have shorter : a.length < (v ++ a).length := by
        rw [List.length_append]
        omega
      rw [splitStacked_value hd (hv.isWhole hd) hv.tail (hv.last hd),
        splitStacked_value hd (hv'.isWhole hd) hv'.tail (hv'.last hd)]
      exact forall₂_modifyHead (ih a.length shorter h rfl) (.value hv hv')
    | last hv hv' =>
      rw [hv.whole, hv'.whole]
      exact .cons (.last hv hv') .nil
    | @char c a b h =>
      have begun := (Corresponds.char c h).prefix_iff hd
      by_cases ha : d <+: c :: a
      · obtain ⟨a', b', ha', hb', h'⟩ := (Corresponds.char c h).of_delimiter hd ha
        have some_char := List.length_pos_iff.2 hd
        have shorter : a'.length < (c :: a).length := by
          rw [ha', List.length_append]
          omega
        rw [ha', hb', splitStacked_append hd, splitStacked_append hd]
        exact .cons .nil (ih a'.length shorter h' rfl)
      by_cases hc : c = '\\' ∧ d <+: a
      · obtain ⟨rfl, hda⟩ := hc
        obtain ⟨a', b', rfl, rfl, h'⟩ := h.of_delimiter hd hda
        rw [splitStacked_escaped hd ha, splitStacked_escaped hd (begun.not.1 ha)]
        have shorter : a'.length < ('\\' :: (d ++ a')).length := by
          rw [List.length_cons, List.length_append]
          omega
        exact forall₂_modifyHead (ih a'.length shorter h' rfl)
          (append_left ('\\' :: d))
      · have hca : c = '\\' → ¬ d <+: a := fun e ha => hc ⟨e, ha⟩
        rw [splitStacked_cons hd ha hca, splitStacked_cons hd (begun.not.1 ha)
          fun e => (h.prefix_iff hd).not.1 (hca e)]
        exact forall₂_modifyHead (ih a.length (by simp) h rfl) (.char c)

end Corresponds

theorem length_splitCommands (d t : Text) : (splitCommands d t).length =
    max 1 ((((Text.splitAtChar '\n' t).map (Text.dropEndWhile (· == '\r'))).flatMap
      (splitStacked d)).filter fun c => !Text.isAllBlank c).length := by
  unfold splitCommands
  dsimp only
  generalize List.filter _ _ = commands
  cases commands <;> simp

/-- Texts that correspond are cut into the same number of commands. -/
theorem Corresponds.length_splitCommands (h : Corresponds d a b) :
    (splitCommands d a).length = (splitCommands d b).length := by
  have trimmed : List.Forall₂ (Corresponds d)
      ((Text.splitAtChar '\n' a).map (Text.dropEndWhile (· == '\r')))
      ((Text.splitAtChar '\n' b).map (Text.dropEndWhile (· == '\r'))) :=
    List.rel_map (fun _ _ h => h.dropReturns) h.lines
  have pieces := List.rel_flatMap trimmed fun _ _ h => h.splitStacked
  have seen := List.rel_filter (p := fun c => !Text.isAllBlank c)
    (q := fun c => !Text.isAllBlank c)
    (fun x y (h : Corresponds d x y) => by simp [Text.isAllBlank, h.all_eq _ id]) pieces
  rw [MudClient.length_splitCommands, MudClient.length_splitCommands, seen.length_eq]

section Statement

variable {registry : Registry} {s : Statement} {locals locals' : Locals}

/-- The statement calls the function that sends its arguments. -/
structure IsSending (registry : Registry) (s : Statement) : Prop where
  call : s.isBlock = false
  function : registry.find? s.function = some .send

/-- The text that a statement sends, filled in from a table. -/
def filledText (s : Statement) (locals : Locals) : Text :=
  s.parts.flatMap (Script.Part.fill locals.value)

section

variable [Lua] [Chance]

/-- Compiled in any table, the statement sends one text from each of two tables, and the world cuts
the two into the same number of commands. -/
def SendsAsMany (registry : Registry) (s : Statement) (delimiter : Text)
    (locals locals' : Locals) : Prop :=
  ∃ (i : Instruction) (text text' : Text),
    (∀ vars, (s.compile registry (some vars)).Gives i) ∧
    i.run registry locals = .ok (.ofEffect (.send text)) ∧
    i.run registry locals' = .ok (.ofEffect (.send text')) ∧
    (splitCommands delimiter text).length = (splitCommands delimiter text').length

omit [Lua] in
theorem IsSending.gives_compile (h : IsSending registry s) (vars : Locals) {i : Instruction} :
    (s.compile registry (some vars)).Gives i ↔
      i = .call s.function (s.arguments.map (Script.Argument.value true)) s.flags := by
  have table : Script.Builtin.table .send (some vars) = some vars := rfl
  unfold Statement.compile
  simp only [h.call, h.function, table, Bool.false_eq_true, if_false, Statement.gives_compileCall]
  simp [Script.Builtin.accepts, Script.Builtin.arity, Script.Builtin.delay?]

omit [Chance] in
theorem IsSending.run (h : IsSending registry s) (locals : Locals) :
    (Instruction.call s.function (s.arguments.map (Script.Argument.value true)) s.flags).run
      registry locals = .ok (.ofEffect (.send (filledText s locals))) := by
  simp only [Instruction.run, h.function, Script.Builtin.run, Statement.unwords_resolve]
  rfl

theorem sendsAsMany_iff (h : IsSending registry s) : SendsAsMany registry s d locals locals' ↔
    (splitCommands d (filledText s locals)).length =
      (splitCommands d (filledText s locals')).length := by
  constructor
  · rintro ⟨i, text, text', hi, ht, ht', same⟩
    cases (h.gives_compile locals).1 (hi locals)
    cases (h.run locals).symm.trans ht
    cases (h.run locals').symm.trans ht'
    exact same
  · intro same
    exact ⟨_, _, _, fun vars => (h.gives_compile vars).2 rfl, h.run locals, h.run locals', same⟩

omit [Lua] [Chance] in
/-- Filling the same parts in gives texts that correspond, if the values are data. -/
theorem corresponds_fill {parts : List Script.Part}
    (h : ∀ name ∈ parts.filterMap Script.Part.name?,
      Option.Rel (fun v v' => IsData d v ∧ IsData d v')
        (locals.lookup? name) (locals'.lookup? name)) :
    Corresponds d (parts.flatMap (Script.Part.fill locals.value))
      (parts.flatMap (Script.Part.fill locals'.value)) := by
  induction parts with
  | nil => exact .nil
  | cons part parts ih =>
    cases part with
    | char c => exact .char c (ih h)
    | name n =>
      obtain ⟨first, rest⟩ := List.forall_mem_cons.1 h
      simp only [List.flatMap_cons, Script.Part.fill, Locals.value]
      generalize locals.lookup? n = x, locals'.lookup? n = y at first
      cases first with
      | some data => exact .value data.1 data.2 (ih rest)
      | none => exact ih rest

/-- Two tables fill a statement in to as many commands: if each name that it looks for has a value
in both or in neither, and these values are data where commands are cut. -/
theorem sendsAsMany_of_isData (hs : IsSending registry s)
    (h : ∀ name ∈ s.names, Option.Rel (fun v v' => IsData d v ∧ IsData d v')
      (locals.lookup? name) (locals'.lookup? name)) :
    SendsAsMany registry s d locals locals' :=
  (sendsAsMany_iff hs).2 (corresponds_fill h).length_splitCommands

end

/-- The variables after a match that captured one text. -/
def captured (text : String) : Locals := ⟨∅, [text.toList]⟩

theorem isSending_builtins (h : s.function = Script.implicitFunction) : IsSending .builtins s where
  call := by
    rw [Statement.isBlock, h]
    rfl
  function := by
    rw [h]
    decide +kernel

theorem sendsAsMany_captured : SendsAsMany .builtins (.implicit "say $1|look".toList) "|".toList
    (captured "hello") (captured "a\\|b") := by
  refine sendsAsMany_of_isData (isSending_builtins rfl) fun name hn => ?_
  have names : (Statement.implicit "say $1|look".toList).names = ["1".toList] := by decide +kernel
  rw [names] at hn
  cases List.mem_singleton.1 hn
  exact .some ⟨isData_singleton.2 (by decide +kernel), isData_singleton.2 (by decide +kernel)⟩

/-- Every value is a line that is not blank. -/
def IsOfLines (l : Locals) : Prop :=
  ∀ v ∈ l.args ++ l.vars.entries.map (·.2), ¬ Text.isAllBlank v ∧ '\n' ∉ v

/-- A statement that two tables fill in. -/
structure Filling where
  statement : Statement
  delimiter : Text
  first : Locals
  second : Locals

/-- For each thing that is asked of the values, two tables that lack nothing else. -/
def separated : List Filling := [
  -- The value is cut.
  ⟨.implicit "say $1".toList, ";".toList, captured "x", captured "x;quit"⟩,
  -- A delimiter begins in the value, or ends in it, or lies around it.
  ⟨.implicit "$1|b".toList, "||".toList, captured "a", captured "a|"⟩,
  ⟨.implicit "a|$1".toList, "||".toList, captured "b", captured "|b"⟩,
  ⟨.implicit "a|$1|b".toList, "|-|".toList, captured "x", captured "-"⟩,
  -- The value keeps the delimiter after it.
  ⟨.implicit "$1|b".toList, "|".toList, captured "a", captured "a\\"⟩,
  -- One table has no value, and a command that is blank is none.
  ⟨⟨Script.implicitFunction, [.braced "$1;look".toList], ∅⟩, [], captured "a", .empty⟩]

/-- A value may act as a separator, even if it is a line that is not blank. -/
theorem not_sendsAsMany_of_lines :
    (¬ ∀ (registry : Registry) (s : Statement) (delimiter : Text) (locals locals' : Locals),
      IsSending registry s → IsOfLines locals → IsOfLines locals' →
        SendsAsMany registry s delimiter locals locals') ∧
    ∀ x ∈ separated, IsOfLines x.first ∧ IsOfLines x.second ∧
      ¬ SendsAsMany .builtins x.statement x.delimiter x.first x.second := by
  have lines : ∀ x ∈ separated, IsOfLines x.first ∧ IsOfLines x.second := by
    unfold IsOfLines
    decide +kernel
  have apart : ∀ x ∈ separated,
      ¬ SendsAsMany .builtins x.statement x.delimiter x.first x.second := by
    intro x hx
    have sending : ∀ x ∈ separated, x.statement.function = Script.implicitFunction := by
      decide +kernel
    have counts : ∀ x ∈ separated,
        ¬ (splitCommands x.delimiter (filledText x.statement x.first)).length =
          (splitCommands x.delimiter (filledText x.statement x.second)).length := by
      decide +kernel
    rw [sendsAsMany_iff (isSending_builtins (sending x hx))]
    exact counts x hx
  refine ⟨fun claimed => ?_, fun x hx => ⟨(lines x hx).1, (lines x hx).2, apart x hx⟩⟩
  have first : separated[0] ∈ separated := List.getElem_mem _
  exact apart _ first (claimed _ _ _ _ _ (isSending_builtins rfl) (lines _ first).1
    (lines _ first).2)

end Statement
end MudClient
