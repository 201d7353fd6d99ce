import MudClient.Proofs.Script.Line
/-! The lines of a configuration in pieces. -/
namespace MudClient

open Script
open Script.Piece

namespace Script

def Piece.ofChar (c : Char) : Piece := if c = '\n' then .newline else .loose c

/-- A text that is not balanced, behind its open brace. -/
def loosePieces (t : Text) : List Piece := t.map Piece.ofChar ++ [.loose '}']

/-- A text behind another one. -/
def textPieces (t : Text) : List Piece :=
  .space :: if Balanced t then [.closed (Argument.braced t).format] else .loose '{' :: loosePieces t

def flagPieces (flag : Text × Bool) : List Piece := [.space, .closed (formatFlag flag)]

@[simp] theorem spell_append (ps qs : List Piece) : spell (ps ++ qs) = spell ps ++ spell qs :=
  List.flatMap_append

theorem spell_flatMap {α : Type} (f : α → List Piece) (as : List α) :
    spell (as.flatMap f) = as.flatMap fun a => spell (f a) := List.flatMap_assoc

theorem spell_loosePieces (t : Text) : spell (loosePieces t) = t ++ ['}'] := by
  have single (c : Char) : (Piece.ofChar c).text = [c] := by
    unfold Piece.ofChar
    split
    · rename_i h
      rw [h]
      rfl
    · rfl
  unfold loosePieces
  induction t with
  | nil => rfl
  | cons c r ih => simpa [single] using ih

/-- Only a text in braces can lack a brace. -/
theorem format_of_not_balanced {t : Text} (h : ¬ Balanced t) :
    (Argument.braced t).format = '{' :: t ++ ['}'] := by
  rw [format_braced, if_pos]
  by_contra hn
  have plain := (needsBraces_eq_false.1 (by simpa using hn)).1
  exact h (balanced_of_forall fun c hc => (plain c hc).2.1)

theorem spell_textPieces (t : Text) : spell (textPieces t) = ' ' :: (Argument.braced t).format := by
  unfold textPieces
  split
  · simp [Piece.text]
  · rename_i h
    simp [Piece.text, spell_loosePieces, format_of_not_balanced h]

theorem spell_flagPieces (flag : Text × Bool) : spell (flagPieces flag) = ' ' :: formatFlag flag := by
  simp [flagPieces, Piece.text]

theorem isStart_loosePieces (t : Text) : ∀ q ∈ loosePieces t, q.isStart = false := by
  intro q hq
  rcases List.mem_append.1 hq with hq | hq
  · obtain ⟨c, -, rfl⟩ := List.mem_map.1 hq
    unfold Piece.ofChar
    split <;> rfl
  · rw [List.mem_singleton.1 hq]
    rfl

theorem isStart_textPieces (t : Text) : ∀ q ∈ textPieces t, q.isStart = false := by
  unfold textPieces
  split
  · simp [isStart]
  · exact List.forall_mem_cons.2 ⟨rfl, List.forall_mem_cons.2 ⟨rfl, isStart_loosePieces t⟩⟩

theorem isStart_flagPieces (flag : Text × Bool) : ∀ q ∈ flagPieces flag, q.isStart = false := by
  simp [flagPieces, isStart]

variable {tame : Prop} {ps : List Piece}

/-- Pieces before which a word has ended. -/
def EndsWord (ps : List Piece) : Prop := ∀ q ∈ ps.head?, q = .space ∨ q = .newline

theorem isJoined_loosePieces {t : Text} (ht : ∀ c ∈ t, Text.isBlank c → c = '\n' ∧ ¬ tame)
    (hp : IsJoined tame ps) (he : EndsWord ps) : IsJoined tame (loosePieces t ++ ps) ∧
      ∀ q ∈ (loosePieces t ++ ps).head?, q = .newline ∨ ∃ c, q = .loose c := by
  unfold loosePieces
  induction t with
  | nil =>
    refine ⟨⟨rfl, fun q hq => ?_, hp⟩, fun q hq => ?_⟩
    · rcases he q hq with rfl | rfl
      · exact .inr (.inr ⟨rfl, rfl⟩)
      · exact .inl rfl
    · cases hq
      exact .inr ⟨_, rfl⟩
  | cons c r ih =>
    obtain ⟨hc, hr⟩ := List.forall_mem_cons.1 ht
    obtain ⟨hj, hh⟩ := ih hr
    rw [List.map_cons, List.cons_append, List.cons_append]
    unfold Piece.ofChar
    split
    · rename_i hn
      have line : ¬ tame := (hc (by rw [hn]; rfl)).2
      refine ⟨⟨trivial, fun q hq => .inr ⟨line, hh q hq⟩, hj⟩, fun q hq => ?_⟩
      cases hq
      exact .inl rfl
    · rename_i hn
      have word : Text.isBlank c = false := by
        by_contra hb
        exact hn (hc (by simpa using hb)).1
      refine ⟨⟨word, fun q hq => (hh q hq).imp id .inl, hj⟩, fun q hq => ?_⟩
      cases hq
      exact .inr ⟨_, rfl⟩

theorem isClosed_format {t : Text} (h : Balanced t) (hn : '\n' ∉ t) :
    Piece.IsClosed (Argument.braced t).format := by
  rw [format_braced]
  split
  · exact .block h hn
  · rename_i hb
    obtain ⟨plain, c, r, rfl, hh, -⟩ := needsBraces_eq_false.1 (by simpa using hb)
    exact .word (fun d hd => ⟨(plain d hd).1, (plain d hd).2.1⟩) hh

/-- A text without newlines stands behind another one if it is balanced or a word. -/
theorem isJoined_textPieces {t : Text} (hn : '\n' ∉ t)
    (ht : Balanced t ∨ ∀ c ∈ t, Text.isBlank c = false) (hp : IsJoined tame ps) (he : EndsWord ps) :
    IsJoined tame (textPieces t ++ ps) := by
  unfold textPieces
  split
  · rename_i hb
    refine ⟨trivial, fun q hq => ?_, isClosed_format hb hn, he, hp⟩
    cases hq
    exact .inl ⟨_, rfl⟩
  · rename_i hb
    have word := ht.resolve_left hb
    have line : ∀ c ∈ t, Text.isBlank c → c = '\n' ∧ ¬ tame := by
      intro c hc h
      rw [word c hc] at h
      cases h
    obtain ⟨hj, hh⟩ := isJoined_loosePieces line hp he
    refine ⟨trivial, fun q hq => ?_, rfl, fun q hq => (hh q hq).imp id .inl, hj⟩
    cases hq
    exact .inr rfl

theorem isJoined_flagPieces {flag : Text × Bool} (h : IsWrittenFlag flag)
    (hp : IsJoined tame ps) (he : EndsWord ps) : IsJoined tame (flagPieces flag ++ ps) := by
  refine ⟨trivial, fun q hq => ?_, ?_, he, hp⟩
  · cases hq
    exact .inl ⟨_, rfl⟩
  · refine .word (List.forall_mem_cons.2 ⟨?_, h.2⟩) ?_ <;> split <;> decide

theorem isJoined_flatMap {α : Type} {f : α → List Piece} {as : List α}
    (hf : ∀ a ∈ as, ∀ ps, IsJoined tame ps → EndsWord ps → IsJoined tame (f a ++ ps))
    (hs : ∀ a, (f a).head? = some .space) (hp : IsJoined tame ps) (he : EndsWord ps) :
    IsJoined tame (as.flatMap f ++ ps) ∧ EndsWord (as.flatMap f ++ ps) := by
  induction as with
  | nil => exact ⟨hp, he⟩
  | cons a as ih =>
    obtain ⟨ha, has⟩ := List.forall_mem_cons.1 hf
    obtain ⟨hj, hw⟩ := ih has
    rw [List.flatMap_cons, List.append_assoc]
    refine ⟨ha _ hj hw, fun q hq => .inl ?_⟩
    rw [List.head?_append, hs a] at hq
    exact (Option.some.inj hq).symm

end Script

namespace Item

/-- What is shown of a subject before any brace of it. -/
def opening : Item → Text
  | ofKeyBinding b => b.shortcut.shownModifiers
  | _ => []

def remainder : Item → Text
  | ofKeyBinding b => b.shortcut.key
  | i => i.subject

theorem subject_eq (i : Item) : i.subject = i.opening ++ i.remainder := by
  cases i with
  | ofKeyBinding b => exact b.shortcut.display_eq
  | ofChannel | ofAlias | ofTrigger => rfl

theorem isName_function (i : Item) : IsName i.function.name.toList := by
  obtain ⟨-, hne, hh, -⟩ := i.function_name
  exact ⟨i.functionName_plain, hne, hh⟩

def subjectPieces (i : Item) : List Piece :=
  if Balanced i.subject then [.head i.function.name.toList i.subject]
  else .lead i.function.name.toList i.opening :: loosePieces i.remainder

def otherPieces (i : Item) : List Piece :=
  (i.actions.map Separator.collapse).flatMap textPieces ++
    (i.flags.entries.flatMap flagPieces ++ [.newline])

def pieces (i : Item) : List Piece := i.subjectPieces ++ i.otherPieces

theorem spell_pieces (i : Item) : spell i.pieces = i.line ++ ['\n'] := by
  have subject : spell i.subjectPieces =
      '#' :: i.function.name.toList ++ ' ' :: (Argument.braced i.subject).format := by
    unfold subjectPieces
    split
    · simp [Piece.text]
    · rename_i h
      rw [format_of_not_balanced h, subject_eq]
      simp [Piece.text, spell_loosePieces]
  rw [pieces, spell_append, subject, line_eq, otherPieces]
  simp [spell_flatMap, spell_textPieces, spell_flagPieces, writtenTexts, writtenFlags, written,
    Piece.text]

theorem spell_flatMap_pieces_cons (i : Item) (is : List Item) :
    spell ((i :: is).flatMap pieces) = i.line ++ '\n' :: spell (is.flatMap pieces) := by
  rw [List.flatMap_cons, spell_append, spell_pieces]
  simp

/-- A subject that is not balanced has no white space but newlines, and none of those if it is
tame. -/
theorem isBlank_remainder {i : Item} {tame : Prop} (hs : Rule.sound.Allows i)
    (ht : tame → Rule.tame.Allows i) (hb : ¬ Balanced i.subject) :
    ∀ c ∈ i.remainder, Text.isBlank c → c = '\n' ∧ ¬ tame := by
  have word {t : Text} (hs : IsSound t) (ht : tame → IsTame t) (hb : ¬ Balanced t) :
      ∀ c ∈ t, Text.isBlank c → c = '\n' ∧ ¬ tame := by
    intro c hc h
    obtain rfl := hs.resolve_left hb c hc h
    exact ⟨rfl, fun h => (ht h).resolve_left hb hc⟩
  cases i with
  | ofChannel name => exact word hs ht hb
  | ofAlias a => exact word hs.1 (fun h => (ht h).1) hb
  | ofTrigger t => exact word hs.1 (fun h => (ht h).1) hb
  | ofKeyBinding b =>
    obtain ⟨t, hsound, hparse⟩ := hs.1
    have open_ {u : Text} (hu : Shortcut.parse? u = some b.shortcut) : ¬ Balanced u :=
      fun h => hb ((balanced_iff_of_filter (Shortcut.filter_display hu)).2 h)
    intro c hc h
    obtain rfl := hsound.resolve_left (open_ hparse) c (Shortcut.mem_of_mem_key hparse hc h) h
    refine ⟨rfl, fun hh => ?_⟩
    obtain ⟨u, htame, hparse'⟩ := (ht hh).1
    exact htame.resolve_left (open_ hparse') (Shortcut.mem_of_mem_key hparse' hc h)

theorem isSound_actions {i : Item} (h : Rule.sound.Allows i) : ∀ a ∈ i.actions, IsSound a := by
  cases i with
  | ofChannel => exact fun _ ha => nomatch ha
  | ofAlias a => exact fun t ht => List.mem_singleton.1 ht ▸ h.2
  | ofTrigger t =>
    refine List.forall_mem_cons.2 ⟨h.2.1, fun s hs => ?_⟩
    exact (h.2.2 s (Option.mem_toList.1 hs)).1
  | ofKeyBinding b => exact fun t ht => List.mem_singleton.1 ht ▸ h.2

/-- A written action has no newline, and no white space unless it is balanced. -/
theorem isSound_collapse {a : Text} (h : IsSound a) : '\n' ∉ Separator.collapse a ∧
    (Balanced (Separator.collapse a) ∨ ∀ c ∈ Separator.collapse a, Text.isBlank c = false) := by
  refine ⟨fun hn => (Separator.mem_collapse hn).1 rfl, h.imp ?_ fun hw c hc => ?_⟩
  · exact (balanced_iff_of_filter (Separator.filter_collapse a)).2
  · by_contra hb
    obtain ⟨hn, hm | rfl⟩ := Separator.mem_collapse hc
    · exact hn (hw c hm (by simpa using hb))
    · exact hb rfl

theorem opening_plain (i : Item) : ∀ c ∈ i.opening, isBrace c = false := by
  cases i with
  | ofKeyBinding b => exact fun c hc => (b.shortcut.shownModifiers_plain c hc).1
  | ofChannel | ofAlias | ofTrigger => exact fun _ hc => nomatch hc

theorem isJoined_pieces {tame : Prop} {i : Item} {ps : List Piece} (hs : Rule.sound.Allows i)
    (ht : tame → Rule.tame.Allows i) (hp : IsJoined tame ps)
    (hh : ∀ q ∈ ps.head?, q.isStart) : IsJoined tame (i.pieces ++ ps) := by
  have end_ : IsJoined tame (.newline :: ps) := ⟨trivial, fun q hq => .inl (hh q hq), hp⟩
  have other : IsJoined tame (i.otherPieces ++ ps) ∧ EndsWord (i.otherPieces ++ ps) := by
    obtain ⟨hf, he⟩ := isJoined_flatMap (f := flagPieces)
      (fun f hf ps => isJoined_flagPieces (i.writtenFlag_of_mem f hf)) (fun _ => rfl) end_
      (by simp [EndsWord])
    have texts : ∀ t ∈ i.actions.map Separator.collapse, ∀ ps, IsJoined tame ps → EndsWord ps →
        IsJoined tame (textPieces t ++ ps) := by
      intro t hm ps
      obtain ⟨a, ha, rfl⟩ := List.mem_map.1 hm
      obtain ⟨hn, hw⟩ := isSound_collapse (isSound_actions hs a ha)
      exact isJoined_textPieces hn hw
    simpa [otherPieces] using isJoined_flatMap texts (fun _ => rfl) hf he
  rw [pieces, List.append_assoc, subjectPieces]
  split
  · rename_i hb
    exact ⟨⟨i.isName_function, hb⟩, other.2, other.1⟩
  · rename_i hb
    obtain ⟨hj, hl⟩ := isJoined_loosePieces (isBlank_remainder hs ht hb) other.1 other.2
    exact ⟨⟨i.isName_function, i.opening_plain⟩, hl, hj⟩

theorem isJoined_flatMap_pieces {tame : Prop} {is : List Item} (hs : ∀ i ∈ is, Rule.sound.Allows i)
    (ht : tame → ∀ i ∈ is, Rule.tame.Allows i) : IsJoined tame (is.flatMap pieces) ∧
      ∀ q ∈ (is.flatMap pieces).head?, q.isStart := by
  induction is with
  | nil => exact ⟨trivial, fun _ hq => nomatch hq⟩
  | cons i is ih =>
    obtain ⟨hi, his⟩ := List.forall_mem_cons.1 hs
    obtain ⟨hj, hh⟩ := ih his fun h => (List.forall_mem_cons.1 (ht h)).2
    rw [List.flatMap_cons]
    refine ⟨isJoined_pieces hi (fun h => (List.forall_mem_cons.1 (ht h)).1) hj hh, fun q hq => ?_⟩
    rw [pieces, List.append_assoc, subjectPieces] at hq
    split at hq <;> cases hq <;> rfl

theorem isStart_otherPieces (i : Item) : ∀ q ∈ i.otherPieces, q.isStart = false := by
  intro q hq
  unfold otherPieces at hq
  simp only [List.mem_append, List.mem_flatMap, List.mem_singleton] at hq
  rcases hq with ⟨t, -, hq⟩ | ⟨f, -, hq⟩ | rfl
  · exact isStart_textPieces t q hq
  · exact isStart_flagPieces f q hq
  · rfl

theorem exists_pieces_eq (i : Item) : ∃ p more, i.pieces = p :: more ∧ p.isStart ∧
    ∀ q ∈ more, q.isStart = false := by
  unfold pieces subjectPieces
  split
  · exact ⟨_, _, rfl, rfl, i.isStart_otherPieces⟩
  · refine ⟨_, _, rfl, rfl, fun q hq => ?_⟩
    rcases List.mem_append.1 hq with hq | hq
    · exact isStart_loosePieces _ q hq
    · exact i.isStart_otherPieces q hq

/-- What is left of lines and starts one is the lines from some on. -/
theorem exists_suffix {is : List Item} {more qs : List Piece}
    (hm : ∀ q ∈ more, q.isStart = false) (h : qs <:+ more ++ is.flatMap pieces)
    (hq : ∀ q ∈ qs.head?, q.isStart) : ∃ js, js <:+ is ∧ qs = js.flatMap pieces := by
  have behind {more rest : List Piece} (hm : ∀ q ∈ more, q.isStart = false)
      (h : qs <:+ more ++ rest) : qs <:+ rest := by
    rcases List.suffix_or_suffix_of_suffix h (List.suffix_append more rest) with hs | ⟨xs, rfl⟩
    · exact hs
    · obtain ⟨ys, he⟩ := h
      rw [← List.append_assoc] at he
      have hxs : ys ++ xs = more := List.append_cancel_right he
      cases xs with
      | nil => exact List.suffix_refl _
      | cons x xs =>
        have hx := hm x (hxs ▸ by simp)
        rw [hq x rfl] at hx
        cases hx
  have hrest := behind hm h
  clear h hm
  induction is with
  | nil => exact ⟨[], List.suffix_refl _, List.suffix_nil.1 hrest⟩
  | cons i is ih =>
    obtain ⟨p, line, hp, -, hl⟩ := i.exists_pieces_eq
    rw [List.flatMap_cons, hp, List.cons_append] at hrest
    rcases List.suffix_cons_iff.1 hrest with he | hs
    · exact ⟨i :: is, List.suffix_refl _, by rw [List.flatMap_cons, hp, he]; rfl⟩
    · obtain ⟨js, hj, he⟩ := ih (behind hl hs)
      exact ⟨js, hj.trans (List.suffix_cons i is), he⟩

end Item

namespace Rule

/-- Whatever may be saved, loading it declares tame texts only. -/
theorem allowsProgram_spell [Chance] {tame : Prop} {ps : List Piece} {vars : Option Locals} {p : Program}
    (hp : IsJoined tame ps) (h : (compile .builtins vars (spell ps)).Gives p) :
    Rule.tame.AllowsProgram p := by
  refine allowsProgram_of_compile (fun ss hss => ?_) h
  refine forall_statements (q := fun t => ∃ ps, IsJoined tame ps ∧ t = spell ps) ?_ ?_
    ⟨ps, hp, rfl⟩ hss
  · rintro t ⟨ps, hp, rfl⟩
    obtain ⟨qs, hs, hd⟩ := dropWhile_blank_spell hp
    exact ⟨qs, hp.of_suffix hs, hd⟩
  · rintro t s rest ⟨ps, hp, rfl⟩ hs
    have inner (hi : IsInner ps) : (s.Declares → Rule.tame.AllowsTexts
        (s.arguments.map Argument.literal)) ∧ ∃ qs, IsJoined tame qs ∧ rest = spell qs := by
      obtain ⟨hd, qs, hq, hr⟩ := statement_inner hp hi hs
      refine ⟨fun h => ?_, qs, hp.of_suffix hq, hr⟩
      rw [hd h]
      exact ⟨fun u hu => by simp at hu, fun u hu => by simp at hu⟩
    cases ps with
    | nil => exact inner (fun _ hq => nomatch hq)
    | cons p ps =>
      cases hstart : p.isStart with
      | false =>
        refine inner fun q hq => ?_
        cases hq
        exact hstart
      | true =>
        obtain ⟨read, hw, qs, hq, hr, -⟩ := statement_start hp hstart hs
        exact ⟨fun _ => allowsTexts_tame read hw, qs, hp.2.2.of_suffix hq, hr⟩

end Rule

namespace Script

theorem statements_line (i : Item) (r : Text) : statements (i.line ++ r) =
    match statement (i.line ++ r) with
    | .error left => .error left
    | .ok (s, rest) => (statements rest).map (s :: ·) := by
  rw [i.line_eq, List.cons_append, List.cons_append, List.cons_append]
  exact statements_cons rfl

/-- The first statement of tame lines is the first of the lines, and the statements behind it are
those of the lines from some on. -/
theorem exists_statement_of_statements {i : Item} {is : List Item} {ss : List Statement}
    (hs : ∀ j ∈ i :: is, Rule.sound.Allows j) (ht : ∀ j ∈ i :: is, Rule.tame.Allows j)
    (h : statements (spell ((i :: is).flatMap Item.pieces)) = .ok ss) :
    ∃ s rest more js, ss = s :: more ∧
      statement (i.line ++ '\n' :: spell (is.flatMap Item.pieces)) = .ok (s, rest) ∧
      js <:+ is ∧ statements (spell (js.flatMap Item.pieces)) = .ok more := by
  rw [Item.spell_flatMap_pieces_cons, statements_line] at h
  split at h
  · cases h
  · rename_i s rest hst
    obtain ⟨more, hmore, rfl⟩ := map_eq_ok.1 h
    refine ⟨s, rest, more, ?_⟩
    have hj : IsJoined True ((i :: is).flatMap Item.pieces) :=
      (Item.isJoined_flatMap_pieces hs fun _ => ht).1
    have first := hst
    obtain ⟨p, line, hp, hstart, hline⟩ := i.exists_pieces_eq
    rw [← Item.spell_flatMap_pieces_cons, List.flatMap_cons, hp, List.cons_append] at first
    rw [List.flatMap_cons, hp, List.cons_append] at hj
    obtain ⟨-, -, qs, hq, rfl, hnl⟩ := statement_start hj hstart first
    cases qs with
    | nil => exact ⟨[], rfl, hst, List.nil_suffix, hmore⟩
    | cons q qs =>
      -- Behind its newline the next statement starts a line.
      obtain rfl := hnl q rfl
      have start : ∀ q ∈ qs.head?, q.isStart := fun q hh =>
        ((hj.2.2.of_suffix hq).2.1 q hh).resolve_right fun h => h.1 trivial
      obtain ⟨js, hjs, rfl⟩ := Item.exists_suffix hline (suffix_of_cons hq) start
      rw [spell_cons, Piece.text, List.singleton_append, statements_cons_blank rfl] at hmore
      exact ⟨js, rfl, hst, hjs, hmore⟩

/-- A statement of tame items takes whole lines, so there are no more of them than items; if there
are as many, then each is the line of its item. -/
theorem forall₂_of_statements {is : List Item} {ss : List Statement}
    (hs : ∀ i ∈ is, Rule.sound.Allows i) (ht : ∀ i ∈ is, Rule.tame.Allows i)
    (h : statements (spell (is.flatMap Item.pieces)) = .ok ss) :
    (∀ s ∈ ss, s.Declares) ∧ ss.length ≤ is.length ∧
      (ss.length = is.length → List.Forall₂ (fun i s => ∃ r rest, StartsBlank r ∧
        statement (i.line ++ r) = .ok (s, rest)) is ss) := by
  induction hn : is.length using Nat.strong_induction_on generalizing is ss with
  | _ n ih =>
    subst hn
    cases is with
    | nil =>
      rw [List.flatMap_nil, spell_nil, statements_nil rfl] at h
      cases h
      exact ⟨by simp, Nat.le_refl _, fun _ => .nil⟩
    | cons i is =>
      obtain ⟨s, rest, more, js, rfl, hst, hjs, hmore⟩ := exists_statement_of_statements hs ht h
      have later : ∀ j ∈ js, j ∈ i :: is := fun j hj => List.mem_cons_of_mem i (hjs.subset hj)
      have hle := hjs.length_le
      obtain ⟨hdec, hl, hall⟩ := ih js.length (Nat.lt_succ_of_le hle)
        (fun j hj => hs j (later j hj)) (fun j hj => ht j (later j hj)) hmore rfl
      have end_ : StartsBlank ('\n' :: spell (is.flatMap Item.pieces)) := startsBlank_cons rfl _
      have name := i.function_of_statement end_ hst
      refine ⟨List.forall_mem_cons.2 ⟨?_, hdec⟩, by simp only [List.length_cons]; omega,
        fun he => ?_⟩
      · exact ⟨i.function, by rw [name, i.find?_function], i.substitutes_function⟩
      · simp only [List.length_cons] at he
        obtain rfl := hjs.eq_of_length (by omega)
        exact .cons ⟨_, _, end_, hst⟩ (hall (by omega))

theorem statements_of_balanced {is : List Item} (h : ∀ i ∈ is, ∀ t ∈ i.written, Balanced t) :
    statements (spell (is.flatMap Item.pieces)) = .ok (is.map fun i =>
      ⟨i.function.name.toList, i.written.map argumentOfWritten, i.flags⟩) := by
  induction is with
  | nil => exact statements_nil rfl
  | cons i is ih =>
    obtain ⟨hi, his⟩ := List.forall_mem_cons.1 h
    rw [Item.spell_flatMap_pieces_cons, statements_line, i.statement_line_of_balanced hi]
    dsimp only
    rw [statements_cons_blank rfl, ih his]
    rfl

end Script
end MudClient
