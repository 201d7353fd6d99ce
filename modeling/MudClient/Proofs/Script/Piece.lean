import Mathlib.Data.List.DropRight
import MudClient.Proofs.Script.Origin
/-! A configuration in pieces. Where braces have no partner, reading may stop and start in the middle
of a line, but never in the middle of a piece: what is balanced is one piece, and only the characters
of other texts stand for themselves. -/
namespace MudClient.Script

inductive Piece where
  /-- A function at the start of a line, with a balanced text. -/
  | head (name subject : Text)
  /-- A function at the start of a line, with an open brace and some text behind it. -/
  | lead (name start : Text)
  | space
  | newline
  /-- A balanced text between braces, or a word. -/
  | closed (text : Text)
  /-- A character between an open brace and the last one of its argument, that one included. -/
  | loose (c : Char)

namespace Piece

def text : Piece → Text
  | head name subject => '#' :: name ++ ' ' :: (Argument.braced subject).format
  | lead name start => '#' :: name ++ ' ' :: '{' :: start
  | space => [' ']
  | newline => ['\n']
  | closed text => text
  | loose c => [c]

/-- A function that a line may start with. -/
structure IsName (name : Text) : Prop where
  plain : ∀ c ∈ name, Text.isBlank c = false ∧ isBrace c = false
  ne_nil : name ≠ []
  head : name.head? ≠ some '#'

/-- A block without newlines or a word that starts no call. -/
inductive IsClosed : Text → Prop
  | block {inner : Text} (balanced : Balanced inner) (line : '\n' ∉ inner) :
      IsClosed ('{' :: inner ++ ['}'])
  | word {c : Char} {r : Text} (plain : ∀ d ∈ c :: r, Text.isBlank d = false ∧ isBrace d = false)
      (head : c ≠ '#') : IsClosed (c :: r)

def IsValid : Piece → Prop
  | head name subject => IsName name ∧ Balanced subject
  | lead name start => IsName name ∧ ∀ c ∈ start, isBrace c = false
  | space | newline => True
  | closed text => IsClosed text
  | loose c => Text.isBlank c = false

def isStart : Piece → Bool
  | head .. | lead .. => true
  | _ => false

/-- Which piece may follow another one. Only in texts that are not `tame` does a line go on behind a
newline. -/
def Precedes (tame : Prop) : Piece → Piece → Prop
  | newline, q => q.isStart ∨ ¬ tame ∧ (q = newline ∨ ∃ c, q = loose c)
  | space, q => (∃ t, q = closed t) ∨ q = loose '{'
  | closed _, q | head .., q => q = space ∨ q = newline
  | lead .., q => q = newline ∨ ∃ c, q = loose c
  | loose c, q => q = newline ∨ (∃ d, q = loose d) ∨ c = '}' ∧ q = space

end Piece

open Piece

theorem Piece.IsName.isBrace_call {name : Text} (h : IsName name) :
    ∀ c ∈ '#' :: name ++ [' '], isBrace c = false := by
  intro c hc
  rcases List.mem_append.1 hc with hc | hc
  · rcases List.mem_cons.1 hc with rfl | hc
    · rfl
    · exact (h.plain c hc).2
  · rw [List.mem_singleton.1 hc]
    rfl

/-- Pieces that may stand behind each other like this. -/
def IsJoined (tame : Prop) : List Piece → Prop
  | [] => True
  | p :: ps => p.IsValid ∧ (∀ q ∈ ps.head?, p.Precedes tame q) ∧ IsJoined tame ps

def spell (ps : List Piece) : Text := ps.flatMap Piece.text

/-- Pieces that do not begin with a line. -/
def IsInner (ps : List Piece) : Prop := ∀ p ∈ ps.head?, p.isStart = false

@[simp] theorem spell_nil : spell [] = [] := rfl

@[simp] theorem spell_cons (p : Piece) (ps : List Piece) : spell (p :: ps) = p.text ++ spell ps := rfl

variable {tame : Prop} {p q : Piece} {ps qs : List Piece}

theorem IsJoined.of_suffix (h : IsJoined tame ps) (hs : qs <:+ ps) : IsJoined tame qs := by
  induction ps with
  | nil => rwa [List.suffix_nil.1 hs]
  | cons p ps ih =>
    rcases List.suffix_cons_iff.1 hs with rfl | hs
    · exact h
    · exact ih h.2.2 hs

theorem Piece.Precedes.isInner (h : ∀ q ∈ ps.head?, p.Precedes tame q) (hp : p ≠ .newline) :
    IsInner ps := by
  intro q hq
  have := h q hq
  cases p with
  | newline => exact absurd rfl hp
  | space =>
    rcases this with ⟨t, rfl⟩ | rfl <;> rfl
  | closed | head =>
    rcases this with rfl | rfl <;> rfl
  | lead =>
    rcases this with rfl | ⟨d, rfl⟩ <;> rfl
  | loose =>
    rcases this with rfl | ⟨d, rfl⟩ | ⟨-, rfl⟩ <;> rfl

theorem IsJoined.isInner (h : IsJoined tame (p :: ps)) (hp : p ≠ .newline) : IsInner ps :=
  Piece.Precedes.isInner h.2.1 hp

/-- Behind a closed piece or the function of a line a word has ended. -/
theorem startsBlank_spell (h : ∀ q ∈ ps.head?, q = .space ∨ q = .newline) :
    StartsBlank (spell ps) := by
  cases ps with
  | nil => simp [StartsBlank]
  | cons q ps =>
    intro c hc
    rcases h q rfl with rfl | rfl <;> cases hc <;> rfl

/-- No piece but a brace closes what was opened before it. -/
theorem Piece.exists_level (h : p.IsValid) (hp : p ≠ .loose '}') (d : Nat) :
    ∃ k, level d p.text = some k := by
  have plain (t : Text) (ht : ∀ c ∈ t, isBrace c = false) : level d t = some d :=
    (balanced_of_forall ht).level d
  cases p with
  | space | newline => exact ⟨d, plain _ (by simp [text, isBrace])⟩
  | head name subject =>
    refine ⟨d, Balanced.level ?_ d⟩
    have hn : Balanced ('#' :: name ++ [' ']) := balanced_of_forall h.1.isBrace_call
    have hs : Balanced (Argument.braced subject).format := by
      rw [format_braced]
      split
      · exact h.2.wrap
      · exact h.2
    simpa [text] using hn.append hs
  | lead name start =>
    refine ⟨d + 1, ?_⟩
    have hn : level d ('#' :: name ++ [' ']) = some d := plain _ h.1.isBrace_call
    have split : (lead name start).text = ('#' :: name ++ [' ']) ++ '{' :: start := by simp [text]
    rw [split, level_append, hn, Option.bind_some, level_open]
    exact (balanced_of_forall h.2).level (d + 1)
  | closed t =>
    cases h with
    | block balanced line => exact ⟨d, balanced.wrap.level d⟩
    | word hw hh => exact ⟨d, plain _ fun c hc => (hw c hc).2⟩
  | loose c =>
    by_cases hc : c = '{'
    · subst hc
      exact ⟨d + 1, by simp [text]⟩
    · have hb : isBrace c = false := isBrace_eq_false.2 ⟨hc, fun h => hp (by rw [h])⟩
      exact ⟨d, by simp [text, level_other hb]⟩

theorem closeBrace_spell {d : Nat} {inner rest : Text} (h : IsJoined tame ps)
    (hc : closeBrace d (spell ps) = some (inner, rest)) :
    ∃ qs, .loose '}' :: qs <:+ ps ∧ rest = spell qs := by
  induction ps generalizing d inner with
  | nil => simp [closeBrace] at hc
  | cons p ps ih =>
    have later {k : Nat} (hl : level d p.text = some k) :
        ∃ qs, .loose '}' :: qs <:+ p :: ps ∧ rest = spell qs := by
      rw [spell_cons, closeBrace_append hl] at hc
      obtain ⟨⟨more, left⟩, hm, he⟩ := Option.map_eq_some_iff.1 hc
      cases he
      obtain ⟨qs, hs, hr⟩ := ih h.2.2 hm
      exact ⟨qs, hs.trans (List.suffix_cons p ps), hr⟩
    by_cases hp : p = .loose '}'
    · subst hp
      cases d with
      | zero =>
        cases hc
        exact ⟨ps, List.suffix_refl _, rfl⟩
      | succ d => exact later (k := d) rfl
    · obtain ⟨k, hk⟩ := Piece.exists_level h.1 hp d
      exact later hk

/-- A word that starts at a character ends before a piece. It has a closing brace in it if it does
not end its line. -/
theorem dropWhile_word_spell {c : Char} (h : IsJoined tame (.loose c :: ps)) :
    ∃ qs, qs <:+ ps ∧ IsInner qs ∧ (spell ps).dropWhile isWordChar = spell qs ∧
      ((∀ q ∈ qs.head?, q = .newline) ∨ '}' ∈ c :: (spell ps).takeWhile isWordChar) := by
  induction ps generalizing c with
  | nil => exact ⟨[], List.suffix_refl _, by simp [IsInner], rfl, .inl (by simp)⟩
  | cons p ps ih =>
    rcases h.2.1 p rfl with rfl | ⟨d, rfl⟩ | ⟨rfl, rfl⟩
    · exact ⟨_, List.suffix_refl _, by simp [IsInner, isStart], rfl, .inl (by simp)⟩
    · obtain ⟨qs, hs, hi, hd, hb⟩ := ih h.2.2
      have hw : isWordChar d := by
        have : Text.isBlank d = false := h.2.2.1
        simp [isWordChar, this]
      refine ⟨qs, hs.trans (List.suffix_cons _ _), hi, ?_, hb.imp id fun hm => ?_⟩
      · rw [spell_cons, Piece.text, List.singleton_append, List.dropWhile_cons_of_pos hw, hd]
      · rw [spell_cons, Piece.text, List.singleton_append, List.takeWhile_cons_of_pos hw]
        exact List.mem_cons_of_mem _ hm
    · exact ⟨_, List.suffix_refl _, by simp [IsInner, isStart], rfl, .inr List.mem_cons_self⟩

theorem Piece.exists_cons (h : p.IsValid) (hs : p ≠ .space) (hn : p ≠ .newline) :
    ∃ c r, p.text = c :: r ∧ Text.isBlank c = false := by
  cases p with
  | space => exact absurd rfl hs
  | newline => exact absurd rfl hn
  | head | lead => exact ⟨_, _, rfl, rfl⟩
  | loose c => exact ⟨c, [], rfl, h⟩
  | closed t =>
    cases h with
    | block balanced line => exact ⟨_, _, rfl, rfl⟩
    | word hp hh => exact ⟨_, _, rfl, (hp _ List.mem_cons_self).1⟩

theorem dropWhile_space_spell (h : IsJoined tame ps) (hi : IsInner ps) :
    ∃ qs, qs <:+ ps ∧ IsInner qs ∧ (spell ps).dropWhile isInlineSpace = spell qs ∧
      qs.head? ≠ some .space := by
  induction ps with
  | nil => exact ⟨[], List.suffix_refl _, hi, rfl, by simp⟩
  | cons p ps ih =>
    by_cases hs : p = .space
    · subst hs
      obtain ⟨qs, hq, hi, hd, hne⟩ := ih h.2.2 (h.isInner (by simp))
      exact ⟨qs, hq.trans (List.suffix_cons _ _), hi, by rw [← hd]; rfl, hne⟩
    · refine ⟨p :: ps, List.suffix_refl _, hi, ?_, by simpa using hs⟩
      by_cases hn : p = .newline
      · subst hn
        rfl
      · obtain ⟨c, r, ht, hb⟩ := Piece.exists_cons h.1 hs hn
        rw [spell_cons, ht, List.cons_append]
        exact List.dropWhile_cons_of_neg (by simp [isInlineSpace, hb])

theorem dropWhile_blank_spell (h : IsJoined tame ps) :
    ∃ qs, qs <:+ ps ∧ (spell ps).dropWhile Text.isBlank = spell qs := by
  induction ps with
  | nil => exact ⟨[], List.suffix_refl _, rfl⟩
  | cons p ps ih =>
    obtain ⟨qs, hq, hd⟩ := ih h.2.2
    by_cases hs : p = .space
    · subst hs
      exact ⟨qs, hq.trans (List.suffix_cons _ _), by rw [← hd]; rfl⟩
    · by_cases hn : p = .newline
      · subst hn
        exact ⟨qs, hq.trans (List.suffix_cons _ _), by rw [← hd]; rfl⟩
      · refine ⟨p :: ps, List.suffix_refl _, ?_⟩
        obtain ⟨c, r, ht, hb⟩ := Piece.exists_cons h.1 hs hn
        rw [spell_cons, ht, List.cons_append]
        exact List.dropWhile_cons_of_neg (by simp [hb])

theorem dropWhile_line_spell (h : IsJoined tame ps) (hi : IsInner ps) :
    ∃ qs, qs <:+ ps ∧ (spell ps).dropWhile (· != '\n') = spell qs := by
  induction ps with
  | nil => exact ⟨[], List.suffix_refl _, rfl⟩
  | cons p ps ih =>
    by_cases hn : p = .newline
    · subst hn
      exact ⟨_, List.suffix_refl _, rfl⟩
    · obtain ⟨qs, hq, hd⟩ := ih h.2.2 (h.isInner hn)
      refine ⟨qs, hq.trans (List.suffix_cons _ _), ?_⟩
      have line : ∀ c ∈ p.text, (c != '\n') = true := by
        intro c hc
        rw [bne_iff_ne]
        rintro rfl
        cases p with
        | newline => exact hn rfl
        | space => simp [text] at hc
        | head | lead => exact absurd (hi _ rfl) (by simp [isStart])
        | loose c =>
          rw [text, List.mem_singleton] at hc
          subst hc
          exact absurd h.1 (by simp [IsValid, Text.isBlank])
        | closed t =>
          cases h.1 with
          | block balanced line => simp [text, line] at hc
          | word hp hh => exact absurd (hp _ hc).1 (by decide)
      rw [spell_cons, List.dropWhile_append_of_pos line, hd]

theorem arguments_dropWhile (flags : Flags) (t : Text) :
    arguments flags (t.dropWhile isInlineSpace) = arguments flags t := by
  rw [arguments_eq, List.dropWhile_idempotent, ← arguments_eq]

theorem IsInner.of_loose {c : Char} (h : IsJoined tame ps) (hs : .loose c :: qs <:+ ps) :
    IsInner qs :=
  (h.of_suffix hs).isInner (by simp)

theorem suffix_of_cons {p : Piece} (h : p :: qs <:+ ps) : qs <:+ ps :=
  (List.suffix_cons p qs).trans h

/-- Arguments end before a newline, or go on behind the first of them. -/
theorem arguments_spell_cases {flags flags' : Flags} {args : List Argument} {rest : Text}
    (h : IsJoined tame ps) (hi : IsInner ps) (hs : ps.head? ≠ some .space)
    (ha : arguments flags (spell ps) = .ok (args, flags', rest)) :
    (rest = spell ps ∧ ∀ q ∈ ps.head?, q = .newline) ∨
      ∃ qs flags more, qs <:+ ps ∧ qs.length < ps.length ∧ IsInner qs ∧
        arguments flags (spell qs) = .ok (more, flags', rest) := by
  cases ps with
  | nil =>
    rw [spell_nil, arguments_nil] at ha
    cases ha
    exact .inl ⟨rfl, by simp⟩
  | cons p ps =>
    -- What is left behind the first argument is no longer than the pieces behind `p`.
    have later {qs : List Piece} (hq : qs <:+ ps) (hi : IsInner qs)
        (hl : ∃ flags more, arguments flags (spell qs) = .ok (more, flags', rest)) :
        ∃ qs flags more, qs <:+ p :: ps ∧ qs.length < (p :: ps).length ∧ IsInner qs ∧
          arguments flags (spell qs) = .ok (more, flags', rest) := by
      obtain ⟨flags, more, hl⟩ := hl
      exact ⟨qs, flags, more, hq.trans (List.suffix_cons _ _), Nat.lt_succ_of_le hq.length_le, hi,
        hl⟩
    rw [spell_cons] at ha
    cases p with
    | space => exact absurd rfl hs
    | head | lead => exact absurd (hi _ rfl) (by simp [isStart])
    | newline =>
      rw [Piece.text, List.singleton_append, arguments_newline] at ha
      cases ha
      exact .inl ⟨rfl, by simp⟩
    | closed t =>
      right
      rw [Piece.text] at ha
      refine later List.suffix_rfl (h.isInner (by simp)) ?_
      cases h.1 with
      | @block inner balanced line =>
        have group : '{' :: inner ++ ['}'] ++ spell ps = '{' :: (inner ++ '}' :: spell ps) := by simp
        rw [group] at ha
        obtain ⟨_, _, more, hc, hm, -⟩ := exists_of_arguments_brace ha
        rw [closeBrace_of_balanced balanced] at hc
        cases hc
        exact ⟨flags, more, hm⟩
      | @word c r plain hh =>
        obtain ⟨hc, hr⟩ := List.forall_mem_cons.1 plain
        have hb : c ≠ '{' := (isBrace_eq_false.1 hc.2).1
        obtain ⟨-, hdrop⟩ := takeWhile_word (fun d hd => (hr d hd).1) (startsBlank_spell h.2.1)
        rw [List.cons_append] at ha
        have word := exists_of_arguments_word hc.1 hb ha
        rwa [hdrop] at word
    | loose c =>
      right
      rw [Piece.text, List.singleton_append] at ha
      by_cases hb : c = '{'
      · subst hb
        obtain ⟨inner, left, more, hc, hm, -⟩ := exists_of_arguments_brace ha
        obtain ⟨qs, hq, rfl⟩ := closeBrace_spell h.2.2 hc
        exact later (suffix_of_cons hq) (IsInner.of_loose h.2.2 hq) ⟨flags, more, hm⟩
      · obtain ⟨qs, hq, hi, hdrop, -⟩ := dropWhile_word_spell h
        have word := exists_of_arguments_word h.1 hb ha
        rw [hdrop] at word
        exact later hq hi word

/-- Arguments end with the line that they are read on, wherever that is. -/
theorem arguments_spell {flags flags' : Flags} {args : List Argument} {rest : Text}
    (h : IsJoined tame ps) (hi : IsInner ps)
    (ha : arguments flags (spell ps) = .ok (args, flags', rest)) :
    ∃ qs, qs <:+ ps ∧ rest = spell qs ∧ ∀ q ∈ qs.head?, q = .newline := by
  -- By induction on the number of pieces, since an argument may be read from several of them.
  induction hn : ps.length using Nat.strong_induction_on generalizing ps flags args with
  | _ n ih =>
    subst hn
    obtain ⟨qs, hq, hqi, hdrop, hs⟩ := dropWhile_space_spell h hi
    rw [← arguments_dropWhile, hdrop] at ha
    rcases arguments_spell_cases (h.of_suffix hq) hqi hs ha with ⟨rfl, hh⟩ |
      ⟨rs, flags, more, hr, hl, hri, hm⟩
    · exact ⟨qs, hq, rfl, hh⟩
    · have shorter := Nat.lt_of_lt_of_le hl hq.length_le
      obtain ⟨ts, ht, he, hh⟩ := ih rs.length shorter (h.of_suffix (hr.trans hq)) hri hm rfl
      exact ⟨ts, ht.trans (hr.trans hq), he, hh⟩

end MudClient.Script
