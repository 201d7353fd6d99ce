import Mathlib.Data.List.Forall2
import MudClient.Json.Reader
import MudClient.Proofs.Script.Written
/-! Written JSON is read back: every text between quotes, numerals of natural numbers, and objects
with a member on each line. -/
namespace MudClient.Json

namespace Reader

variable {rest : Text} {c : Char} {n : Nat}

/-! ### Strings -/

/-- How a character is read that was escaped. -/
def pieceOf (c : Char) : Piece :=
  if c.toNat < 0x20 ∧ controlEscapes.lookup c = none then .unit c.toNat else .char c

theorem hexValue?_hexDigit : ∀ n < 16, hexValue? (hexDigit n) = some n := by decide

theorem escaped?_letter : ∀ p ∈ controlEscapes, p.2 ≠ 'u' ∧ escaped? p.2 = some p.1 := by decide

theorem pieces_escaped {letter : Char} (hu : letter ≠ 'u') (h : escaped? letter = some c)
    (r : Text) : pieces ('\\' :: letter :: r) =
      (pieces r).map fun (ps, rest) => (.char c :: ps, rest) := by
  rw [pieces, h]
  · cases pieces r <;> rfl
  · simp_all

theorem pieces_number (h : c.toNat < 0x20) (r : Text) :
    pieces ('\\' :: 'u' :: '0' :: '0' :: hexDigit (c.toNat / 16) :: hexDigit (c.toNat % 16) :: r) =
      (pieces r).map fun (ps, rest) => (.unit c.toNat :: ps, rest) := by
  have high := hexValue?_hexDigit (c.toNat / 16) (by omega)
  have low := hexValue?_hexDigit (c.toNat % 16) (by omega)
  have zero : hexValue? '0' = some 0 := rfl
  have number : 0 * 4096 + 0 * 256 + c.toNat / 16 * 16 + c.toNat % 16 = c.toNat := by omega
  rw [pieces, high, low, zero]
  simp only [Option.bind_eq_bind, Option.bind_some, number]
  cases pieces r <;> rfl

theorem pieces_plain (h : ¬c.toNat < 0x20) (hq : c ≠ '"') (hb : c ≠ '\\') (r : Text) :
    pieces (c :: r) = (pieces r).map fun (ps, rest) => (.char c :: ps, rest) := by
  rw [pieces, if_neg h]
  · cases pieces r <;> rfl
  all_goals simp_all

theorem pieces_escape (c : Char) (r : Text) : pieces (escape c ++ r) =
    (pieces r).map fun (ps, rest) => (pieceOf c :: ps, rest) := by
  unfold escape
  by_cases quoted : c = '"' ∨ c = '\\'
  · have same : pieceOf c = .char c := by rcases quoted with rfl | rfl <;> rfl
    rw [if_pos quoted, same]
    exact pieces_escaped (by rcases quoted with rfl | rfl <;> decide)
      (by rcases quoted with rfl | rfl <;> rfl) r
  · rw [if_neg quoted]
    obtain ⟨hq, hb⟩ := not_or.1 quoted
    cases hl : controlEscapes.lookup c with
    | some letter =>
      obtain ⟨before, after, split, -⟩ := List.lookup_eq_some_iff.1 hl
      have listed : (c, letter) ∈ controlEscapes := by simp [split]
      obtain ⟨hu, escaped⟩ := escaped?_letter _ listed
      have piece : pieceOf c = .char c := if_neg fun h => by simp [hl] at h
      rw [piece]
      exact pieces_escaped hu escaped r
    | none =>
      by_cases hc : c.toNat < 0x20
      · have piece : pieceOf c = .unit c.toNat := if_pos ⟨hc, hl⟩
        dsimp only
        rw [if_pos hc, piece]
        exact pieces_number hc r
      · have piece : pieceOf c = .char c := if_neg fun h => hc h.1
        dsimp only
        rw [if_neg hc, piece]
        exact pieces_plain hc hq hb r

theorem textOfPieces?_unit (hh : isHigh n = false) (hl : isLow n = false) (ps : List Piece) :
    textOfPieces? (.unit n :: ps) = (textOfPieces? ps).map (Char.ofNat n :: ·) := by
  cases ps with
  | nil => simp [textOfPieces?, hh, hl]
  | cons p ps => cases p <;> simp [textOfPieces?, hh, hl]

theorem textOfPieces?_pieceOf (t : Text) : textOfPieces? (t.map pieceOf) = some t := by
  induction t with
  | nil => rfl
  | cons c t ih =>
    rw [List.map_cons, pieceOf]
    split
    · have unpaired : isHigh c.toNat = false ∧ isLow c.toNat = false := by
        simp [isHigh, isLow]
        omega
      rw [textOfPieces?_unit unpaired.1 unpaired.2, ih, Option.map_some, Char.ofNat_toNat]
    · rw [textOfPieces?, ih]
      rfl

theorem string_quote (t rest : Text) :
    string (t.flatMap escape ++ '"' :: rest) = some (some t, rest) := by
  have read : pieces (t.flatMap escape ++ '"' :: rest) = some (t.map pieceOf, rest) := by
    induction t with
    | nil => rfl
    | cons c t ih => rw [List.flatMap_cons, List.append_assoc, pieces_escape, ih]; rfl
  rw [string, read]
  exact congrArg (fun s => some (s, rest)) (textOfPieces?_pieceOf t)

/-! ### Numerals -/

/-- A value is followed by a comma or by the end of its line. -/
def EndsValue (rest : Text) : Prop := rest.head? = some ',' ∨ rest.head? = some '\n'

/-- A zero in front is the only digit. -/
theorem zero_alone (n : Nat) : ∃ d ds, Text.ofNat n = d :: ds ∧ (d = '0' → ds = []) := by
  induction n using Nat.strongRecOn with
  | _ n ih =>
    unfold Text.ofNat at ih ⊢
    rw [Nat.toDigits_eq_if (by decide)]
    split
    · exact ⟨_, _, rfl, fun _ => rfl⟩
    · obtain ⟨d, ds, hd, zero⟩ := ih (n / 10) (by omega)
      refine ⟨d, ds ++ [(n % 10).digitChar], by rw [hd]; rfl, ?_⟩
      rintro rfl
      have value : Nat.ofDigitChars 10 (Nat.toDigits 10 (n / 10)) 0 = n / 10 :=
        Nat.ofDigitChars_toDigits (by decide) (by decide)
      rw [hd, zero rfl] at value
      have : n / 10 = 0 := value.symm
      omega

theorem isDigit_ofNat {n : Nat} : ∀ c ∈ Text.ofNat n, c.isDigit :=
  fun _ => Nat.isDigit_of_mem_toDigits (by decide) (by decide)

theorem ofNat_cons (n : Nat) :
    ∃ d ds, Text.ofNat n = d :: ds ∧ d.isDigit ∧ (d = '0' → ds = []) := by
  obtain ⟨d, ds, hd, zero⟩ := zero_alone n
  have own : d ∈ Text.ofNat n := by simp [hd]
  exact ⟨d, ds, hd, isDigit_ofNat d own, zero⟩

theorem EndsValue.exists_cons (h : EndsValue rest) :
    ∃ c r, rest = c :: r ∧ (c = ',' ∨ c = '\n') := by
  cases rest with
  | nil => rcases h with h | h <;> cases h
  | cons c r => exact ⟨c, r, rfl, h.imp Option.some.inj Option.some.inj⟩

theorem whole?_ofNat (n : Nat) (h : EndsValue rest) :
    whole? (Text.ofNat n ++ rest) = some (Text.ofNat n, rest) := by
  have digits : digits? (Text.ofNat n ++ rest) = some (Text.ofNat n, rest) := by
    have stop : rest.takeWhile Char.isDigit = [] ∧ rest.dropWhile Char.isDigit = rest := by
      obtain ⟨c, r, rfl, rfl | rfl⟩ := h.exists_cons <;> exact ⟨rfl, rfl⟩
    unfold digits?
    rw [List.takeWhile_append_of_pos isDigit_ofNat, List.dropWhile_append_of_pos isDigit_ofNat,
      stop.1, stop.2, List.append_nil]
    obtain ⟨d, ds, hd, -, -⟩ := ofNat_cons n
    rw [hd]
  obtain ⟨d, ds, hd, -, zero⟩ := ofNat_cons n
  rw [hd] at digits ⊢
  by_cases h0 : d = '0'
  · subst h0
    rw [zero rfl]
    rfl
  · rw [← digits]
    unfold whole?
    split
    · cases ‹_ = _›
      exact absurd rfl h0
    · rfl

theorem numeral?_ofNat (n : Nat) (h : EndsValue rest) :
    numeral? (Text.ofNat n ++ rest) = some (Text.ofNat n, rest) := by
  have unsigned : sign (Text.ofNat n ++ rest) = ([], Text.ofNat n ++ rest) := by
    obtain ⟨d, ds, hd, digit, -⟩ := ofNat_cons n
    rw [hd]
    unfold sign
    split
    · cases ‹_ = _›
      cases digit
    · rfl
  have tail : fraction? rest = some ([], rest) ∧ exponent? rest = some ([], rest) := by
    obtain ⟨c, r, rfl, rfl | rfl⟩ := h.exists_cons <;> exact ⟨rfl, rfl⟩
  simp [numeral?, unsigned, whole?_ofNat n h, tail]

/-! ### Values -/

/-- A value that is read wherever it is written after a blank. -/
def IsWritten (written : Text) (j : Json) : Prop :=
  ∀ fuel rest, EndsValue rest → value (fuel + 1) (' ' :: (written ++ rest)) = some (j, rest)

theorem isWritten_quote (t : Text) : IsWritten (quote t) (.string (some t)) := by
  intro fuel rest _
  have read := string_quote t rest
  have text : quote t ++ rest = '"' :: (t.flatMap escape ++ '"' :: rest) := by simp [quote]
  rw [text, value]
  show (string (t.flatMap escape ++ '"' :: rest)).map _ = _
  rw [read]
  rfl

theorem isWritten_bool (b : Bool) : IsWritten (toString b).toList (.bool b) := by
  intro fuel rest _
  cases b <;> rfl

theorem isWritten_ofNat (n : Nat) : IsWritten (Text.ofNat n) (.number (Text.ofNat n)) := by
  intro fuel rest h
  have read := numeral?_ofNat n h
  obtain ⟨d, ds, hd, digit, -⟩ := ofNat_cons n
  have visible : isSpace d = false := by
    refine Bool.eq_false_iff.2 fun hs => ?_
    simp only [isSpace, Bool.or_eq_true, beq_iff_eq] at hs
    rcases hs with ((rfl | rfl) | rfl) | rfl <;> cases digit
  have spaces : skip (' ' :: (Text.ofNat n ++ rest)) = Text.ofNat n ++ rest := by
    rw [hd]
    show skip (d :: (ds ++ rest)) = d :: (ds ++ rest)
    exact List.dropWhile_cons_of_neg (by simp [visible])
  have digitFirst {c : Char} {r : Text} (h : Text.ofNat n ++ rest = c :: r) : c.isDigit := by
    rw [hd] at h
    cases h
    exact digit
  rw [value, spaces]
  split
  iterate 6 exact absurd (digitFirst ‹_›) (by decide)
  rw [read]
  rfl

/-! ### Objects -/

def line (m : Text × Text) : Text := "  ".toList ++ quote m.1 ++ ": ".toList ++ m.2

/-- A member that is written and what it is read as. -/
def IsMember (m : Text × Text) (r : Option Text × Json) : Prop :=
  r.1 = some m.1 ∧ IsWritten m.2 r.2

theorem skip_skip (t : Text) : skip (skip t) = skip t := by
  induction t with
  | nil => rfl
  | cons c t ih =>
    unfold skip at ih ⊢
    rw [List.dropWhile_cons]
    split
    · exact ih
    · rename_i h
      exact List.dropWhile_cons_of_neg h

theorem members_skip (fuel : Nat) (t : Text) : members fuel (skip t) = members fuel t := by
  cases fuel with
  | zero => rfl
  | succ fuel => rw [members, members, skip_skip]

variable {m : Text × Text} {ms : List (Text × Text)} {r : Option Text × Json}
variable {rs : List (Option Text × Json)}

/-- After a member comes a comma or the closing brace. -/
theorem members_member (hm : IsMember m r) (fuel : Nat) (he : EndsValue rest) :
    (∀ t, skip rest = ',' :: t → members (fuel + 2) (line m ++ rest) =
      (members (fuel + 1) t).map fun (ms, rest) => (r :: ms, rest)) ∧
    ∀ t, skip rest = '\x7d' :: t → members (fuel + 2) (line m ++ rest) = some ([r], t) := by
  obtain ⟨name, j⟩ := r
  obtain ⟨rfl, written⟩ := hm
  have text : line m ++ rest = ' ' :: ' ' :: '"' ::
      (m.1.flatMap escape ++ '"' :: ':' :: ' ' :: (m.2 ++ rest)) := by
    simp [line, quote]
  have named := string_quote m.1 (':' :: ' ' :: (m.2 ++ rest))
  have valued : value (fuel + 1) (' ' :: (m.2 ++ rest)) = some (j, rest) := written fuel rest he
  rw [text, members]
  constructor
  all_goals
    intro t ht
    show (string (m.1.flatMap escape ++ '"' :: ':' :: ' ' :: (m.2 ++ rest))).bind _ = _
    rw [named, Option.bind_some]
    show (value (fuel + 1) (' ' :: (m.2 ++ rest))).bind _ = _
    rw [valued, Option.bind_some]
    dsimp only
    rw [ht]
    rfl

/-- The members from one on, each on its line. -/
theorem members_lines (hm : IsMember m r) (hms : List.Forall₂ IsMember ms rs) (fuel : Nat) :
    members (fuel + ms.length + 2)
      (line m ++ ((ms.flatMap fun m => ",\n".toList ++ line m) ++ "\n\x7d".toList)) =
        some (r :: rs, []) := by
  induction hms generalizing m r with
  | nil => exact (members_member hm fuel (.inr rfl)).2 [] rfl
  | @cons m' r' ms rs hm' hms ih =>
    have more := ih hm'
    have text : (m' :: ms).flatMap (fun m => ",\n".toList ++ line m) ++ "\n\x7d".toList =
        ',' :: '\n' :: (line m' ++
          ((ms.flatMap fun m => ",\n".toList ++ line m) ++ "\n\x7d".toList)) := by
      simp
    rw [text]
    generalize line m' ++ _ = tail at more
    have next : members (fuel + ms.length + 2) ('\n' :: tail) = some (r' :: rs, []) := by
      rw [← members_skip]
      exact (members_skip _ _).trans more
    have comma : EndsValue (',' :: '\n' :: tail) := .inl rfl
    have first := (members_member hm (fuel + (ms.length + 1)) comma).1 ('\n' :: tail) rfl
    exact first.trans (by rw [← Nat.add_assoc, next]; rfl)

theorem length_le_flatMap (ms : List (Text × Text)) :
    ms.length ≤ (ms.flatMap fun m => ",\n".toList ++ line m).length := by
  induction ms with
  | nil => exact Nat.zero_le _
  | cons m ms ih =>
    simp only [List.length_cons, List.flatMap_cons, List.length_append, String.length_toList]
    have : 0 < ",\n".length := by decide
    omega

theorem value_object {t r : Text} (h : skip t = '"' :: r) (fuel : Nat) :
    value (fuel + 1) ('\x7b' :: t) =
      (members fuel (skip t)).map fun m => (.object m.1, m.2) := by
  have opens : skip ('\x7b' :: t) = '\x7b' :: t := rfl
  rw [value, opens]
  simp only [h]
  rfl

end Reader

open Reader

/-- An object is read back that was written with a member on each line. -/
theorem read?_prettyObject {ms : List (Text × Text)} {rs : List (Option Text × Json)}
    (h : List.Forall₂ IsMember ms rs) (hm : ms ≠ []) :
    read? (prettyObject ms) = some (.object rs) := by
  cases h with
  | nil => exact absurd rfl hm
  | @cons m r ms rs own others =>
    generalize tail : line m ++ ((ms.flatMap fun m => ",\n".toList ++ line m) ++
      "\n\x7d".toList) = lines
    have text : prettyObject (m :: ms) = '\x7b' :: '\n' :: lines := by
      show "\x7b\n".toList ++ Text.join ",\n".toList ((m :: ms).map line) ++ "\n\x7d".toList = _
      rw [List.map_cons, Script.join_cons, List.flatMap_map, ← tail]
      simp
    obtain ⟨fuel, hf⟩ : ∃ fuel, 2 * (prettyObject (m :: ms)).length = fuel + ms.length + 2 := by
      have := length_le_flatMap ms
      refine ⟨2 * (prettyObject (m :: ms)).length - ms.length - 2, ?_⟩
      rw [text, ← tail]
      simp only [List.length_cons, List.length_append]
      omega
    have inner : members (fuel + ms.length + 2) (skip ('\n' :: lines)) = some (r :: rs, []) := by
      rw [← tail]
      exact (members_skip _ _).trans (members_lines own others fuel)
    have outer : value (2 * (prettyObject (m :: ms)).length + 1) (prettyObject (m :: ms)) =
        some (.object (r :: rs), []) := by
      obtain ⟨r, hr⟩ : ∃ r, skip ('\n' :: lines) = '"' :: r := by
        rw [← tail]
        exact ⟨_, rfl⟩
      rw [hf, text]
      exact (value_object hr _).trans (congrArg (Option.map fun m => (Json.object m.1, m.2)) inner)
    rw [read?, outer]
    rfl

end MudClient.Json
