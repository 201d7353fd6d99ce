import MudClient.Proofs.Pattern.Run
import MudClient.Proofs.Text
/-! A pattern that starts with no circumflex. It can always be made, and its captures are what its
pieces cut out of the text, which is also what its translation captures as a regular expression. -/
namespace MudClient.Regex

variable {g start i : Nat} {t before rest : Text} {words pieces : List Text} {slots : Slots}

theorem size_fill : (fill g start pieces words slots).size = slots.size := by
  induction pieces generalizing g start words slots with
  | nil => cases words <;> rfl
  | cons piece pieces ih =>
    cases words with
    | nil => rfl
    | cons w words => simp [fill, ih]

/-- The slots of earlier groups are kept. -/
theorem getElem?_fill (h : i < 2 * g + 2) :
    (fill g start pieces words slots)[i]? = slots[i]? := by
  induction pieces generalizing g start words slots with
  | nil => cases words <;> rfl
  | cons piece pieces ih =>
    cases words with
    | nil => rfl
    | cons w words =>
      rw [fill, ih (by omega)]
      simp [show 2 * (g + 1) ≠ i by omega, show 2 * (g + 1) + 1 ≠ i by omega]

/-- Each group gives the word of its star. -/
theorem slice?_fill (slots : Slots) (cut : Wildcard.IsCut [] pieces words rest)
    (ht : t = before ++ rest) (hs : 2 * (g + pieces.length) + 2 ≤ slots.size) :
    (List.range' (g + 1) pieces.length).map
      (slice? t (fill g before.length pieces words slots)) = words.map some := by
  induction pieces generalizing g words before rest slots with
  | nil =>
    rw [List.length_eq_zero_iff.1 cut.length_eq]
    rfl
  | cons piece pieces ih =>
    obtain ⟨w, words, rfl⟩ := List.exists_cons_of_length_eq_add_one cut.length_eq
    obtain ⟨r, -, rfl, later⟩ := Wildcard.isCut_cons.1 cut
    obtain ⟨u, r, hu, rfl, rest⟩ := Wildcard.isCut_iff.1 later
    rw [List.length_cons] at hs
    have own : slice? t (fill g before.length (piece :: pieces) (w :: words) slots) (g + 1) =
        some w := by
      have word : (t.take (before.length + w.length)).drop before.length = w := by
        rw [ht, ← List.append_assoc, List.take_left' (by simp), List.drop_left' rfl]
      unfold slice?
      rw [fill, getElem?_fill (by omega), getElem?_fill (by omega)]
      simp [show 2 * (g + 1) < slots.size by omega,
        show 2 * (g + 1) + 1 < slots.size by omega, word]
    rw [List.length_cons, List.range'_succ, List.map_cons, List.map_cons, own]
    have place : (before ++ w ++ u).length = before.length + w.length + piece.length := by
      simp [hu.length_eq, Nat.add_assoc]
    have whole : t = (before ++ w ++ u) ++ r := by simp [ht]
    have others := ih (g := g + 1) ((slots.set! (2 * (g + 1)) (some before.length)).set!
      (2 * (g + 1) + 1) (some (before.length + w.length))) rest whole (by simp; omega)
    rw [place] at others
    exact congrArg _ others

theorem getElem?_found_of_lt (first : Text) (h : i < 2) : (found first pieces words t)[i]? =
    some (some (if i = 0 then 0 else t.length)) := by
  obtain rfl | rfl : i = 0 ∨ i = 1 := by omega
  · simp [found, getElem?_fill]
  · simp [found, size_fill]

theorem slice?_found_zero (first : Text) : slice? t (found first pieces words t) 0 = some t := by
  unfold slice?
  rw [getElem?_found_of_lt first (by decide), getElem?_found_of_lt first (by decide)]
  simp

theorem slice?_found {first : Text} (cut : Wildcard.IsCut first pieces words t) :
    (List.range' 1 pieces.length).map (slice? t (found first pieces words t)) =
      words.map some := by
  obtain ⟨u, r, hu, ht, rest⟩ := Wildcard.isCut_iff.1 cut
  have len : first.length = u.length := hu.length_eq
  rw [← slice?_fill (g := 0) ((Array.replicate (2 * pieces.length + 2) none).set! 0 (some 0))
    rest ht (by simp)]
  refine List.map_congr_left fun i hi => ?_
  have := (List.mem_range'_1.1 hi).1
  have other (j : Nat) (hj : 1 < j) (slots : Slots) (x : Option Nat) :
      (slots.set! 1 x)[j]? = slots[j]? := by
    simp [Nat.ne_of_lt hj]
  rw [slice?, found, len, other (2 * i) (by omega), other (2 * i + 1) (by omega)]
  rfl

end MudClient.Regex

namespace MudClient

open Regex

/-- The translation of a wildcard pattern captures what the pattern does. -/
theorem Matcher.captures?_wildcard (first : Text) (pieces : List Text) (t : Text) :
    (regex (Program.ofRegex (Regex.wildcard first pieces))).captures? t =
      (wildcard first pieces).captures? t := by
  have names := names_wildcard first pieces
  have searched := search?_wildcard first pieces t
  generalize Program.ofRegex (Regex.wildcard first pieces) = program at names searched ⊢
  unfold captures?
  dsimp only
  rw [searched, names]
  cases hm : Wildcard.match? first pieces t with
  | none => rfl
  | some words =>
    have groups := slice?_found (Wildcard.match?_eq_some.1 hm).1
    rw [List.range'_eq_map_range, List.map_map] at groups
    have positional : (List.range pieces.length).map
        (fun i => (slice? t (found first pieces words t) (i + 1)).getD []) = words := by
      have := congrArg (List.map (Option.getD · [])) groups
      simpa [Function.comp_def, Nat.add_comm] using this
    have unnamed (group : Nat → Option Text) :
        ((List.replicate pieces.length (none : Option Text)).zipIdx 1).filterMap
          (fun p => do return (← p.1, ← group p.2)) = [] := by
      rw [List.filterMap_eq_nil_iff]
      rintro ⟨name, i⟩ h
      have := (List.mem_replicate.1 (List.fst_mem_of_mem_zipIdx h)).2
      simp_all
    show some (Captures.mk _ _ _ _) = some (Captures.mk words [] 0 t)
    rw [slice?_found_zero, getElem?_found_of_lt first (by decide), List.length_replicate,
      positional, unnamed]
    rfl

namespace Pattern

/-- The pattern is `s₀*s₁*…*sₖ`, and its captures are the shortest words between the pieces. -/
structure IsLiteral (p : Pattern) (first : Text) (pieces : List Text) : Prop where
  source : p.source = Text.join ['*'] (first :: pieces)
  plain : ∀ s ∈ first :: pieces, '*' ∉ s
  wildcards : p.wildcards = pieces.length
  isSome : ∀ t, (p.captures? t).isSome ↔ ∃ words, Wildcard.IsCut first pieces words t
  captures : ∀ t c, p.captures? t = some c ↔ ∃ words, Wildcard.IsCut first pieces words t ∧
    (∀ others, Wildcard.IsCut first pieces others t → Wildcard.IsAsShort words others) ∧
      words.length = p.wildcards ∧ c = ⟨words, [], 0, t⟩

/-- The expression is read without an error and, whatever it weighs, captures what the pattern does.
-/
def IsReadAs (p : Pattern) (expression : Text) : Prop :=
  ∃ r m, (Node.ofText? expression).bind (ofNode? .initial) = some (r, m) ∧
    (Matcher.regex (Program.ofRegex r)).wildcards = p.wildcards ∧
      ∀ t, (Matcher.regex (Program.ofRegex r)).captures? t = p.captures? t

/-- A pattern without a circumflex in front is text with stars, whatever characters it has. -/
theorem ofSource_literal {source : Text} (h : source.head? ≠ some '^') :
    ∃ p first pieces, ofSource source = .ok p ∧ p.source = source ∧ p.IsLiteral first pieces ∧
      p.wildcards = source.count '*' ∧ p.IsReadAs (translate source) := by
  obtain ⟨first, pieces, hs⟩ : ∃ first pieces, Text.splitAtChar '*' source = first :: pieces := by
    have := Text.length_splitAtChar '*' source
    exact List.exists_cons_of_length_eq_add_one this
  have matched : Matcher.ofSource? source = some (.wildcard first pieces) := by
    unfold Matcher.ofSource?
    split
    · exact absurd rfl h
    · rw [hs]
  have made : ofSource source = .ok ⟨source, .wildcard first pieces, matched⟩ := by
    unfold ofSource
    split
    · rename_i m hm
      cases matched.symm.trans hm
      rfl
    · rename_i hm
      cases matched.symm.trans hm
  have length : pieces.length = source.count '*' := by
    have := Text.length_splitAtChar '*' source
    rw [hs, List.length_cons] at this
    omega
  have captured (t : Text) :
      captures? ⟨source, .wildcard first pieces, matched⟩ t =
        (Wildcard.match? first pieces t).map fun words => ⟨words, [], 0, t⟩ := rfl
  refine ⟨_, first, pieces, made, rfl, ?_, length, Regex.wildcard first pieces, .caseless, ?_, ?_,
    fun t => ?_⟩
  · refine ⟨?_, ?_, rfl, fun t => ?_, fun t c => ?_⟩
    · rw [← hs, Text.join_splitAtChar]
    · rw [← hs]
      exact fun s => Text.not_mem_of_mem_splitAtChar
    · rw [captured, Option.isSome_map]
      exact Wildcard.isSome_match?
    · rw [captured, Option.map_eq_some_iff]
      refine exists_congr fun words => ?_
      rw [Wildcard.match?_eq_some, and_assoc]
      refine and_congr_right fun cut => and_congr_right fun _ => ?_
      rw [eq_comm, iff_and_self]
      exact fun _ => cut.length_eq
  · rw [ofText?_translate hs, Option.bind_some, ofNode?_nodes]
  · show (Program.ofRegex _).names.length = _
    rw [names_wildcard, List.length_replicate]
    rfl
  · exact Matcher.captures?_wildcard first pieces t

theorem ofSource_tells : "* tells you '*'".toList.head? ≠ some '^' ∧
    ∃ p first pieces, ofSource "* tells you '*'".toList = .ok p ∧
      p.source = "* tells you '*'".toList ∧ p.IsLiteral first pieces ∧
      p.wildcards = "* tells you '*'".toList.count '*' ∧
      p.IsReadAs (translate "* tells you '*'".toList) :=
  have plain : "* tells you '*'".toList.head? ≠ some '^' := by decide
  ⟨plain, ofSource_literal plain⟩

end Pattern
end MudClient
