import Mathlib.Data.List.Forall2
import Mathlib.Data.List.Infix
import MudClient.Pattern.Basic
/-! What a wildcard pattern matches: the texts that its pieces cut into words, one for each star. Of
all ways to cut a text, the one is taken whose words are shortest from the left. -/
namespace MudClient.Wildcard

/-- Two texts that differ in case alone, character by character. -/
def EqFold (a b : Text) : Prop := List.Forall₂ Unicode.EqFold a b

/-- The text is `u₀ w₁ u₁ … wₖ uₖ`: the `u`s are the pieces of the pattern up to case, and the `w`s
stand for the stars. -/
def IsCut (first : Text) (pieces words : List Text) (t : Text) : Prop :=
  words.length = pieces.length ∧ (∀ w ∈ words, '\n' ∉ w) ∧
    ∃ u us, EqFold first u ∧ List.Forall₂ EqFold pieces us ∧
      t = u ++ (List.zipWith (· ++ ·) words us).flatten

/-- The words are as short as others, or shorter in the first place where their lengths differ. -/
def IsAsShort (words others : List Text) : Prop :=
  words.map List.length = others.map List.length ∨
    List.Lex (· < ·) (words.map List.length) (others.map List.length)

section

variable {a b t r u w v piece first : Text} {pieces words others : List Text} {c : Char}

theorem dropFolded?_eq_some : dropFolded? a t = some r ↔ ∃ u, EqFold a u ∧ t = u ++ r := by
  induction a generalizing t with
  | nil => simp [dropFolded?, EqFold, eq_comm]
  | cons c a ih =>
    cases t with
    | nil => simp [dropFolded?, EqFold, List.forall₂_cons_left_iff]
    | cons d t =>
      rw [dropFolded?]
      constructor
      · intro h
        split at h
        · rename_i hc
          obtain ⟨u, hu, rfl⟩ := ih.1 h
          exact ⟨d :: u, .cons hc hu, rfl⟩
        · cases h
      · rintro ⟨u, hu, ht⟩
        cases hu with
        | cons hc hu =>
          obtain ⟨rfl, rfl⟩ := List.cons.inj ht
          rw [if_pos hc]
          exact ih.2 ⟨_, hu, rfl⟩

/-! ### The search without a table -/

/-- A star and then `piece`; `later?` has the words for what follows. -/
def star? (piece : Text) (later? : Text → Option (List Text)) : Text → Option (List Text)
  | [] => here []
  | c :: r => here (c :: r) <|>
      if c = '\n' then none else (star? piece later? r).map (List.modifyHead (c :: ·))
where
  here (t : Text) : Option (List Text) :=
    (dropFolded? piece t).bind fun rest => (later? rest).map ([] :: ·)

/-- The words for each star, if pieces are left. -/
def words? : List Text → Text → Option (List Text)
  | [], t => if t = [] then some [] else none
  | piece :: pieces, t => star? piece (words? pieces) t

variable {later? : Text → Option (List Text)}

theorem here_eq_some : star?.here piece later? t = some words ↔
    ∃ u r ws, EqFold piece u ∧ t = u ++ r ∧ later? r = some ws ∧ words = [] :: ws := by
  simp only [star?.here, Option.bind_eq_some_iff, Option.map_eq_some_iff, dropFolded?_eq_some]
  constructor
  · rintro ⟨r, ⟨u, hu, rfl⟩, ws, hw, rfl⟩
    exact ⟨u, r, ws, hu, rfl, hw, rfl⟩
  · rintro ⟨u, r, ws, hu, rfl, hw, rfl⟩
    exact ⟨r, ⟨u, hu, rfl⟩, ws, hw, rfl⟩

theorem star?_cons_eq_some : star? piece later? (c :: t) = some words ↔
    star?.here piece later? (c :: t) = some words ∨ star?.here piece later? (c :: t) = none ∧
      c ≠ '\n' ∧ ∃ ws, star? piece later? t = some ws ∧ words = ws.modifyHead (c :: ·) := by
  rw [star?, Option.orElse_eq_orElse, Option.orElse_eq_or, Option.or_eq_some_iff]
  by_cases hc : c = '\n' <;> simp [hc, Option.map_eq_some_iff, @eq_comm _ _ words]

theorem exists_cons_of_star? (h : star? piece later? t = some words) :
    ∃ w ws, words = w :: ws := by
  induction t generalizing words with
  | nil =>
    obtain ⟨u, r, ws, -, -, -, rfl⟩ := here_eq_some.1 h
    exact ⟨[], ws, rfl⟩
  | cons c t ih =>
    rcases star?_cons_eq_some.1 h with h | ⟨-, -, later, hl, rfl⟩
    · obtain ⟨u, r, ws, -, -, -, rfl⟩ := here_eq_some.1 h
      exact ⟨[], ws, rfl⟩
    · obtain ⟨w, ws, rfl⟩ := ih hl
      exact ⟨c :: w, ws, rfl⟩

theorem endRow_eq (t : Text) : endRow t = t.tails.map (words? []) := by
  induction t with
  | nil => rfl
  | cons c t ih => simp [endRow, ih, words?]

theorem here_tails (piece : Text) (later? : Text → Option (List Text)) (t : Text) :
    starRow.here piece (t.tails.map later?) t = star?.here piece later? t := by
  unfold starRow.here star?.here
  cases h : dropFolded? piece t with
  | none => rfl
  | some r =>
    obtain ⟨u, hu, rfl⟩ := dropFolded?_eq_some.1 h
    have inside : u.length < (u ++ r).tails.length := by
      rw [List.length_tails, List.length_append]
      omega
    have tail : (u ++ r).tails[u.length]? = some r := by
      rw [List.getElem?_eq_getElem inside, List.getElem_tails, List.drop_left]
    rw [List.head?_drop, List.Forall₂.length_eq hu, List.getElem?_map, tail]
    rfl

theorem starRow_tails (piece : Text) (later? : Text → Option (List Text)) (t : Text) :
    starRow piece (t.tails.map later?) t = t.tails.map (star? piece later?) := by
  induction t with
  | nil => exact congrArg (fun own => [own]) (here_tails piece later? [])
  | cons c t ih =>
    have rest : t.tails.map (star? piece later?) = star? piece later? t ::
        (t.tails.map (star? piece later?)).tail := by
      cases t <;> rfl
    have tail : ((c :: t).tails.map later?).tail = t.tails.map later? := rfl
    rw [starRow, here_tails, tail, ih]
    show _ = star? piece later? (c :: t) :: t.tails.map (star? piece later?)
    rw [star?]
    congr 2
    split
    · rfl
    · rw [rest]
      cases h : star? piece later? t with
      | none => rfl
      | some ws =>
        obtain ⟨w, ws, rfl⟩ := exists_cons_of_star? h
        rfl

theorem rows_eq (t : Text) (pieces : List Text) : rows t pieces = t.tails.map (words? pieces) := by
  induction pieces with
  | nil => exact endRow_eq t
  | cons piece pieces ih =>
    rw [rows, ih, starRow_tails]
    rfl

theorem match?_eq (first : Text) (pieces : List Text) (t : Text) :
    match? first pieces t = (dropFolded? first t).bind (words? pieces) := by
  unfold match?
  congr 1
  funext rest
  rw [rows_eq]
  cases rest <;> simp

/-! ### Cuts -/

theorem isCut_nil_nil (words : List Text) : IsCut [] [] words t ↔ words = [] ∧ t = [] := by
  constructor
  · rintro ⟨hl, -, u, us, hu, hus, rfl⟩
    cases hu
    cases hus
    exact ⟨List.length_eq_zero_iff.1 hl, by simp⟩
  · rintro ⟨rfl, rfl⟩
    exact ⟨rfl, by simp, [], [], .nil, .nil, rfl⟩

theorem isCut_iff : IsCut first pieces words t ↔
    ∃ u r, EqFold first u ∧ t = u ++ r ∧ IsCut [] pieces words r := by
  constructor
  · rintro ⟨hl, hw, u, us, hu, hus, rfl⟩
    exact ⟨u, _, hu, rfl, hl, hw, [], us, .nil, hus, rfl⟩
  · rintro ⟨u, _, hu, rfl, hl, hw, v, us, hv, hus, rfl⟩
    cases hv
    exact ⟨hl, hw, u, us, hu, hus, rfl⟩

theorem isCut_cons : IsCut [] (piece :: pieces) (w :: words) t ↔
    ∃ r, '\n' ∉ w ∧ t = w ++ r ∧ IsCut piece pieces words r := by
  constructor
  · rintro ⟨hl, hw, u, us, hu, hus, rfl⟩
    cases hu
    cases hus with
    | @cons _ v _ us hv hus =>
      obtain ⟨hn, hw⟩ := List.forall_mem_cons.1 hw
      exact ⟨v ++ (List.zipWith (· ++ ·) words us).flatten, hn, by simp, Nat.succ.inj hl, hw,
        v, us, hv, hus, rfl⟩
  · rintro ⟨_, hn, rfl, hl, hw, u, us, hu, hus, rfl⟩
    exact ⟨congrArg Nat.succ hl, List.forall_mem_cons.2 ⟨hn, hw⟩, [], u :: us, .nil,
      .cons hu hus, by simp⟩

theorem IsCut.length_eq (h : IsCut first pieces words t) : words.length = pieces.length := h.1

/-- The lengths of the words tell what they are. -/
theorem IsCut.unique (h : IsCut first pieces words t) (h' : IsCut first pieces others t)
    (same : words.map List.length = others.map List.length) : words = others := by
  induction pieces generalizing first words others t with
  | nil =>
    rw [List.length_eq_zero_iff.1 h.length_eq, List.length_eq_zero_iff.1 h'.length_eq]
  | cons piece pieces ih =>
    obtain ⟨w, words, rfl⟩ := List.exists_cons_of_length_eq_add_one h.length_eq
    obtain ⟨v, others, rfl⟩ := List.exists_cons_of_length_eq_add_one h'.length_eq
    obtain ⟨hwv, rest⟩ := List.cons.inj same
    obtain ⟨u, r, hu, rfl, hr⟩ := isCut_iff.1 h
    obtain ⟨u', r', hu', ht, hr'⟩ := isCut_iff.1 h'
    obtain ⟨rfl, rfl⟩ := List.append_inj ht (hu.length_eq.symm.trans hu'.length_eq)
    obtain ⟨s, -, rfl, hs⟩ := isCut_cons.1 hr
    obtain ⟨s', -, hw, hs'⟩ := isCut_cons.1 hr'
    obtain ⟨rfl, rfl⟩ := List.append_inj hw hwv
    rw [ih hs hs' rest]

theorem IsAsShort.antisymm (h : IsAsShort words others) (h' : IsAsShort others words) :
    words.map List.length = others.map List.length := by
  rcases h with h | h
  · exact h
  rcases h' with h' | h'
  · exact h'.symm
  · exact absurd h' (List.lex_asymm (fun h => Nat.lt_asymm h) h)

theorem isAsShort_cons : IsAsShort (w :: words) (v :: others) ↔
    w.length < v.length ∨ w.length = v.length ∧ IsAsShort words others := by
  simp only [IsAsShort, List.map_cons, List.cons.injEq, List.cons_lex_cons_iff]
  tauto

theorem isCut_of_words? (h : words? pieces t = some words) : IsCut [] pieces words t := by
  induction pieces generalizing words t with
  | nil =>
    unfold words? at h
    split at h
    · cases h
      exact (isCut_nil_nil _).2 ⟨rfl, ‹_›⟩
    · cases h
  | cons piece pieces ih =>
    have here {t : Text} {words : List Text}
        (h : star?.here piece (words? pieces) t = some words) :
        IsCut [] (piece :: pieces) words t := by
      obtain ⟨u, r, ws, hu, rfl, hw, rfl⟩ := here_eq_some.1 h
      exact isCut_cons.2 ⟨_, List.not_mem_nil, rfl, isCut_iff.2 ⟨u, r, hu, rfl, ih hw⟩⟩
    rw [words?] at h
    induction t generalizing words with
    | nil => exact here h
    | cons c t further =>
      rcases star?_cons_eq_some.1 h with h | ⟨-, hc, later, hl, rfl⟩
      · exact here h
      · obtain ⟨w, ws, rfl⟩ := exists_cons_of_star? hl
        obtain ⟨r, hn, rfl, hr⟩ := isCut_cons.1 (further hl)
        exact isCut_cons.2 ⟨r, by simp [hn, hc.symm], rfl, hr⟩

/-- No cut of the text has words that are shorter. -/
theorem exists_words?_of_isCut (h : IsCut [] pieces others t) :
    ∃ words, words? pieces t = some words ∧ IsAsShort words others := by
  induction pieces generalizing others t with
  | nil =>
    obtain ⟨rfl, rfl⟩ := (isCut_nil_nil others).1 h
    exact ⟨[], rfl, .inl rfl⟩
  | cons piece pieces ih =>
    obtain ⟨v, others, rfl⟩ := List.exists_cons_of_length_eq_add_one h.length_eq
    obtain ⟨r, hn, rfl, hr⟩ := isCut_cons.1 h
    clear h
    rw [words?]
    -- The words get longer only as long as the star cannot stand for less.
    induction v with
    | nil =>
      obtain ⟨u, s, hu, rfl, hs⟩ := isCut_iff.1 hr
      obtain ⟨words, hw, short⟩ := ih hs
      have here : star?.here piece (words? pieces) (u ++ s) = some ([] :: words) :=
        here_eq_some.2 ⟨u, s, words, hu, rfl, hw, rfl⟩
      refine ⟨[] :: words, ?_, isAsShort_cons.2 (.inr ⟨rfl, short⟩)⟩
      rw [List.nil_append]
      cases hus : u ++ s with
      | nil => rwa [hus] at here
      | cons c x =>
        rw [hus] at here
        exact star?_cons_eq_some.2 (.inl here)
    | cons c v longer =>
      obtain ⟨hc, hn⟩ := not_or.1 (List.mem_cons.not.1 hn)
      obtain ⟨words, hw, short⟩ := longer hn
      rw [List.cons_append]
      cases here : star?.here piece (words? pieces) (c :: (v ++ r)) with
      | some ws =>
        obtain ⟨-, -, ws, -, -, -, rfl⟩ := here_eq_some.1 here
        exact ⟨[] :: ws, star?_cons_eq_some.2 (.inl here), isAsShort_cons.2 (.inl (by simp))⟩
      | none =>
        obtain ⟨w, ws, rfl⟩ := exists_cons_of_star? hw
        refine ⟨(c :: w) :: ws, star?_cons_eq_some.2
          (.inr ⟨here, Ne.symm hc, w :: ws, hw, rfl⟩), ?_⟩
        simpa [isAsShort_cons] using isAsShort_cons.1 short

theorem isSome_match?_of_isCut (cut : IsCut first pieces words t) :
    (match? first pieces t).isSome := by
  obtain ⟨u, r, hu, rfl, hr⟩ := isCut_iff.1 cut
  obtain ⟨shortest, hs, -⟩ := exists_words?_of_isCut hr
  rw [match?_eq, dropFolded?_eq_some.2 ⟨u, hu, rfl⟩, Option.bind_some, hs]
  rfl

/-- A match is the cut of the text whose words are shortest from the left. -/
theorem match?_eq_some : match? first pieces t = some words ↔ IsCut first pieces words t ∧
    ∀ others, IsCut first pieces others t → IsAsShort words others := by
  have found {words : List Text} (h : match? first pieces t = some words) :
      IsCut first pieces words t ∧
        ∀ others, IsCut first pieces others t → IsAsShort words others := by
    rw [match?_eq] at h
    obtain ⟨r, hr, hw⟩ := Option.bind_eq_some_iff.1 h
    obtain ⟨u, hu, rfl⟩ := dropFolded?_eq_some.1 hr
    refine ⟨isCut_iff.2 ⟨u, r, hu, rfl, isCut_of_words? hw⟩, fun others ho => ?_⟩
    obtain ⟨u', r', hu', ht, ho'⟩ := isCut_iff.1 ho
    obtain ⟨rfl, rfl⟩ := List.append_inj ht (hu.length_eq.symm.trans hu'.length_eq)
    obtain ⟨least, hl, short⟩ := exists_words?_of_isCut ho'
    cases hw.symm.trans hl
    exact short
  refine ⟨found, fun ⟨cut, least⟩ => ?_⟩
  obtain ⟨shortest, matched⟩ := Option.isSome_iff_exists.1 (isSome_match?_of_isCut cut)
  obtain ⟨cut', least'⟩ := found matched
  rw [matched, cut'.unique cut ((least' _ cut).antisymm (least _ cut'))]

theorem isSome_match? :
    (match? first pieces t).isSome ↔ ∃ words, IsCut first pieces words t := by
  refine ⟨fun h => ?_, fun ⟨_, cut⟩ => isSome_match?_of_isCut cut⟩
  obtain ⟨words, h⟩ := Option.isSome_iff_exists.1 h
  exact ⟨words, (match?_eq_some.1 h).1⟩

end

end MudClient.Wildcard
