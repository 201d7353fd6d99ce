import MudClient.Proofs.Pattern.Machine
import MudClient.Proofs.Pattern.Translation
import MudClient.Proofs.Pattern.Wildcard
import MudClient.Proofs.Unicode.CaseFold
/-! The code of a wildcard pattern and its run. The code goes straight on but for the stars, each of
which reads one character before it goes back. -/
namespace MudClient.Regex

open Unicode (CodeSet)

/-! ### Code -/

def codes : List Regex → Nat → List Inst
  | [], _ => []
  | r :: rs, p => r.code p ++ codes rs (p + r.codeLength)

theorem code_chain (rs : List Regex) (p : Nat) : (chain rs).code p = codes rs p := by
  induction rs generalizing p with
  | nil => rfl
  | cons r rs ih =>
    cases rs with
    | nil => simp [chain, codes]
    | cons s rs =>
      show r.code p ++ (chain (s :: rs)).code (p + r.codeLength) = _
      rw [ih]
      rfl

def letterCode (t : Text) : List Inst :=
  t.map fun c => .char (CodeSet.closeUnderFold ⟨#[(c.toNat, c.toNat)]⟩)

def starCode (index p : Nat) : List Inst :=
  [.save (2 * index), .split (p + 4) (p + 2), .char (CodeSet.singleton '\n').compl, .jump (p + 1),
    .save (2 * index + 1)]

/-- The code of the pieces after a star, and of the end, if `g` groups precede. -/
def starsCode : Nat → Nat → List Text → List Inst
  | _, _, [] => [.look .textEnd, .accept]
  | g, p, piece :: pieces =>
    starCode (g + 1) p ++ (letterCode piece ++ starsCode (g + 1) (p + 5 + piece.length) pieces)

def wildcardCode (first : Text) (pieces : List Text) : List Inst :=
  .look .textStart :: (letterCode first ++ starsCode 0 (1 + first.length) pieces)

theorem code_star (index p : Nat) : (star index).code p = starCode index p := rfl

theorem codes_letters (t : Text) (rs : List Regex) (p : Nat) :
    codes (t.map letter ++ rs) p = letterCode t ++ codes rs (p + t.length) := by
  induction t generalizing p with
  | nil => rfl
  | cons c t ih =>
    have next : p + (letter c).codeLength + t.length = p + (c :: t).length := by
      simp [letter, codeLength]
      omega
    rw [List.map_cons, List.cons_append, codes, ih, next]
    rfl

theorem codes_stars (g p : Nat) (pieces : List Text) :
    codes (stars g pieces ++ [.look .textEnd]) p ++ [.accept] = starsCode g p pieces := by
  induction pieces generalizing g p with
  | nil => rfl
  | cons piece pieces ih =>
    have split : stars g (piece :: pieces) ++ [.look .textEnd] =
        star (g + 1) :: (piece.map letter ++ (stars (g + 1) pieces ++ [.look .textEnd])) := by
      simp [stars]
    rw [split, codes, code_star, codes_letters, List.append_assoc, List.append_assoc, ih]
    rfl

theorem code_wildcard (first : Text) (pieces : List Text) :
    (wildcard first pieces).code 0 ++ [.accept] = wildcardCode first pieces := by
  have start : (wildcard first pieces).code 0 =
      codes (.look .textStart :: (first.map letter ++ (stars 0 pieces ++ [.look .textEnd]))) 0 := by
    rw [← code_chain, wildcard]
    simp [code, codeLength]
  rw [start, codes, List.append_assoc, codes_letters, List.append_assoc, codes_stars]
  rfl

theorem groups_chain (rs : List Regex) : (chain rs).groups = rs.flatMap groups := by
  induction rs with
  | nil => rfl
  | cons r rs ih =>
    cases rs with
    | nil => simp [chain]
    | cons s rs => exact congrArg (r.groups ++ ·) ih

theorem groups_letters (t : Text) : (t.map letter).flatMap groups = [] := by
  rw [List.flatMap_eq_nil_iff]
  intro r hr
  obtain ⟨c, -, rfl⟩ := List.mem_map.1 hr
  rfl

theorem groups_stars (g : Nat) (pieces : List Text) : (stars g pieces).flatMap groups =
    (List.range' (g + 1) pieces.length).map fun i => (i, none) := by
  induction pieces generalizing g with
  | nil => rfl
  | cons piece pieces ih =>
    rw [stars, List.cons_append, List.flatMap_cons, List.flatMap_append, groups_letters,
      ih]
    rfl

theorem groups_wildcard (first : Text) (pieces : List Text) : (wildcard first pieces).groups =
    (List.range' 1 pieces.length).map fun i => (i, none) := by
  have inner := groups_chain
    (.look .textStart :: first.map letter ++ stars 0 pieces ++ [.look .textEnd])
  rw [List.flatMap_append, List.cons_append, List.flatMap_cons, List.flatMap_append,
    groups_letters, groups_stars] at inner
  simpa [wildcard, groups] using inner

/-- The groups of a wildcard pattern have no names. -/
theorem names_wildcard (first : Text) (pieces : List Text) :
    (Program.ofRegex (wildcard first pieces)).names = List.replicate pieces.length none := by
  have unnamed (is : List Nat) (i : Nat) :
      ((is.map fun i => (i, (none : Option Text))).lookup i).getD none = none := by
    induction is with
    | nil => rfl
    | cons j is ih =>
      rw [List.map_cons, List.lookup_cons]
      split
      · rfl
      · exact ih
  have count (n : Nat) : (List.range' 1 n).foldl max 0 = n := by
    induction n with
    | zero => rfl
    | succ n ih =>
      rw [List.range'_1_concat, List.foldl_append, ih]
      show max n (1 + n) = n + 1
      omega
  have groupCount : (wildcard first pieces).groupCount = pieces.length := by
    rw [Regex.groupCount, groups_wildcard, List.map_map]
    exact (congrArg (List.foldl max 0) (List.map_id _)).trans (count pieces.length)
  rw [Program.ofRegex, groupCount, groups_wildcard, List.eq_replicate_iff]
  simp [unnamed]

/-! ### Steps that read nothing -/

/-- Code from an address to the end of a program. Only stars over one character go back. -/
inductive IsLine : Nat → List Inst → Prop where
  | accept (p : Nat) : IsLine p [.accept]
  | look {p : Nat} {code : List Inst} (l : Look) (h : IsLine (p + 1) code) :
    IsLine p (.look l :: code)
  | char {p : Nat} {code : List Inst} (set : CodeSet) (h : IsLine (p + 1) code) :
    IsLine p (.char set :: code)
  | star {p : Nat} {code : List Inst} (a b : Nat) (set : CodeSet) (h : IsLine (p + 6) code) :
    IsLine (p + 1)
      (.save a :: .split (p + 5) (p + 3) :: .char set :: .jump (p + 2) :: .save b :: code)

variable {code after : List Inst} {p q pc : Nat} {i : Inst}

theorem isLine_letters {t : Text} (h : IsLine (p + t.length) code) :
    IsLine p (letterCode t ++ code) := by
  induction t generalizing p with
  | nil => exact h
  | cons c t ih =>
    refine .char _ (ih ?_)
    rwa [List.length_cons, Nat.add_comm t.length, ← Nat.add_assoc] at h

theorem isLine_stars (g p : Nat) (pieces : List Text) :
    IsLine (p + 1) (starsCode g (p + 1) pieces) := by
  induction pieces generalizing g p with
  | nil => exact .look _ (.accept _)
  | cons piece pieces ih =>
    refine .star _ _ _ (isLine_letters ?_)
    have := ih (g + 1) (p + 5 + piece.length)
    rwa [show p + 5 + piece.length + 1 = p + 6 + piece.length by omega] at this

theorem isLine_wildcardCode (first : Text) (pieces : List Text) :
    IsLine 0 (wildcardCode first pieces) := by
  refine .look _ (isLine_letters ?_)
  have := isLine_stars 0 first.length pieces
  rwa [Nat.add_comm] at this

def IsNoJump (code : List Inst) (pc : Nat) : Prop := ∀ target, code[pc]? ≠ some (.jump target)

theorem getElem?_of_drop (h : code.drop p = i :: after) : code[p]? = some i := by
  rw [← List.head?_drop, h]
  rfl

theorem drop_of_drop (h : code.drop p = i :: after) : code.drop (p + 1) = after := by
  rw [← List.tail_drop, h]
  rfl

theorem IsLine.isNoJump (h : IsLine p after) (hd : code.drop p = after) : IsNoJump code p := by
  intro target hj
  cases h <;> exact absurd ((getElem?_of_drop hd).symm.trans hj) (by simp)

/-- An instruction that reads nothing goes on to later ones, or back to the head of its star. -/
def Lowers (code : List Inst) (pc : Nat) : Inst → Prop
  | .jump target => target + 2 = pc ∧ 1 ≤ target ∧ IsNoJump code target
  | .split first second =>
    (pc < first ∧ IsNoJump code first) ∧ pc < second ∧ IsNoJump code second
  | .save _ | .look _ => IsNoJump code (pc + 1)
  | .char _ | .accept => True

theorem IsLine.lowers (h : IsLine p after) (hd : code.drop p = after) (hq : p ≤ q)
    (hi : code[q]? = some i) : Lowers code q i := by
  have own {p : Nat} {j : Inst} {after : List Inst} (hd : code.drop p = j :: after)
      (hi : code[p]? = some i) : i = j := Option.some.inj (hi.symm.trans (getElem?_of_drop hd))
  induction h with
  | accept p =>
    obtain rfl | later := Nat.eq_or_lt_of_le hq
    · cases own hd hi
      exact trivial
    · have inside := (List.getElem?_eq_some_iff.1 hi).1
      have len := congrArg List.length hd
      simp at len
      omega
  | look l h ih =>
    have rest := drop_of_drop hd
    obtain rfl | later := Nat.eq_or_lt_of_le hq
    · cases own hd hi
      exact h.isNoJump rest
    · exact ih rest later
  | char set h ih =>
    obtain rfl | later := Nat.eq_or_lt_of_le hq
    · cases own hd hi
      exact trivial
    · exact ih (drop_of_drop hd) later
  | @star p _ a b set h ih =>
    have head := drop_of_drop hd
    have body := drop_of_drop head
    have back := drop_of_drop body
    have last := drop_of_drop back
    have rest := drop_of_drop last
    have plain {p : Nat} {j : Inst} {after : List Inst} (hd : code.drop p = j :: after)
        (hj : ∀ target, j ≠ .jump target) : IsNoJump code p :=
      fun target hi => hj target (Option.some.inj ((getElem?_of_drop hd).symm.trans hi))
    obtain rfl | rfl | rfl | rfl | rfl | later :
        q = p + 1 ∨ q = p + 2 ∨ q = p + 3 ∨ q = p + 4 ∨ q = p + 5 ∨ p + 6 ≤ q := by omega
    · cases own hd hi
      exact plain head (by simp)
    · cases own head hi
      exact ⟨⟨by omega, plain last (by simp)⟩, by omega, plain body (by simp)⟩
    · cases own body hi
      exact trivial
    · cases own back hi
      exact ⟨rfl, by omega, plain head (by simp)⟩
    · cases own last hi
      exact h.isNoJump rest
    · exact ih rest later

/-- The way back is above the head of its star, which is above all that follows. -/
def lineRank (code : List Inst) (pc : Nat) : Nat :=
  match code[pc]? with
  | some (.jump target) => code.length + 1 - target
  | _ => code.length - pc

theorem IsNoJump.lineRank (h : IsNoJump code pc) : lineRank code pc = code.length - pc := by
  unfold Regex.lineRank
  split
  · exact absurd ‹_› (h _)
  · rfl

theorem isRanked_line (h : IsLine 0 code) : IsRanked code.toArray (lineRank code) := by
  have lowers {pc : Nat} {i : Inst} (hi : code[pc]? = some i) : Lowers code pc i :=
    h.lowers List.drop_zero (Nat.zero_le pc) hi
  have inside {pc : Nat} {i : Inst} (hi : code[pc]? = some i) : pc < code.length :=
    (List.getElem?_eq_some_iff.1 hi).1
  have plain {pc : Nat} {i : Inst} (hi : code[pc]? = some i) (hj : ∀ target, i ≠ .jump target) :
      lineRank code pc = code.length - pc :=
    IsNoJump.lineRank fun target ht => hj target (Option.some.inj (hi.symm.trans ht))
  simp only [← List.getElem?_toArray] at lowers inside plain
  refine ⟨fun hi => ?_, fun hi => ?_, fun hi => ?_, fun hi => ?_, fun pc => ?_⟩
  · obtain ⟨rfl, hp, next⟩ := lowers hi
    have := inside hi
    rw [next.lineRank, lineRank, ← List.getElem?_toArray, hi]
    dsimp only
    omega
  · obtain ⟨⟨hf, first⟩, hs, second⟩ := lowers hi
    have := inside hi
    rw [first.lineRank, second.lineRank, plain hi (by simp)]
    omega
  · have next : IsNoJump code _ := lowers hi
    have := inside hi
    rw [next.lineRank, plain hi (by simp)]
    omega
  · have next : IsNoJump code _ := lowers hi
    have := inside hi
    rw [next.lineRank, plain hi (by simp)]
    omega
  · by_cases hj : IsNoJump code pc
    · rw [hj.lineRank]
      exact Nat.sub_le _ _
    · obtain ⟨target, hi⟩ := Classical.not_forall_not.1 hj
      obtain ⟨-, hp, -⟩ := h.lowers List.drop_zero (Nat.zero_le pc) hi
      rw [lineRank, hi, List.size_toArray]
      dsimp only
      omega

/-! ### The run -/

section

variable {rank : Nat → Nat} {done rest t piece : Text} {slots : Slots} {c : Char} {set : CodeSet}
variable {later? : Text → Option (List Text)}

theorem run?_eq_way? (hr : IsRanked code.toArray rank) {target : Nat}
    (lower : rank target < rank pc) :
    way? code.toArray (.between done rest) (thread? code.toArray done rest) code.toArray.size
      target slots = run? code.toArray done rest target slots := by
  have := hr.le pc
  exact way?_fuel hr (by omega) (by omega) slots

theorem run?_save (hr : IsRanked code.toArray rank) {slot : Nat}
    (h : code[pc]? = some (.save slot)) : run? code.toArray done rest pc slots =
      run? code.toArray done rest (pc + 1) (slots.set! slot (some done.length)) := by
  rw [← List.getElem?_toArray] at h
  rw [run?, way?, h]
  exact run?_eq_way? hr (hr.save h)

theorem run?_split (hr : IsRanked code.toArray rank) {first second : Nat}
    (h : code[pc]? = some (.split first second)) : run? code.toArray done rest pc slots =
      (run? code.toArray done rest first slots).or (run? code.toArray done rest second slots) := by
  rw [← List.getElem?_toArray] at h
  obtain ⟨lower, lower'⟩ := hr.split h
  rw [← run?_eq_way? hr lower, ← run?_eq_way? hr lower', run?, way?, h]

theorem run?_jump (hr : IsRanked code.toArray rank) {target : Nat}
    (h : code[pc]? = some (.jump target)) :
    run? code.toArray done rest pc slots = run? code.toArray done rest target slots := by
  rw [← List.getElem?_toArray] at h
  rw [run?, way?, h]
  exact run?_eq_way? hr (hr.jump h)

theorem run?_look (hr : IsRanked code.toArray rank) {l : Look} (h : code[pc]? = some (.look l)) :
    run? code.toArray done rest pc slots =
      if l.holds (.between done rest) then run? code.toArray done rest (pc + 1) slots else none := by
  rw [← List.getElem?_toArray] at h
  rw [← run?_eq_way? hr (hr.look h), run?, way?, h]

theorem run?_char_nil (h : code[pc]? = some (.char set)) :
    run? code.toArray done [] pc slots = none := by
  rw [← List.getElem?_toArray] at h
  rw [run?, way?, h]
  simp only [thread?, h]

theorem run?_char_cons (h : code[pc]? = some (.char set)) :
    run? code.toArray done (c :: rest) pc slots =
      if set.mem c then run? code.toArray (done ++ [c]) rest (pc + 1) slots else none := by
  rw [← List.getElem?_toArray] at h
  rw [run?, way?, h]
  simp only [thread?, h, run?]

theorem run?_accept (h : code[pc]? = some .accept) :
    run? code.toArray done rest pc slots = some (slots.set! 1 (some done.length)) := by
  rw [← List.getElem?_toArray] at h
  rw [run?, way?, h]
  cases rest <;> simp only [thread?, h]

theorem run?_letters (hd : code.drop pc = letterCode t ++ after) :
    run? code.toArray done rest pc slots = (Wildcard.dropFolded? t rest).bind fun r =>
      run? code.toArray (done ++ rest.take t.length) r (pc + t.length) slots := by
  induction t generalizing pc done rest with
  | nil => simp [Wildcard.dropFolded?]
  | cons c t ih =>
    have here := getElem?_of_drop hd
    cases rest with
    | nil => exact run?_char_nil here
    | cons d rest =>
      rw [run?_char_cons here, Wildcard.dropFolded?]
      simp only [Unicode.mem_closeUnderFold]
      split
      · rw [ih (drop_of_drop hd)]
        simp only [List.append_assoc, List.singleton_append, List.length_cons, List.take_succ_cons]
        rw [Nat.add_right_comm, Nat.add_assoc]
      · rfl

/-- A dot is any character but a newline. -/
theorem mem_dot {c : Char} : (CodeSet.singleton '\n').compl.mem c ↔ c ≠ '\n' := by
  have ranges : (CodeSet.singleton '\n').compl.ranges.toList = [(0, 9), (11, 0x10FFFF)] := rfl
  have apart : CodeSet.IsApart (CodeSet.singleton '\n').compl.ranges.toList := by
    rw [ranges]
    exact ⟨by decide, by simp⟩
  have newline : c = '\n' ↔ c.toNat = 10 := Char.toNat_inj.symm
  have most : c.toNat ≤ 0x10FFFF := by
    have valid : c.toNat.isValidChar := c.valid
    unfold Nat.isValidChar at valid
    omega
  rw [CodeSet.mem, CodeSet.contains_iff_covers apart, ranges, ne_eq, newline]
  simp [CodeSet.Covers]
  omega

/-- A star stands for as little as the rest of the code allows. -/
theorem run?_star (hr : IsRanked code.toArray rank) (finish : Nat → List Text → Slots → Slots)
    {b : Nat}
    (hd : code.drop pc = .split (pc + 3) (pc + 1) :: .char (CodeSet.singleton '\n').compl ::
      .jump pc :: .save b :: (letterCode piece ++ after))
    (hl : ∀ done rest slots, done ++ rest = t →
      run? code.toArray done rest (pc + 4 + piece.length) slots =
        (later? rest).map fun ws => finish done.length ws slots)
    (ht : done ++ rest = t) :
    run? code.toArray done rest pc slots = (Wildcard.star? piece later? rest).map fun ws =>
      finish (done.length + (ws.headD []).length + piece.length) ws.tail
        (slots.set! b (some (done.length + (ws.headD []).length))) := by
  have body := drop_of_drop hd
  have back := drop_of_drop body
  have last := drop_of_drop back
  have pieceCode := drop_of_drop last
  have here {done rest : Text} (ht : done ++ rest = t) :
      run? code.toArray done rest (pc + 3) slots =
        (Wildcard.star?.here piece later? rest).map fun ws =>
          finish (done.length + (ws.headD []).length + piece.length) ws.tail
            (slots.set! b (some (done.length + (ws.headD []).length))) := by
    rw [run?_save hr (getElem?_of_drop last), run?_letters pieceCode, Wildcard.star?.here]
    cases hp : Wildcard.dropFolded? piece rest with
    | none => rfl
    | some r =>
      obtain ⟨u, hu, rfl⟩ := Wildcard.dropFolded?_eq_some.1 hp
      have len : piece.length = u.length := hu.length_eq
      simp only [Option.bind_some]
      rw [hl _ _ _ (by simpa [len] using ht)]
      simp [Function.comp_def, len]
  induction rest generalizing done with
  | nil =>
    rw [run?_split hr (getElem?_of_drop hd), run?_char_nil (getElem?_of_drop body), here ht]
    simp [Wildcard.star?]
  | cons c rest ih =>
    rw [run?_split hr (getElem?_of_drop hd), run?_char_cons (getElem?_of_drop body),
      run?_jump hr (getElem?_of_drop back), here ht, ih (by simpa using ht), Wildcard.star?,
      Option.orElse_eq_orElse, Option.orElse_eq_or, Option.map_or]
    congr 1
    simp only [mem_dot, ite_not]
    split
    · rfl
    · rw [Option.map_map]
      refine Option.map_congr fun ws hw => ?_
      obtain ⟨w, ws, rfl⟩ := Wildcard.exists_cons_of_star? hw
      simp [Nat.add_assoc, Nat.add_comm 1]

/-- The slots of the groups after the first `g`, for words from a start on. -/
def fill : Nat → Nat → List Text → List Text → Slots → Slots
  | g, start, piece :: pieces, w :: words, slots =>
    fill (g + 1) (start + w.length + piece.length) pieces words
      ((slots.set! (2 * (g + 1)) (some start)).set! (2 * (g + 1) + 1) (some (start + w.length)))
  | _, _, _, _, slots => slots

theorem run?_stars (hr : IsRanked code.toArray rank) {g : Nat} {pieces : List Text}
    (slots : Slots) (hd : code.drop pc = starsCode g pc pieces) (ht : done ++ rest = t) :
    run? code.toArray done rest pc slots = (Wildcard.words? pieces rest).map fun ws =>
      (fill g done.length pieces ws slots).set! 1 (some t.length) := by
  induction pieces generalizing g pc done rest slots with
  | nil =>
    rw [run?_look hr (getElem?_of_drop hd), run?_accept (getElem?_of_drop (drop_of_drop hd)),
      Wildcard.words?]
    cases rest with
    | nil =>
      rw [List.append_nil] at ht
      subst ht
      rfl
    | cons => rfl
  | cons piece pieces ih =>
    have head := drop_of_drop hd
    have later (done rest : Text) (slots : Slots) (ht : done ++ rest = t) :
        run? code.toArray done rest (pc + 1 + 4 + piece.length) slots =
          (Wildcard.words? pieces rest).map fun ws =>
            (fill (g + 1) done.length pieces ws slots).set! 1 (some t.length) := by
      refine ih slots ?_ ht
      have pieceCode := drop_of_drop (drop_of_drop (drop_of_drop (drop_of_drop head)))
      rw [← List.drop_drop, pieceCode]
      exact List.drop_left' (List.length_map _)
    rw [run?_save hr (getElem?_of_drop hd),
      run?_star hr (fun start ws slots => (fill (g + 1) start pieces ws slots).set! 1
        (some t.length)) head later ht, Wildcard.words?]
    refine Option.map_congr fun ws hw => ?_
    obtain ⟨w, ws, rfl⟩ := Wildcard.exists_cons_of_star? hw
    rfl

theorem run?_wildcardCode {first : Text} {pieces : List Text}
    (hc : code = wildcardCode first pieces) (slots : Slots) :
    run? code.toArray [] t 0 slots = (Wildcard.match? first pieces t).map fun ws =>
      (fill 0 first.length pieces ws slots).set! 1 (some t.length) := by
  have hr : IsRanked code.toArray (lineRank code) :=
    isRanked_line (hc ▸ isLine_wildcardCode first pieces)
  have hd : code.drop 0 = wildcardCode first pieces := by rw [hc, List.drop_zero]
  have firstCode := drop_of_drop hd
  have later : code.drop (1 + first.length) = starsCode 0 (1 + first.length) pieces := by
    rw [← List.drop_drop, firstCode]
    exact List.drop_left' (List.length_map _)
  rw [run?_look hr (getElem?_of_drop hd), run?_letters firstCode, Wildcard.match?_eq]
  cases hf : Wildcard.dropFolded? first t with
  | none => rfl
  | some r =>
    obtain ⟨u, hu, rfl⟩ := Wildcard.dropFolded?_eq_some.1 hf
    have len : first.length = u.length := hu.length_eq
    have stars := run?_stars hr slots later (rfl : u ++ r = u ++ r)
    simpa [len, Look.holds, Place.between] using stars

/-- A match cannot start later, since the circumflex holds at the start alone. -/
theorem starts?_wildcardCode {first : Text} {pieces : List Text}
    (hc : code = wildcardCode first pieces) (slots : Slots) (hn : done ≠ []) :
    starts? code.toArray slots done rest = none := by
  have hr : IsRanked code.toArray (lineRank code) :=
    isRanked_line (hc ▸ isLine_wildcardCode first pieces)
  have hi : code[0]? = some (.look .textStart) := by
    rw [hc]
    rfl
  have fails {done rest : Text} {slots : Slots} (hn : done ≠ []) :
      run? code.toArray done rest 0 slots = none := by
    rw [run?_look hr hi]
    simp [Look.holds, Place.between, hn]
  induction rest generalizing done with
  | nil => exact fails hn
  | cons c rest ih =>
    rw [starts?, fails hn, ih (by simp)]
    rfl

/-- Where a match and its groups start and end. -/
def found (first : Text) (pieces words : List Text) (t : Text) : Slots :=
  (fill 0 first.length pieces words
    ((Array.replicate (2 * pieces.length + 2) none).set! 0 (some 0))).set! 1 (some t.length)

theorem search?_wildcard (first : Text) (pieces : List Text) (t : Text) :
    (Program.ofRegex (wildcard first pieces)).search? t =
      (Wildcard.match? first pieces t).map fun words => found first pieces words t := by
  have code : (Program.ofRegex (wildcard first pieces)).code =
      (wildcardCode first pieces).toArray := congrArg _ (code_wildcard first pieces)
  have hr := isRanked_line (isLine_wildcardCode first pieces)
  rw [← code] at hr
  rw [search?_eq hr, code, names_wildcard, List.length_replicate]
  cases t with
  | nil => exact run?_wildcardCode rfl _
  | cons c t =>
    rw [starts?, starts?_wildcardCode rfl _ (by simp), Option.or_none]
    exact run?_wildcardCode rfl _

end

end MudClient.Regex
