import MudClient.Pattern.Basic
/-! Where a match lies. All that a thread notes in its slots are places that were passed, so a match
starts and ends within the text, and it starts behind as many characters as it says. -/
namespace MudClient

namespace Regex

variable {code : Array Inst} {p : Place} {ways : Ways} {slots blank : Slots} {ts : List Thread}
variable {fuel pc i j : Nat} {before : Option Char} {best : Option Slots} {rest t : Text}

/-- The start of a match is noted, and nothing beyond the place `i`. -/
structure IsWithin (slots : Slots) (i : Nat) : Prop where
  size : 1 < slots.size
  start : ∃ a, slots[0]? = some (some a)
  le : ∀ k a : Nat, slots[k]? = some (some a) → a ≤ i

theorem IsWithin.mono (h : IsWithin slots i) (hij : i ≤ j) : IsWithin slots j where
  size := h.size
  start := h.start
  le k a ha := Nat.le_trans (h.le k a ha) hij

/-- A place more is noted. -/
theorem IsWithin.set (h : IsWithin slots i) (k : Nat) : IsWithin (slots.set! k (some i)) i where
  size := by simpa using h.size
  start := by
    obtain ⟨a, ha⟩ := h.start
    by_cases hk : k = 0
    · have := h.size
      exact ⟨i, by simp [hk, Nat.zero_lt_of_lt this]⟩
    · exact ⟨a, by simp [hk, ha]⟩
  le l a ha := by
    by_cases hl : k = l
    · subst hl
      simp only [Array.set!_eq_setIfInBounds, Array.getElem?_setIfInBounds_self] at ha
      split at ha
      · cases ha
        exact Nat.le_refl i
      · cases ha
    · exact h.le l a (by simpa [hl] using ha)

/-- Threads that wait at a place have noted nothing beyond it. -/
def Ways.AreWithin (ways : Ways) (i : Nat) : Prop := ∀ t ∈ ways.threads, IsWithin t.slots i

theorem Ways.AreWithin.add (h : ways.AreWithin i) (hs : IsWithin slots i) (pc : Nat) :
    Ways.AreWithin { ways with threads := ⟨pc, slots⟩ :: ways.threads } i :=
  List.forall_mem_cons.2 ⟨hs, h⟩

theorem Ways.areWithin_none (code : Array Inst) (i : Nat) : (Ways.none code).AreWithin i :=
  List.forall_mem_nil _

theorem areWithin_follow (hs : IsWithin slots p.index) (hw : ways.AreWithin p.index) :
    (follow code p fuel pc slots ways).AreWithin p.index := by
  induction fuel generalizing pc slots ways with
  | zero => exact hw
  | succ fuel ih =>
    unfold follow
    split
    · exact hw
    · dsimp only
      split
      · exact hw
      · exact ih hs hw
      · exact ih hs (ih hs hw)
      · exact ih (hs.set _) hw
      · split
        · exact ih hs hw
        · exact hw
      · exact Ways.AreWithin.add hw hs _
      · exact Ways.AreWithin.add hw hs _

/-- What the threads of a place leave at the next one. -/
theorem areWithin_step (code : Array Inst) (c? : Option Char)
    (hts : ∀ t ∈ ts, IsWithin t.slots i) (hp : i ≤ p.index) (hw : ways.AreWithin p.index) :
    (step code c? p ts ways).1.AreWithin p.index ∧
      ∀ s ∈ (step code c? p ts ways).2, IsWithin s i := by
  induction ts generalizing ways with
  | nil => exact ⟨hw, fun s hs => (nomatch hs)⟩
  | cons t ts ih =>
    obtain ⟨ht, hts⟩ := List.forall_mem_cons.1 hts
    unfold step
    split
    · exact ⟨hw, fun s hs => Option.some.inj hs ▸ ht⟩
    · refine ih hts ?_
      split
      · exact areWithin_follow (ht.mono hp) hw
      · exact hw
    · exact ih hts hw

/-- A match that ends at the place `i` or before it. -/
def IsMatch (slots : Slots) (i : Nat) : Prop :=
  ∃ a b, slots[0]? = some (some a) ∧ slots[1]? = some (some b) ∧ a ≤ b ∧ b ≤ i

theorem IsMatch.mono (h : IsMatch slots i) (hij : i ≤ j) : IsMatch slots j := by
  obtain ⟨a, b, start, stop, hab, hb⟩ := h
  exact ⟨a, b, start, stop, hab, Nat.le_trans hb hij⟩

theorem IsWithin.isMatch (h : IsWithin slots i) : IsMatch (slots.set! 1 (some i)) i := by
  obtain ⟨a, ha⟩ := h.start
  exact ⟨a, i, by simp [ha], by simp [h.size], h.le 0 a ha, Nat.le_refl i⟩

/-- No place is noted yet. -/
structure IsBlank (blank : Slots) : Prop where
  size : 1 < blank.size
  none : ∀ k a : Nat, blank[k]? ≠ some (some a)

theorem IsBlank.isWithin (h : IsBlank blank) (i : Nat) : IsWithin (blank.set! 0 (some i)) i where
  size := by simpa using h.size
  start := ⟨i, by simp [Nat.zero_lt_of_lt h.size]⟩
  le k a ha := by
    by_cases hk : 0 = k
    · subst hk
      have : i = a := by simpa [Nat.zero_lt_of_lt h.size] using ha
      omega
    · exact absurd (by simpa [hk] using ha) (h.none k a)

/-- A match may also start here, as long as there is none. -/
theorem Ways.AreWithin.begin (hw : ways.AreWithin i) (code : Array Inst) (hb : IsBlank blank)
    (before : Option Char) (rest : Text) (best : Option Slots) : (if best.isNone then
      enter code ⟨i, before, rest⟩ 0 (blank.set! 0 (some i)) ways else ways).AreWithin i := by
  split
  · exact areWithin_follow (p := ⟨i, before, rest⟩) (hb.isWithin i) hw
  · exact hw

/-- A thread that is done is a match, and it is preferred to the one before. -/
theorem isMatch_orElse {done : Option Slots} (hd : ∀ s ∈ done, IsWithin s i)
    (hbest : ∀ s ∈ best, IsMatch s i) :
    ∀ s ∈ (done.map fun s => s.set! 1 (some i)) <|> best, IsMatch s i := by
  intro s hs
  cases done with
  | none => exact hbest s hs
  | some found =>
    cases hs
    exact (hd found rfl).isMatch

theorem isMatch_searchFrom (hb : IsBlank blank) (hw : ways.AreWithin i)
    (hbest : ∀ s ∈ best, IsMatch s i) :
    ∀ s ∈ searchFrom code blank i before ways best rest, IsMatch s (i + rest.length) := by
  induction rest generalizing i before ways best with
  | nil =>
    unfold searchFrom
    exact isMatch_orElse (areWithin_step code none (p := ⟨i, before, []⟩)
      (fun t ht => hw.begin code hb before [] best t (List.mem_reverse.1 ht)) (Nat.le_refl i)
      (Ways.areWithin_none code i)).2 hbest
  | cons c r ih =>
    unfold searchFrom
    obtain ⟨next, done⟩ := areWithin_step code (some c) (p := ⟨i + 1, some c, r⟩)
      (fun t ht => hw.begin code hb before (c :: r) best t (List.mem_reverse.1 ht)) (Nat.le_succ i)
      (Ways.areWithin_none code (i + 1))
    rw [List.length_cons, Nat.add_comm r.length, ← Nat.add_assoc]
    exact ih next fun s hs => (isMatch_orElse done hbest s hs).mono (Nat.le_succ i)

theorem isMatch_search? {program : Program} (h : program.search? t = some slots) :
    IsMatch slots t.length := by
  have blank : IsBlank (Array.replicate (2 * program.names.length + 2) none) :=
    ⟨by simp, fun k a => by simp [Array.getElem?_replicate]⟩
  have unmatched : ∀ s ∈ (none : Option Slots), IsMatch s 0 := by simp
  have found := isMatch_searchFrom blank (Ways.areWithin_none program.code 0) unmatched slots h
  rwa [Nat.zero_add] at found

end Regex

/-- What was matched stands in the text behind `start` characters. -/
def Captures.IsFoundIn (c : Captures) (t : Text) : Prop :=
  ∃ before after, t = before ++ c.matched ++ after ∧ before.length = c.start

namespace Pattern

variable {p : Pattern} {c : Captures} {t : Text}

theorem isFoundIn_of_captures? (h : p.captures? t = some c) : c.IsFoundIn t := by
  unfold captures? Matcher.captures? at h
  split at h
  · obtain ⟨words, -, rfl⟩ := Option.map_eq_some_iff.1 h
    exact ⟨[], [], by simp, rfl⟩
  · rename_i program
    obtain ⟨slots, hs, h⟩ := Option.bind_eq_some_iff.1 h
    cases h
    obtain ⟨a, b, start, stop, hab, hb⟩ := Regex.isMatch_search? hs
    refine ⟨t.take a, t.drop b, ?_, ?_⟩
    · have middle : (t.take b).drop a ++ t.drop b = t.drop a := by
        rw [← List.drop_append_of_le_length (by simp; omega), List.take_append_drop]
      simp [Regex.slice?, start, stop, List.append_assoc, middle]
    · simp [start, Nat.min_eq_left (Nat.le_trans hab hb)]

/-- Only a regular expression can match from the middle of a text on. -/
theorem start_of_captures? (hp : p.source.head? ≠ some '^') (h : p.captures? t = some c) :
    c.start = 0 := by
  have literal := p.matcher_eq
  unfold Matcher.ofSource? at literal
  unfold captures? Matcher.captures? at h
  split at h
  · obtain ⟨words, -, rfl⟩ := Option.map_eq_some_iff.1 h
    rfl
  · rename_i hm
    rw [hm] at literal
    split at literal
    · rename_i hs
      exact absurd (by rw [hs]; rfl) hp
    · split at literal <;> cases literal

end Pattern
end MudClient
