import MudClient.Proofs.Unicode.Lower
/-! Letter case in ASCII. There the mappings of the standard are the plain ones, and nothing else but
the Kelvin sign has a letter of ASCII as its lower case. -/
namespace MudClient.Unicode

variable {c d : Char} {t u : Text}

def IsAscii (t : Text) : Prop := ∀ c ∈ t, c.toNat < 0x80

instance (t : Text) : Decidable (IsAscii t) :=
  List.decidableBAll (fun c : Char => c.toNat < 0x80) t

theorem toLower_of_ascii (h : c.toNat < 0x80) : toLower c = [c.toLower] := if_pos h

theorem toUpper_of_ascii (h : c.toNat < 0x80) : toUpper c = [c.toUpper] := if_pos h

theorem char_toLower_of_le (h : 0x80 ≤ c.toNat) : c.toLower = c := by
  refine dif_neg fun ⟨_, hz⟩ => ?_
  have : c.toNat ≤ 'Z'.toNat := UInt32.le_iff_toNat_le.1 hz
  have : 'Z'.toNat = 0x5A := rfl
  omega

theorem char_toLower_lt_iff : c.toLower.toNat < 0x80 ↔ c.toNat < 0x80 := by
  by_cases h : c.toNat < 0x80
  · exact iff_of_true (forall_ascii (p := fun c => c.toLower.toNat < 0x80) (by decide) h) h
  · rw [char_toLower_of_le (Nat.le_of_not_lt h)]

/-- What holds in ASCII, and of all that its mapping leaves alone. -/
theorem forall_char {p : Char → Prop} (ascii : ∀ n < 0x80, p (Char.ofNat n))
    (own : ∀ c, c.toLower = c → p c) (c : Char) : p c := by
  by_cases h : c.toNat < 0x80
  · exact forall_ascii ascii h
  · exact own c (char_toLower_of_le (Nat.le_of_not_lt h))

theorem toLower_toLower (c : Char) : toLower c.toLower = toLower c :=
  forall_char (p := fun c => toLower c.toLower = toLower c) (by decide)
    (fun _ => congrArg toLower) c

theorem toUpper_toLower (c : Char) : toUpper c.toLower = toUpper c :=
  forall_char (p := fun c => toUpper c.toLower = toUpper c) (by decide)
    (fun _ => congrArg toUpper) c

theorem isBlank_toLower (c : Char) : Text.isBlank c.toLower = Text.isBlank c :=
  forall_char (p := fun c => Text.isBlank c.toLower = Text.isBlank c) (by decide)
    (fun _ => congrArg Text.isBlank) c

theorem lowerAscii_lowerAscii (t : Text) :
    Text.lowerAscii (Text.lowerAscii t) = Text.lowerAscii t := by
  have twice : Char.toLower ∘ Char.toLower = Char.toLower := by
    funext c
    exact forall_char (p := fun c => c.toLower.toLower = c.toLower) (by decide)
      (fun _ => congrArg Char.toLower) c
  unfold Text.lowerAscii
  rw [List.map_map, twice]

theorem trim_lowerAscii (t : Text) :
    Text.trim (Text.lowerAscii t) = Text.lowerAscii (Text.trim t) := by
  have blank : Text.isBlank ∘ Char.toLower = Text.isBlank := funext isBlank_toLower
  unfold Text.trim Text.trimEnd Text.dropEndWhile Text.trimStart Text.lowerAscii
  rw [List.dropWhile_map, ← List.map_reverse, List.dropWhile_map, List.map_reverse, blank]

theorem plus_mem_lowerAscii : '+' ∈ Text.lowerAscii t ↔ '+' ∈ t := by
  have plus : ∀ c : Char, c.toLower = '+' ↔ c = '+' :=
    forall_char (by decide) fun c own => by rw [own]
  simp [Text.lowerAscii, plus]

theorem isAscii_lowerAscii : IsAscii (Text.lowerAscii t) ↔ IsAscii t := by
  simp [IsAscii, Text.lowerAscii, char_toLower_lt_iff]

theorem lowerFrom_of_ascii (h : IsAscii t) (before : Text) :
    lowerFrom before t = Text.lowerAscii t := by
  induction t generalizing before with
  | nil => rfl
  | cons c t ih =>
    obtain ⟨hc, ht⟩ := List.forall_mem_cons.1 h
    have sigma : c ≠ 'Σ' := by
      rintro rfl
      exact absurd hc (by decide)
    rw [lowerFrom, if_neg sigma, toLower_of_ascii hc, ih ht]
    rfl

theorem lower_of_ascii (h : IsAscii t) : lower t = Text.lowerAscii t := lowerFrom_of_ascii h []

/-- A small letter other than that of the Kelvin sign. -/
def isPlain (c : Char) : Bool := 0x61 ≤ c.toNat && c.toNat ≤ 0x7A && c.toNat != 'k'.toNat

/-- The run leads from ASCII, or it does not lead to a plain letter. -/
def CaseRun.isFar (r : CaseRun) : Bool :=
  r.last < 0x80 || 0x7A < r.image || r.first == r.last && r.image == 0x6B

-- The table is a long list of characters.
set_option maxRecDepth 100000 in
theorem isFar_lowerRuns : ∀ r ∈ lowerRuns.toList, r.isFar :=
  forall_caseRuns_of_fields rfl (by decide +kernel)

theorem isPlain_mapRuns (hc : 0x80 ≤ c.toNat) : isPlain (mapRuns lowerRuns c) = false := by
  have letter : 'k'.toNat = 0x6B := rfl
  rw [Bool.eq_false_iff]
  simp only [isPlain, Ne, Bool.and_eq_true, decide_eq_true_eq, bne_iff_ne, letter]
  unfold mapRuns
  rcases mapRunsIn_cases lowerRuns c.toNat 0 lowerRuns.size (Nat.le_refl _) with same |
    ⟨r, hr, ⟨first, last, -⟩, image⟩
  · rw [same, Char.ofNat_toNat]
    omega
  · have far := isFar_lowerRuns r hr
    simp only [CaseRun.isFar, Bool.or_eq_true, Bool.and_eq_true, decide_eq_true_eq,
      beq_iff_eq] at far
    rw [image]
    rcases toNat_ofNat_cases (r.image + (c.toNat - r.first)) with code | code <;> omega

/-- A character that is a plain letter in lower case is one of ASCII. -/
theorem ascii_of_toLower (h : ∀ d ∈ toLower c, isPlain d) : c.toNat < 0x80 := by
  refine Nat.lt_of_not_le fun hc => ?_
  unfold toLower at h
  rw [if_neg (Nat.not_lt.2 hc)] at h
  split at h
  · exact absurd (h '\u0307' (by simp)) (by decide)
  · have := h _ (List.mem_singleton_self _)
    rw [isPlain_mapRuns hc] at this
    cases this

theorem isAscii_of_lowerFrom {before : Text} (h : ∀ d ∈ lowerFrom before t, isPlain d) :
    IsAscii t := by
  induction t generalizing before with
  | nil => exact List.forall_mem_nil _
  | cons c t ih =>
    rw [lowerFrom, List.forall_mem_append] at h
    obtain ⟨hc, ht⟩ := h
    refine List.forall_mem_cons.2 ⟨?_, ih ht⟩
    split at hc
    · exact absurd (hc _ (List.mem_singleton_self _)) (by split <;> decide)
    · exact ascii_of_toLower hc

/-- A text in plain letters is the lower case of the same texts by either mapping. -/
theorem lower_eq_iff (hu : ∀ c ∈ u, isPlain c) : lower t = u ↔ Text.lowerAscii t = u := by
  constructor
  · rintro rfl
    exact (lower_of_ascii (isAscii_of_lowerFrom hu)).symm
  · rintro rfl
    refine lower_of_ascii (isAscii_lowerAscii.1 fun c hc => ?_)
    have := hu c hc
    simp only [isPlain, Bool.and_eq_true, decide_eq_true_eq] at this
    omega

end MudClient.Unicode
