import MudClient.Proofs.Script.Escape
import MudClient.Proofs.Text
import MudClient.Proofs.World.Input
/-! What stacking does to a text. A line is cut at its delimiters and nowhere else, so its pieces put
together again are the line. A delimiter that is meant to be sent is kept by a backslash, and every
text that is a command can be written in such a way. -/
namespace MudClient

variable {d p r t : Text} {c : Char}

theorem exists_splitStacked (d t : Text) : ∃ p ps, splitStacked d t = p :: ps :=
  List.exists_cons_of_ne_nil (splitStacked_ne_nil d t)

theorem prefix_of_splitStacked {ps : List Text} (h : splitStacked d t = p :: ps) : p <+: t := by
  rw [← join_splitStacked d t, h]
  cases ps with
  | nil => simp [Text.join, List.intercalate]
  | cons q qs =>
    rw [join_cons_of_ne_nil d p (List.cons_ne_nil q qs), List.append_assoc]
    exact List.prefix_append p _

/-- Nothing stands before the delimiter that ends an empty first piece. -/
theorem prefix_of_splitStacked_nil {ps : List Text} (h : splitStacked d t = [] :: p :: ps) :
    d <+: t := by
  rw [← join_splitStacked d t, h, join_cons_of_ne_nil d [] (List.cons_ne_nil p ps)]
  exact List.prefix_append d _

/-- No delimiter is left in a piece but those behind a backslash. -/
theorem isWhole_of_mem_splitStacked (hd : d ≠ []) (h : p ∈ splitStacked d t) : IsWhole d p := by
  induction t using splitStacked_induction hd generalizing p with
  | nil =>
    rw [splitStacked_nil, List.mem_singleton] at h
    exact h ▸ .nil
  | delimiter r ih =>
    rw [splitStacked_append hd] at h
    rcases List.mem_cons.1 h with rfl | h
    · exact .nil
    · exact ih h
  | escaped r hp ih =>
    obtain ⟨q, qs, hq⟩ := exists_splitStacked d r
    rw [splitStacked_escaped hd hp, hq, List.modifyHead_cons] at h
    rw [hq] at ih
    rcases List.mem_cons.1 h with rfl | h
    · have front : '\\' :: d ++ q <+: '\\' :: (d ++ r) :=
        (List.prefix_append_right_inj ('\\' :: d)).2 (prefix_of_splitStacked hq)
      exact .escaped (fun h => hp (h.trans front)) (ih List.mem_cons_self)
    · exact ih (List.mem_cons_of_mem q h)
  | cons c r hp hc ih =>
    obtain ⟨q, qs, hq⟩ := exists_splitStacked d r
    rw [splitStacked_cons hd hp hc, hq, List.modifyHead_cons] at h
    rw [hq] at ih
    rcases List.mem_cons.1 h with rfl | h
    · have front := prefix_of_splitStacked hq
      exact .cons (fun h => hp (h.trans ((List.prefix_cons_inj c).2 front)))
        (fun e h => hc e (h.trans front)) (ih List.mem_cons_self)
    · exact ih (List.mem_cons_of_mem q h)

/-- A piece that ended with a backslash would have taken the delimiter after it. -/
theorem getLast?_ne_of_mem_dropLast (hd : d ≠ []) (last : d.getLast? ≠ some '\\')
    (h : p ∈ (splitStacked d t).dropLast) : p.getLast? ≠ some '\\' := by
  induction t using splitStacked_induction hd generalizing p with
  | nil => simp [splitStacked_nil] at h
  | delimiter r ih =>
    rw [splitStacked_append hd, List.dropLast_cons_of_ne_nil (splitStacked_ne_nil d r)] at h
    rcases List.mem_cons.1 h with rfl | h
    · simp
    · exact ih h
  | escaped r hp ih =>
    obtain ⟨q, qs, hq⟩ := exists_splitStacked d r
    rw [splitStacked_escaped hd hp, hq, List.modifyHead_cons] at h
    rw [hq] at ih
    cases qs with
    | nil => simp at h
    | cons s qs =>
      rw [List.dropLast_cons_cons] at h ih
      rcases List.mem_cons.1 h with rfl | h
      · have own := ih List.mem_cons_self
        cases q with
        | nil => rwa [List.append_nil, List.getLast?_cons_of_ne_nil hd]
        | cons e q => rwa [List.getLast?_append_of_ne_nil _ (List.cons_ne_nil e q)]
      · exact ih (List.mem_cons_of_mem q h)
  | cons c r hp hc ih =>
    obtain ⟨q, qs, hq⟩ := exists_splitStacked d r
    rw [splitStacked_cons hd hp hc, hq, List.modifyHead_cons] at h
    rw [hq] at ih
    cases qs with
    | nil => simp at h
    | cons s qs =>
      rw [List.dropLast_cons_cons] at h ih
      rcases List.mem_cons.1 h with rfl | h
      · cases q with
        | nil =>
          -- The delimiter stands right behind `c`, which therefore is no backslash.
          have hc : c ≠ '\\' := fun e => hc e (prefix_of_splitStacked_nil hq)
          simpa using hc
        | cons e q =>
          rw [List.getLast?_cons_of_ne_nil (List.cons_ne_nil e q)]
          exact ih List.mem_cons_self
      · exact ih (List.mem_cons_of_mem q h)

/-- The pieces are those between the delimiters of a line. -/
structure IsCut (d t : Text) (pieces : List Text) : Prop where
  joined : Text.join d pieces = t
  whole : ∀ p ∈ pieces, IsWhole d p
  unescaped : d.getLast? ≠ some '\\' → ∀ p ∈ pieces.dropLast, p.getLast? ≠ some '\\'

theorem isCut_splitStacked (hd : d ≠ []) (t : Text) : IsCut d t (splitStacked d t) :=
  ⟨join_splitStacked d t, fun _ => isWhole_of_mem_splitStacked hd,
    fun last _ => getLast?_ne_of_mem_dropLast hd last⟩

/-! ### Commands -/

theorem splitCommands_eq (d t : Text) :
    splitCommands d t = if seenCommands d t = [] then [[]] else seenCommands d t := by
  split
  · rename_i none
    unfold splitCommands
    dsimp only
    rw [show List.map _ _ = [] from none]
  · exact splitCommands_of_ne_nil ‹_›

theorem mem_of_mem_splitStacked (hp : p ∈ splitStacked d t) (hc : c ∈ p) : c ∈ t :=
  join_splitStacked d t ▸ mem_join hp hc

theorem mem_seenCommands (h : p ∈ seenCommands d t) : '\n' ∉ p ∧ Text.isAllBlank p = false := by
  unfold seenCommands at h
  obtain ⟨piece, hp, rfl⟩ := List.mem_map.1 h
  obtain ⟨hp, visible⟩ := List.mem_filter.1 hp
  obtain ⟨trimmed, ht, hp⟩ := List.mem_flatMap.1 hp
  obtain ⟨line, hl, rfl⟩ := List.mem_map.1 ht
  refine ⟨fun hm => Text.not_mem_of_mem_splitAtChar hl ?_, ?_⟩
  · have inTrimmed := mem_of_mem_splitStacked hp (Script.Separator.mem_of_mem_unescape hm)
    rw [Text.dropEndWhile, List.mem_reverse] at inTrimmed
    exact List.mem_reverse.1 ((List.dropWhile_suffix _).subset inTrimmed)
  · rw [Script.Separator.isAllBlank_unescape]
    simpa using visible

theorem newline_not_mem_of_mem_splitCommands (h : p ∈ splitCommands d t) : '\n' ∉ p := by
  rw [splitCommands_eq] at h
  split at h
  · cases List.mem_singleton.1 h
    exact List.not_mem_nil
  · exact (mem_seenCommands h).1

theorem splitCommands_visible (d t : Text) :
    splitCommands d t = [[]] ∨ ∀ p ∈ splitCommands d t, Text.isAllBlank p = false := by
  rw [splitCommands_eq]
  split
  · exact .inl rfl
  · exact .inr fun p hp => (mem_seenCommands hp).2

/-! ### Escaping -/

/-- Every semicolon of an escaped text stands behind a backslash. -/
theorem isWhole_escape (t : Text) : IsWhole [';'] (Text.escape ';' t) := by
  induction t with
  | nil => exact .nil
  | cons c t ih =>
    by_cases hc : c = ';'
    · rw [hc, Text.escape_special]
      exact .escaped (by simp) ih
    · have free : ¬ [';'] <+: Text.escape ';' t := by
        intro h
        exact Text.head?_escape_ne (by decide) t (List.singleton_prefix_iff_head?_eq_some.1 h)
      rw [Text.escape_other hc]
      exact .cons (by simp [Ne.symm hc]) (fun _ => free) ih

/-- The settings know one delimiter that an escaped text is free of, and the empty one. -/
theorem splitStacked_escape (hd : d = [] ∨ d = [';']) (t : Text) :
    splitStacked d (Text.escape ';' t) = [Text.escape ';' t] := by
  rcases hd with rfl | rfl
  · rfl
  · exact (isWhole_iff (List.cons_ne_nil _ _)).1 (isWhole_escape t)

theorem isAllBlank_dropEndWhile (t : Text) :
    Text.isAllBlank (Text.dropEndWhile (· == '\r') t) = Text.isAllBlank t := by
  unfold Text.isAllBlank Text.dropEndWhile
  induction t using List.reverseRecOn with
  | nil => rfl
  | append_singleton t c ih =>
    by_cases hr : c = '\r'
    · subst hr
      simpa [show Text.isBlank '\r' = true from rfl] using ih
    · simp [hr]

/-- A line that is escaped comes out as it was, without the carriage returns at its end. -/
theorem seenCommands_escape (hd : d = [] ∨ d = [';']) (hn : '\n' ∉ t) :
    seenCommands d (Text.escape ';' t) =
      if Text.isAllBlank t then [] else [Text.dropEndWhile (· == '\r') t] := by
  have line : '\n' ∉ Text.escape ';' t := fun h =>
    hn (Text.mem_of_mem_escape h (by decide))
  have trimmed : Text.dropEndWhile (· == '\r') (Text.escape ';' t) = _ :=
    Text.dropEndWhile_escape rfl t
  simp only [seenCommands, Text.splitAtChar_of_not_mem line, List.map_cons, List.map_nil,
    List.flatMap_cons, List.flatMap_nil, List.append_nil, trimmed, splitStacked_escape hd,
    List.filter_cons, List.filter_nil, Script.Separator.isAllBlank_escape, isAllBlank_dropEndWhile]
  cases Text.isAllBlank t <;> simp [Script.Separator.unescape_escape]

theorem dropEndWhile_eq_self : Text.dropEndWhile (· == '\r') t = t ↔ t.getLast? ≠ some '\r' := by
  induction t using List.reverseRecOn with
  | nil => simp [Text.dropEndWhile]
  | append_singleton t c =>
    by_cases hr : c = '\r'
    · subst hr
      have shorter : (Text.dropEndWhile (· == '\r') (t ++ ['\r'])).length ≤ t.length := by
        unfold Text.dropEndWhile
        simpa using (List.dropWhile_suffix (· == '\r') (l := t.reverse)).length_le
      have changed : Text.dropEndWhile (· == '\r') (t ++ ['\r']) ≠ t ++ ['\r'] := by
        intro h
        rw [h, List.length_append, List.length_singleton] at shorter
        omega
      simpa using changed
    · simp [Text.dropEndWhile, hr]

/-- A text can be sent as one command exactly if it is empty, or a line that is seen and has no
carriage return at its end. -/
theorem splitCommands_escape_iff (hd : d = [] ∨ d = [';']) :
    splitCommands d (Text.escape ';' t) = [t] ↔
      t = [] ∨ Text.isAllBlank t = false ∧ '\n' ∉ t ∧ t.getLast? ≠ some '\r' := by
  by_cases hn : '\n' ∈ t
  · have cut : splitCommands d (Text.escape ';' t) ≠ [t] := fun h =>
      newline_not_mem_of_mem_splitCommands (h ▸ List.mem_singleton_self t) hn
    have some_text : t ≠ [] := List.ne_nil_of_mem hn
    simp [cut, hn, some_text]
  · rw [splitCommands_eq, seenCommands_escape hd hn, ← dropEndWhile_eq_self]
    cases hb : Text.isAllBlank t with
    | true => simp [eq_comm]
    | false =>
      have some_text : t ≠ [] := by
        rintro rfl
        cases hb
      simp [hn, some_text]

/-- Stacking loses nothing of a line but the delimiters at which it is cut, and it cuts at all that
stand behind no backslash. Commands are lines that are seen. With the delimiters of the settings
every one of them can be written so that it is sent as it stands. -/
theorem isCut_and_splitCommands_escape :
    (∀ d t, d ≠ [] → IsCut d t (splitStacked d t)) ∧
    (∀ d t, (∀ p ∈ splitCommands d t, '\n' ∉ p) ∧
      (splitCommands d t = [[]] ∨ ∀ p ∈ splitCommands d t, Text.isAllBlank p = false)) ∧
    ∀ d t, d = [] ∨ d = [';'] → (splitCommands d (Text.escape ';' t) = [t] ↔
      t = [] ∨ Text.isAllBlank t = false ∧ '\n' ∉ t ∧ t.getLast? ≠ some '\r') :=
  ⟨fun _ t hd => isCut_splitStacked hd t,
    fun d t => ⟨fun _ => newline_not_mem_of_mem_splitCommands, splitCommands_visible d t⟩,
    fun _ _ => splitCommands_escape_iff⟩

/-- A delimiter of two characters, a backslash in front of one, and pieces that are empty; and a text
with a backslash of its own. -/
theorem isCut_and_splitCommands_escape_backslash :
    splitStacked "&&".toList "\\&&a&&&&b\\".toList = ["\\&&a".toList, [], "b\\".toList] ∧
    IsCut "&&".toList "\\&&a&&&&b\\".toList ["\\&&a".toList, [], "b\\".toList] ∧
    Text.escape ';' "\\;;\\".toList = "\\\\;\\;\\".toList ∧
    splitCommands [';'] (Text.escape ';' "\\;;\\".toList) = ["\\;;\\".toList] := by
  have pieces : splitStacked "&&".toList "\\&&a&&&&b\\".toList =
      ["\\&&a".toList, [], "b\\".toList] := by decide +kernel
  obtain ⟨cut, -, escaped⟩ := isCut_and_splitCommands_escape
  exact ⟨pieces, pieces ▸ cut _ "\\&&a&&&&b\\".toList (by decide), by decide +kernel,
    (escaped _ _ (.inr rfl)).2 (.inr (by decide))⟩

end MudClient
