import MudClient.Proofs.Telnet.Stream
/-! What the reader of a stream leaves: nothing, or one command that has begun. It is the end of the
stream, so its length says how far the reader came, and reading on from there is reading the whole. -/
namespace MudClient.Telnet

/-- Bytes in which no subnegotiation ends: a byte 255 goes with the byte after it, which is not that
of the end. -/
inductive IsBody : Bytes → Prop where
  | nil : IsBody []
  | byte {b : UInt8} {r : Bytes} (hb : b ≠ iac) (hr : IsBody r) : IsBody (b :: r)
  | pair {b : UInt8} {r : Bytes} (hb : b ≠ Command.endSubnegotiation.code) (hr : IsBody r) :
      IsBody (iac :: b :: r)

/-- A subnegotiation ends somewhere in these bytes. -/
def Ends (t : Bytes) : Prop :=
  ∃ body rest, IsBody body ∧ t = body ++ iac :: Command.endSubnegotiation.code :: rest

/-- A command that has begun. -/
inductive IsIncomplete : Bytes → Prop where
  | alone : IsIncomplete [iac]
  | negotiation (verb : Verb) : IsIncomplete [iac, verb.code]
  | subnegotiation {t : Bytes} (h : ¬ Ends t) :
      IsIncomplete (iac :: Command.subnegotiation.code :: t)

theorem subnegotiationBody?_cons {b : UInt8} (hb : b ≠ iac) (r : Bytes) :
    subnegotiationBody? (b :: r) =
      (subnegotiationBody? r).map fun (body, rest) => (b :: body, rest) := by
  rw [subnegotiationBody?.eq_def]
  simp [hb]

theorem subnegotiationBody?_pair {b : UInt8} (hb : b ≠ Command.endSubnegotiation.code) (r : Bytes) :
    subnegotiationBody? (iac :: b :: r) =
      (subnegotiationBody? r).map fun (body, rest) => (iac :: b :: body, rest) := by
  rw [subnegotiationBody?.eq_def]
  simp [hb]

theorem subnegotiationBody?_eq_some {t body rest : Bytes} :
    subnegotiationBody? t = some (body, rest) ↔
      IsBody body ∧ t = body ++ iac :: Command.endSubnegotiation.code :: rest := by
  constructor
  · intro h
    fun_induction subnegotiationBody? t generalizing body rest with
    | case1 | case2 => cases h
    | case3 =>
      cases h
      exact ⟨.nil, rfl⟩
    | case4 b r hb ih =>
      obtain ⟨⟨inner, left⟩, hc, h⟩ := Option.map_eq_some_iff.1 h
      cases h
      obtain ⟨hi, rfl⟩ := ih hc
      exact ⟨.pair hb hi, rfl⟩
    | case5 a r ha ih =>
      obtain ⟨⟨inner, left⟩, hc, h⟩ := Option.map_eq_some_iff.1 h
      cases h
      obtain ⟨hi, rfl⟩ := ih hc
      exact ⟨.byte ha hi, rfl⟩
  · rintro ⟨hb, rfl⟩
    induction hb with
    | nil => simp [subnegotiationBody?]
    | byte hb _ ih => rw [List.cons_append, subnegotiationBody?_cons hb, ih, Option.map_some]
    | pair hb _ ih =>
      rw [List.cons_append, List.cons_append, subnegotiationBody?_pair hb, ih, Option.map_some]

theorem subnegotiationBody?_eq_none {t : Bytes} : subnegotiationBody? t = none ↔ ¬ Ends t := by
  rw [← Option.not_isSome_iff_eq_none, Option.isSome_iff_exists, Ends]
  simp only [Prod.exists, subnegotiationBody?_eq_some]

theorem commandItem?_eq_none {c : Command} {r : Bytes} :
    commandItem? c r = none ↔ IsIncomplete (iac :: c.code :: r) := by
  constructor
  · intro h
    cases c with
    | negotiation verb =>
      cases r with
      | nil => exact .negotiation verb
      | cons => cases h
    | subnegotiation =>
      exact .subnegotiation (subnegotiationBody?_eq_none.1 (Option.map_eq_none_iff.1 h))
    | _ => cases h
  · intro h
    generalize ht : iac :: c.code :: r = t at h
    have read {d : Command} (hd : c.code = d.code) : c = d :=
      Option.some.inj ((Command.ofCode?_code c).symm.trans (hd ▸ Command.ofCode?_code d))
    cases h with
    | alone => cases ht
    | negotiation verb =>
      obtain ⟨hc, rfl⟩ := List.cons.inj (List.cons.inj ht).2
      rw [read (d := .negotiation verb) hc]
      rfl
    | subnegotiation h =>
      obtain ⟨hc, rfl⟩ := List.cons.inj (List.cons.inj ht).2
      rw [read hc]
      exact Option.map_eq_none_iff.2 (subnegotiationBody?_eq_none.2 h)

theorem item?_command (c : Command) (r : Bytes) : item? (iac :: c.code :: r) = commandItem? c r := by
  have hc : c.code ≠ iac := by
    cases c with
    | negotiation verb => cases verb <;> decide
    | _ => decide
  simp [item?, hc, Command.ofCode?_code]

/-- The reader stops only at the end or at a command that has begun. -/
theorem item?_eq_none {t : Bytes} : item? t = none ↔ t = [] ∨ IsIncomplete t := by
  constructor
  · intro h
    unfold item? at h
    split at h
    · exact .inl rfl
    · split at h
      · cases h
      · rename_i a r ha
        obtain rfl : a = iac := by simpa using ha
        right
        split at h
        · exact .alone
        · split at h
          · cases h
          · split at h
            · cases h
            · rename_i b r hb c hc
              rw [← Command.code_of_ofCode? hc]
              exact commandItem?_eq_none.1 h
  · rintro (rfl | h)
    · rfl
    · cases h with
      | alone => rfl
      | negotiation verb => exact item?_command (.negotiation verb) []
      | subnegotiation h =>
        rw [item?_command, commandItem?_eq_none]
        exact .subnegotiation h

theorem commandItem?_nil (c : Command) :
    commandItem? c [] = none ∨ ∃ i, commandItem? c [] = some (i, []) := by
  cases c with
  | negotiation verb => exact .inl rfl
  | subnegotiation => exact .inl rfl
  | _ => exact .inr ⟨_, rfl⟩

/-- One byte more completes one item at most. -/
theorem item?_concat {t : Bytes} (h : item? t = none) (b : UInt8) :
    item? (t ++ [b]) = none ∨ ∃ i, item? (t ++ [b]) = some (i, []) := by
  rcases item?_eq_none.1 h with rfl | begun
  · by_cases hb : b = iac
    · exact .inl (by simp [item?, hb])
    · exact .inr ⟨.data b, by simp [item?, hb]⟩
  · cases begun with
    | alone =>
      by_cases hb : b = iac
      · exact .inr ⟨.data iac, by simp [item?, hb]⟩
      · cases hc : Command.ofCode? b with
        | none => exact .inr ⟨.nothing, by simp [item?, hb, hc]⟩
        | some c => simpa [item?, hb, hc] using commandItem?_nil c
    | negotiation verb => exact .inr ⟨_, item?_command (.negotiation verb) [b]⟩
    | @subnegotiation t open_ =>
      rw [List.cons_append, List.cons_append, item?_command]
      cases hs : subnegotiationBody? (t ++ [b]) with
      | none => exact .inl (by simp [commandItem?, hs])
      | some found =>
        obtain ⟨body, rest⟩ := found
        obtain ⟨hb, ht⟩ := subnegotiationBody?_eq_some.1 hs
        rcases List.eq_nil_or_concat rest with rfl | ⟨r, c, rfl⟩
        · exact .inr ⟨.ofBody body, by simp [commandItem?, hs]⟩
        · -- The end would stand in front of the last byte.
          have before : t ++ [b] = (body ++ iac :: Command.endSubnegotiation.code :: r) ++ [c] := by
            rw [ht]
            simp
          exact absurd ⟨body, r, hb, (List.append_inj' before rfl).1⟩ open_

theorem suffix_of_commandItem? {c : Command} {r rest : Bytes} {i : Item}
    (h : commandItem? c r = some (i, rest)) : rest <:+ r := by
  cases c with
  | negotiation verb =>
    cases r with
    | nil => cases h
    | cons =>
      cases h
      exact List.suffix_cons _ _
  | subnegotiation =>
    obtain ⟨⟨body, left⟩, hb, h⟩ := Option.map_eq_some_iff.1 h
    cases h
    obtain ⟨-, rfl⟩ := subnegotiationBody?_eq_some.1 hb
    exact ⟨body ++ [iac, Command.endSubnegotiation.code], by simp⟩
  | _ =>
    cases h
    exact List.suffix_rfl

theorem suffix_of_item? {t rest : Bytes} {i : Item} (h : item? t = some (i, rest)) : rest <:+ t := by
  unfold item? at h
  split at h
  · cases h
  · rename_i a r
    apply List.IsSuffix.trans _ (List.suffix_cons a r)
    split at h
    · cases h
      exact List.suffix_rfl
    · split at h
      · cases h
      · rename_i b r
        apply List.IsSuffix.trans _ (List.suffix_cons b r)
        split at h
        · cases h
          exact List.suffix_rfl
        · split at h
          · cases h
            exact List.suffix_rfl
          · exact suffix_of_commandItem? h

/-- What is left is the end of the stream, and no item is complete in it. -/
theorem left_parse (t : Bytes) : (parse t).left <:+ t ∧ item? (parse t).left = none := by
  unfold parse
  dsimp only
  fun_induction items t with
  | case1 t h => exact ⟨List.suffix_rfl, h⟩
  | case2 t i rest h is left hr ih =>
    rw [hr] at ih
    exact ⟨ih.1.trans (suffix_of_item? h), ih.2⟩

/-- How many bytes the complete items take. -/
def consumed (t : Bytes) : Nat := t.length - (parse t).left.length

theorem consumed_le (t : Bytes) : consumed t ≤ t.length := Nat.sub_le _ _

theorem drop_consumed (t : Bytes) : t.drop (consumed t) = (parse t).left :=
  (List.suffix_iff_eq_drop.1 (left_parse t).1).symm

theorem parse_of_none {t : Bytes} (h : item? t = none) : parse t = ⟨[], [], t⟩ := by
  rw [parse, items_of_none h]
  rfl

/-- One byte more gives text or an event, and not both. -/
theorem parse_concat {t : Bytes} (h : item? t = none) (b : UInt8) :
    (parse (t ++ [b])).data = [] ∨ (parse (t ++ [b])).events = [] := by
  rcases item?_concat h b with hn | ⟨i, hi⟩
  · rw [parse_of_none hn]
    exact .inl rfl
  · rw [parse, items_of_some hi, items_of_none rfl]
    cases i <;> simp [Item.data?, Item.event?]

/-- Reading a stream in two pieces is reading it at once, and what the first piece leaves is nothing
or a command that has begun, in which nothing can be read yet. -/
theorem parse_resume (a b : Bytes) :
    let left := a.drop (consumed a)
    (parse (a ++ b)).data = (parse a).data ++ (parse (left ++ b)).data ∧
      (parse (a ++ b)).events = (parse a).events ++ (parse (left ++ b)).events ∧
      consumed (a ++ b) = consumed a + consumed (left ++ b) ∧
      consumed a ≤ a.length ∧ (left = [] ∨ IsIncomplete left) ∧
      (parse left).data = [] ∧ (parse left).events = [] ∧ consumed left = 0 := by
  intro left
  obtain ⟨hs, hn⟩ := left_parse a
  have hl : left = (parse a).left := drop_consumed a
  have whole := parse_append a b
  have alone : parse left = ⟨[], [], left⟩ := parse_of_none (hl ▸ hn)
  have count : consumed (a ++ b) = consumed a + consumed (left ++ b) := by
    have rest : (parse (left ++ b)).left.length ≤ (left ++ b).length :=
      (left_parse _).1.length_le
    have first := hs.length_le
    unfold consumed
    rw [whole, ← hl]
    simp only [List.length_append, hl] at rest ⊢
    omega
  refine ⟨?_, ?_, count, consumed_le a, item?_eq_none.1 (hl ▸ hn), ?_, ?_, ?_⟩
  · rw [whole, hl]
  · rw [whole, hl]
  · rw [alone]
  · rw [alone]
  · rw [consumed, alone, Nat.sub_self]

/-- Between the bytes 255 and 240 of the end of a subnegotiation. -/
example : consumed [0x61, 255, 250, 201, 0x78, 255] = 1 ∧
    consumed [255, 250, 201, 0x78, 255, 240, 0x21] = 7 := by decide +kernel

end MudClient.Telnet
