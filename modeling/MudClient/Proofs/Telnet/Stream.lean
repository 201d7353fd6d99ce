import MudClient.Telnet.Item
/-! Reading a stream of bytes piece by piece. An item that is complete is read the same whatever
follows it, so a stream in two pieces has the items of the whole. -/
namespace MudClient.Telnet

theorem subnegotiationBody?_append {t body rest : Bytes} (more : Bytes)
    (h : subnegotiationBody? t = some (body, rest)) :
    subnegotiationBody? (t ++ more) = some (body, rest ++ more) := by
  fun_induction subnegotiationBody? t generalizing body rest with
  | case1 | case2 => cases h
  | case3 =>
    cases h
    simp [subnegotiationBody?]
  | case4 b r hb ih =>
    obtain ⟨⟨inner, left⟩, hc, h⟩ := Option.map_eq_some_iff.1 h
    cases h
    simp [subnegotiationBody?, hb, ih hc]
  | case5 a r ha ih =>
    obtain ⟨⟨inner, left⟩, hc, h⟩ := Option.map_eq_some_iff.1 h
    cases h
    rw [List.cons_append, subnegotiationBody?.eq_def]
    simp [ha, ih hc]

theorem commandItem?_append {c : Command} {r rest : Bytes} {i : Item} (more : Bytes)
    (h : commandItem? c r = some (i, rest)) :
    commandItem? c (r ++ more) = some (i, rest ++ more) := by
  cases c with
  | negotiation verb =>
    cases r with
    | nil => cases h
    | cons option r =>
      cases h
      rfl
  | subnegotiation =>
    obtain ⟨⟨body, left⟩, hc, h⟩ := Option.map_eq_some_iff.1 h
    cases h
    simp [commandItem?, subnegotiationBody?_append more hc]
  | _ =>
    cases h
    rfl

/-- An item that is complete stays as it is when more bytes come. -/
theorem item?_append {t rest : Bytes} {i : Item} (more : Bytes) (h : item? t = some (i, rest)) :
    item? (t ++ more) = some (i, rest ++ more) := by
  unfold item? at h
  split at h
  · cases h
  · rename_i a r
    split at h
    · rename_i ha
      cases h
      simp [item?, ha]
    · rename_i ha
      split at h
      · cases h
      · rename_i b r
        split at h
        · rename_i hb
          cases h
          simp [item?, ha, hb]
        · rename_i hb
          split at h
          · rename_i hc
            cases h
            simp [item?, ha, hb, hc]
          · rename_i c hc
            simp [item?, ha, hb, hc, commandItem?_append more h]

theorem items_of_none {t : Bytes} (h : item? t = none) : items t = ([], t) := by
  rw [items]
  split
  · rfl
  · simp_all

theorem items_of_some {t rest : Bytes} {i : Item} (h : item? t = some (i, rest)) :
    items t = (i :: (items rest).1, (items rest).2) := by
  rw [items]
  split
  · simp_all
  · simp_all

/-- What is left of the first piece is read again with the second. -/
theorem items_append (a b : Bytes) : items (a ++ b) =
    ((items a).1 ++ (items ((items a).2 ++ b)).1, (items ((items a).2 ++ b)).2) := by
  fun_induction items a with
  | case1 a h => simp
  | case2 a i rest h is left hr ih =>
    rw [items_of_some (item?_append b h), ih]
    simp [hr]

theorem parse_append (a b : Bytes) : parse (a ++ b) =
    ⟨(parse a).data ++ (parse ((parse a).left ++ b)).data,
      (parse a).events ++ (parse ((parse a).left ++ b)).events,
      (parse ((parse a).left ++ b)).left⟩ := by
  simp only [parse, items_append a b, List.filterMap_append]

end MudClient.Telnet
