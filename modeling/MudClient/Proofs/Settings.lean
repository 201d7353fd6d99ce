import MudClient.Proofs.Json.Written
import MudClient.Settings
/-! Settings are read back from their file, whatever texts and numbers they have. -/
namespace MudClient.Settings

/-- What the members of the file are read as. -/
def values (s : Settings) : List Json :=
  [.string (some s.name), .string (some s.host), .number (Text.ofNat s.port.toNat),
    .string (some s.encoding), .string (some s.commandStacking), .bool s.speech, .bool s.braille,
    .number (Text.ofNat s.tickMillis.toNat)]

def members (s : Settings) : List (Option Text × Json) :=
  (memberNames.map fun name => some name.toList).zip s.values

open Json Json.Reader in
theorem isMember_written (s : Settings) : List.Forall₂ IsMember s.written s.members :=
  .cons ⟨rfl, isWritten_quote _⟩ <| .cons ⟨rfl, isWritten_quote _⟩ <|
  .cons ⟨rfl, isWritten_ofNat _⟩ <| .cons ⟨rfl, isWritten_quote _⟩ <|
  .cons ⟨rfl, isWritten_quote _⟩ <| .cons ⟨rfl, isWritten_bool _⟩ <|
  .cons ⟨rfl, isWritten_bool _⟩ <| .cons ⟨rfl, isWritten_ofNat _⟩ .nil

theorem nat?_ofNat {bound n : Nat} (h : n < bound) :
    nat? bound (.number (Text.ofNat n)) = some n := by
  have value : Nat.ofDigitChars 10 (Text.ofNat n) 0 = n :=
    Nat.ofDigitChars_toDigits (by decide) (by decide)
  have digits : (Text.ofNat n).all Char.isDigit := List.all_eq_true.2 Json.Reader.isDigit_ofNat
  simp [nat?, value, digits, h]

theorem ofMembers?_eq (s : Settings) {member : String → Option Json}
    (h : memberNames.map member = s.values.map some) : ofMembers? member = some s := by
  simp only [memberNames, values, List.map_cons, List.map_nil, List.cons.injEq, and_true] at h
  obtain ⟨name, host, port, encoding, stacking, speech, braille, tick⟩ := h
  have portRead := nat?_ofNat s.port.toNat_lt
  have tickRead := nat?_ofNat s.tickMillis.toNat_lt
  simp [ofMembers?, name, host, port, encoding, stacking, speech, braille, tick, text?, bool?,
    readOr, UInt16.size, UInt64.size, portRead, tickRead, create]

/-- Each of different names finds its own member. -/
theorem map_filter_zip {names : List Text} {js : List Json} (hn : names.Nodup)
    (hl : names.length = js.length) :
    names.map (fun name => ((names.zip js).filter (·.1 = name)).map (·.2)) = js.map ([·]) := by
  induction names generalizing js with
  | nil => rw [List.length_eq_zero_iff.1 hl.symm]; rfl
  | cons name names ih =>
    obtain ⟨j, js, rfl⟩ := List.exists_cons_of_length_eq_add_one hl.symm
    obtain ⟨fresh, hn⟩ := List.nodup_cons.1 hn
    have own : (names.zip js).filter (·.1 = name) = [] := by
      refine List.filter_eq_nil_iff.2 fun m hm same => fresh ?_
      have same : m.1 = name := by simpa using same
      rw [← same]
      exact (List.of_mem_zip hm).1
    have others (other : Text) (ho : other ∈ names) :
        (((name :: names).zip (j :: js)).filter (·.1 = other)).map (·.2) =
          ((names.zip js).filter (·.1 = other)).map (·.2) := by
      have differ : name ≠ other := fun same => fresh (same ▸ ho)
      rw [List.zip_cons_cons, List.filter_cons_of_neg (by simpa using differ)]
    rw [List.map_cons, List.map_cons, List.map_congr_left others, ih hn (Nat.succ.inj hl)]
    simp [own]

/-- The members of one name. -/
def found (s : Settings) (name : String) : List Json :=
  (((memberNames.map String.toList).zip s.values).filter (·.1 = name.toList)).map (·.2)

theorem map_found (s : Settings) : memberNames.map s.found = s.values.map ([·]) := by
  have distinct : (memberNames.map String.toList).Nodup := by decide
  have all := map_filter_zip distinct (rfl : _ = s.values.length)
  rwa [List.map_map] at all

theorem ofJson?_members (s : Settings) : ofJson? (.object s.members) = some s := by
  have once : memberNames.any (fun name => 1 < (s.found name).length) = false := by
    refine List.any_eq_false.2 fun name hn => ?_
    have listed := List.mem_map_of_mem (f := s.found) hn
    rw [map_found] at listed
    obtain ⟨j, -, hj⟩ := List.mem_map.1 listed
    simp [← hj]
  have firsts : memberNames.map (fun name => (s.found name).head?) = s.values.map some := by
    have heads := congrArg (List.map List.head?) s.map_found
    simpa [Function.comp_def] using heads
  show (if memberNames.any (fun name => 1 < (s.found name).length) then none
    else ofMembers? fun name => (s.found name).head?) = some s
  rw [once]
  exact s.ofMembers?_eq firsts

theorem ofText?_toText (s : Settings) : ofText? s.toText = some s := by
  rw [ofText?, toText, Json.read?_prettyObject s.isMember_written (by simp [written, memberNames]),
    Option.bind_some, ofJson?_members]

end MudClient.Settings
