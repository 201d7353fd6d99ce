import Mathlib.Data.List.TakeWhile
import MudClient.Lua.Block
/-! Tables that hold one value after the other, at 1, 2, … A program that only puts values at the end
of such a table finds them there in the same order. -/
namespace MudClient.Lua

namespace Value

/-- Numbers that a key can hold are different keys. -/
theorem eq_int {i j : Nat} (hi : i < Nat.pow 2 63) (hj : j < Nat.pow 2 63) :
    (int i).eq (int j) = decide (i = j) := by
  have back {n : Nat} (hn : n < Nat.pow 2 63) : (Int64.ofInt n).toInt = n :=
    Int64.toInt_ofInt_of_le (by omega) (by have : Nat.pow 2 63 = 2 ^ 63 := rfl; omega)
  have key : Int64.ofInt i = Int64.ofInt j ↔ i = j := by
    refine ⟨fun h => ?_, fun h => h ▸ rfl⟩
    have := congrArg Int64.toInt h
    rw [back hi, back hj] at this
    exact Int.ofNat_inj.1 this
  rw [Bool.eq_iff_iff, decide_eq_true_iff]
  exact (beq_iff_eq (a := Int64.ofInt i)).trans key

@[simp] theorem toText?_str_encode (t : Text) : toText? (.str (Token.encode t)) = some t := by
  have bytes : ByteArray.mk (Token.encode t).toArray = (String.ofList t).toByteArray := by
    rw [String.toByteArray_ofList]
    exact ByteArray.ext (by rw [List.utf8Encode, List.data_toByteArray]; rfl)
  have valid : (ByteArray.mk (Token.encode t).toArray).IsValidUTF8 :=
    bytes ▸ (String.ofList t).isValidUTF8
  have read : String.fromUTF8 _ valid = String.ofList t := String.toByteArray_inj.1 bytes
  simp only [toText?, toBytes?, Option.bind_some, String.fromUTF8?, dif_pos valid, read,
    Option.map_some, String.toList_ofList]

end Value

namespace Table

/-- Values at consecutive numbers from `start` on. -/
def itemsFrom (start : Nat) (vs : List Value) : List (Value × Value) :=
  (vs.zipIdx start).map fun (v, i) => (.int i, v)

/-- The table that holds one value after the other. -/
def ofItems (vs : List Value) : Table := ⟨(itemsFrom 1 vs).toArray, 0⟩

@[simp] theorem size_entries_ofItems (vs : List Value) : (ofItems vs).entries.size = vs.length := by
  simp [ofItems, itemsFrom]

@[simp] theorem map_snd_itemsFrom (start : Nat) (vs : List Value) :
    (itemsFrom start vs).map (·.2) = vs := by
  simp [itemsFrom, Function.comp_def]

theorem find?_itemsFrom (start : Nat) (vs : List Value) {j : Nat} (hj : j < Nat.pow 2 63)
    (fits : start + vs.length ≤ Nat.pow 2 63) :
    (itemsFrom start vs).find? (·.1.eq (.int j)) =
      if start ≤ j then vs[j - start]?.map fun v => (.int j, v) else none := by
  induction vs generalizing start with
  | nil => simp [itemsFrom]
  | cons v vs ih =>
    rw [List.length_cons] at fits
    have step : itemsFrom start (v :: vs) = (.int start, v) :: itemsFrom (start + 1) vs := by
      simp [itemsFrom]
    rw [step, List.find?_cons, Value.eq_int (by omega) hj, ih (start + 1) (by omega)]
    by_cases here : start = j
    · simp [here]
    · by_cases before : start ≤ j
      · have next : j - start = (j - (start + 1)) + 1 := by omega
        simp [here, before, next, show start + 1 ≤ j by omega]
      · simp [here, before, show ¬ start + 1 ≤ j by omega]

theorem getInt_ofItems {vs : List Value} {i : Nat} (hi : i + 1 < Nat.pow 2 63)
    (fits : vs.length < Nat.pow 2 63) : (ofItems vs).getInt (i + 1) = vs[i]?.getD .nil := by
  have found := find?_itemsFrom 1 vs hi (by omega)
  rw [if_pos (by omega), Nat.add_sub_cancel] at found
  change (((ofItems vs).entries.find? (·.1.eq (.int (i + 1 : Nat)))).map (·.2)).getD .nil = _
  rw [← Array.find?_toList]
  simp only [ofItems, found, Option.map_map]
  cases vs[i]? <;> rfl

/-- A value put behind the last one. -/
theorem set_ofItems (vs : List Value) {v : Value} (fits : vs.length + 1 < Nat.pow 2 63)
    (hv : v.isNil = false) :
    (ofItems vs).set (.int (vs.length + 1 : Nat)) v = ofItems (vs ++ [v]) := by
  have absent : (ofItems vs).entries.findIdx? (·.1.eq (.int (vs.length + 1 : Nat))) = none := by
    have none := find?_itemsFrom 1 vs fits (by omega)
    rw [if_pos (by omega), Nat.add_sub_cancel, List.getElem?_eq_none (Nat.le_refl _)] at none
    rw [Array.findIdx?_eq_none_iff]
    exact fun e he => by simpa using List.find?_eq_none.1 none e (by simpa [ofItems] using he)
  have key : (Value.int (vs.length + 1 : Nat)).asKey = .int (vs.length + 1 : Nat) := rfl
  simp only [set, key, absent, hv, Bool.false_eq_true, if_false]
  simp [ofItems, itemsFrom, List.zipIdx_append, Nat.add_comm]

variable {vs : List Value}

theorem borderAbove_ofItems (full : ∀ v ∈ vs, v.isNil = false) (fits : vs.length + 1 < Nat.pow 2 63)
    {fuel i : Nat} (hi : i ≤ vs.length) (enough : vs.length ≤ i + fuel) :
    (ofItems vs).borderAbove fuel i = vs.length := by
  induction fuel generalizing i with
  | zero => exact Nat.le_antisymm hi enough
  | succ fuel ih =>
    rw [borderAbove, getInt_ofItems (by omega) (by omega)]
    by_cases last : i = vs.length
    · simp [last, Value.isNil]
    · have inside : i < vs.length := by omega
      rw [List.getElem?_eq_getElem inside, Option.getD_some, full _ (List.getElem_mem inside)]
      exact ih inside (by omega)

theorem length_ofItems (full : ∀ v ∈ vs, v.isNil = false) (fits : vs.length + 1 < Nat.pow 2 63) :
    (ofItems vs).length = vs.length := by
  have reserved : (ofItems vs).reserved = 0 := rfl
  rw [length, if_pos reserved, size_entries_ofItems]
  exact borderAbove_ofItems full fits (Nat.zero_le _) (by omega)

theorem sequence_ofItems (full : ∀ v ∈ vs, v.isNil = false) (fits : vs.length < Nat.pow 2 63) :
    (ofItems vs).sequence = vs := by
  have items : (List.range vs.length).map (fun i => (ofItems vs).getInt (i + 1)) = vs := by
    refine List.ext_getElem (by simp) fun i hi hi' => ?_
    rw [List.getElem_map, List.getElem_range, getInt_ofItems (by omega) fits,
      List.getElem?_eq_getElem hi', Option.getD_some]
  rw [sequence, size_entries_ofItems, items, List.takeWhile_eq_self_iff]
  exact fun v hv => by rw [full v hv]; rfl

end Table
end MudClient.Lua
