import MudClient.Text
/-! Finite maps from names to values. The entries stand in the order of their names, so two maps
that answer every look-up alike are equal, and listing a map shows name order. -/
namespace MudClient

/-- The names grow strictly along the list. -/
structure NameMap (α : Type) where
  entries : List (Text × α)
  sorted : entries.Pairwise fun a b => a.1 < b.1

namespace NameMap

instance : Trans (α := Char) (· < ·) (· < ·) (· < ·) := ⟨Char.lt_trans⟩

theorem lt_or_eq_or_gt (a b : Text) : a < b ∨ a = b ∨ b < a := by
  by_cases h : a < b
  · exact .inl h
  · by_cases g : b < a
    · exact .inr (.inr g)
    · exact .inr (.inl (List.le_antisymm (List.not_lt.1 g) (List.not_lt.1 h)))

variable {α : Type}

/-- Puts an entry where its name belongs, in place of an entry of the same name. -/
def insertEntry (k : Text) (v : α) : List (Text × α) → List (Text × α)
  | [] => [(k, v)]
  | e :: r =>
    if k < e.1 then (k, v) :: e :: r
    else if k = e.1 then (k, v) :: r
    else e :: insertEntry k v r

theorem fst_of_mem_insertEntry {k : Text} {v : α} {e : Text × α} {l : List (Text × α)}
    (h : e ∈ insertEntry k v l) : e = (k, v) ∨ e ∈ l := by
  induction l with
  | nil => exact .inl (by simpa [insertEntry] using h)
  | cons d r ih =>
    rw [insertEntry] at h
    split at h
    · simpa using h
    · split at h
      · rcases List.mem_cons.1 h with h | h
        · exact .inl h
        · exact .inr (List.mem_cons_of_mem _ h)
      · rcases List.mem_cons.1 h with h | h
        · exact .inr (h ▸ List.mem_cons_self)
        · exact (ih h).imp id (List.mem_cons_of_mem _)

theorem sorted_insertEntry (k : Text) (v : α) {l : List (Text × α)}
    (h : l.Pairwise fun a b => a.1 < b.1) :
    (insertEntry k v l).Pairwise fun a b => a.1 < b.1 := by
  induction l with
  | nil => exact List.pairwise_singleton ..
  | cons d r ih =>
    obtain ⟨hd, hr⟩ := List.pairwise_cons.1 h
    rw [insertEntry]
    split
    · rename_i hk
      refine List.pairwise_cons.2 ⟨fun e he => ?_, h⟩
      rcases List.mem_cons.1 he with rfl | he
      · exact hk
      · exact List.lt_trans hk (hd e he)
    · split
      · rename_i hk
        exact List.pairwise_cons.2 ⟨fun e he => hk ▸ hd e he, hr⟩
      · rename_i hlt hne
        refine List.pairwise_cons.2 ⟨fun e he => ?_, ih hr⟩
        rcases fst_of_mem_insertEntry he with rfl | he
        · exact (lt_or_eq_or_gt d.1 k).resolve_right fun h =>
            h.elim (fun h => hne h.symm) hlt
        · exact hd e he

def empty : NameMap α := ⟨[], .nil⟩

instance : EmptyCollection (NameMap α) := ⟨empty⟩
instance : Inhabited (NameMap α) := ⟨empty⟩

def insert (m : NameMap α) (k : Text) (v : α) : NameMap α :=
  ⟨insertEntry k v m.entries, sorted_insertEntry k v m.sorted⟩

def erase (m : NameMap α) (k : Text) : NameMap α :=
  ⟨m.entries.filter (·.1 ≠ k), m.sorted.sublist List.filter_sublist⟩

def get? (m : NameMap α) (k : Text) : Option α := (m.entries.find? (·.1 = k)).map (·.2)

def contains (m : NameMap α) (k : Text) : Bool := (m.get? k).isSome

def names (m : NameMap α) : List Text := m.entries.map (·.1)

def size (m : NameMap α) : Nat := m.entries.length

def isEmpty (m : NameMap α) : Bool := m.entries.isEmpty

/-- A later entry replaces an earlier one of the same name. -/
def ofList (l : List (Text × α)) : NameMap α := l.foldl (fun m e => m.insert e.1 e.2) ∅

instance [DecidableEq α] : DecidableEq (NameMap α) := fun m n =>
  decidable_of_iff (m.entries = n.entries)
    ⟨fun h => by cases m; cases n; simp_all, fun h => h ▸ rfl⟩

theorem find?_insertEntry (k j : Text) (v : α) (l : List (Text × α)) :
    ((insertEntry k v l).find? (·.1 = j)).map (·.2) =
      if k = j then some v else (l.find? (·.1 = j)).map (·.2) := by
  induction l with
  | nil => by_cases h : k = j <;> simp [insertEntry, h]
  | cons e r ih =>
    rw [insertEntry]
    split
    · by_cases h : k = j <;> simp [h]
    · split
      · rename_i hk
        by_cases h : k = j
        · simp [h]
        · simp [h, show e.1 ≠ j from fun he => h (hk.trans he)]
      · rename_i hk
        by_cases h : e.1 = j
        · simp [h, show k ≠ j from fun hj => hk (hj.trans h.symm)]
        · simpa [h] using ih

@[simp] theorem get?_insert (m : NameMap α) (k j : Text) (v : α) :
    (m.insert k v).get? j = if k = j then some v else m.get? j :=
  find?_insertEntry k j v m.entries

@[simp] theorem get?_erase (m : NameMap α) (k j : Text) :
    (m.erase k).get? j = if k = j then none else m.get? j := by
  simp only [get?, erase]
  induction m.entries with
  | nil => simp
  | cons e r ih =>
    by_cases h : e.1 = k
    · simp only [h, ne_eq, not_true_eq_false, decide_false, Bool.false_eq_true, not_false_eq_true,
        List.filter_cons_of_neg]
      by_cases hj : k = j <;> simp_all
    · simp only [ne_eq, h, not_false_eq_true, decide_true, List.filter_cons_of_pos]
      by_cases hj : e.1 = j
      · simp [hj, show k ≠ j from fun hk => h (hj.trans hk.symm)]
      · simpa [hj] using ih

theorem insertEntry_of_forall_lt {k : Text} {v : α} {l : List (Text × α)} (h : ∀ e ∈ l, e.1 < k) :
    insertEntry k v l = l ++ [(k, v)] := by
  induction l with
  | nil => rfl
  | cons e r ih =>
    obtain ⟨he, hr⟩ := List.forall_mem_cons.1 h
    rw [insertEntry, if_neg (List.lt_asymm he), if_neg (fun hk => List.lt_irrefl _ (hk ▸ he)), ih hr]
    rfl

theorem entries_foldl_insert {m : NameMap α} {more : List (Text × α)}
    (h : (m.entries ++ more).Pairwise fun a b => a.1 < b.1) :
    (more.foldl (fun m e => m.insert e.1 e.2) m).entries = m.entries ++ more := by
  induction more generalizing m with
  | nil => simp
  | cons e more ih =>
    have later : ∀ d ∈ m.entries, d.1 < e.1 := fun d hd =>
      (List.pairwise_append.1 h).2.2 d hd e List.mem_cons_self
    have step : (m.insert e.1 e.2).entries = m.entries ++ [e] := insertEntry_of_forall_lt later
    rw [List.foldl_cons, ih (by simpa [step] using h), step]
    simp

/-- A map comes back from the list of its entries. -/
theorem ofList_entries (m : NameMap α) : ofList m.entries = m := by
  have entries : (ofList m.entries).entries = m.entries := entries_foldl_insert m.sorted
  obtain ⟨l, hl⟩ := m
  generalize ofList _ = n at entries ⊢
  cases n
  cases entries
  rfl

end NameMap
end MudClient
