import Mathlib.Data.List.DropRight
import MudClient.Proofs.World.Rule
/-! Rosters and what was done to them. What stands in a roster, and in which order, can be told from
the history of each key by itself: an item is the last one that was put in since its key was last
taken out, and it stands where the first one came. -/
namespace MudClient.Roster

/-- What is done to a roster. -/
inductive Edit (α κ : Type) where
  | put (item : α)
  | remove (k : κ)
  | clear

section

variable {α κ : Type} [Keyed α κ] [DecidableEq κ]

open Keyed (key)

def edit (r : Roster α) : Edit α κ → Roster α
  | .put item => r.put item
  | .remove k => r.remove k
  | .clear => ∅

def after (history : List (Edit α κ)) : Roster α := history.foldl edit ∅

/-- Takes a key out. -/
def Edit.drops (k : κ) : Edit α κ → Bool
  | .put _ => false
  | .remove l => l = k
  | .clear => true

/-- The item that is put in under a key. -/
def Edit.item? (k : κ) : Edit α κ → Option α
  | .put item => if key item = k then some item else none
  | .remove _ => none
  | .clear => none

/-- The part of a history since a key was last taken out. -/
def since (k : κ) (history : List (Edit α κ)) : List (Edit α κ) :=
  history.rtakeWhile (!·.drops k)

/-- The last item that was put in under a key since it was last taken out. -/
def latest? (k : κ) (history : List (Edit α κ)) : Option α :=
  ((since k history).filterMap (·.item? k)).getLast?

/-- The time at which a key came first since it was last taken out. -/
def arrival (k : κ) (history : List (Edit α κ)) : Nat :=
  history.length - (since k history).length +
    (since k history).findIdx fun e => (e.item? k).isSome

variable {k l : κ} {item x : α} {items : List α} {history : List (Edit α κ)} {e : Edit α κ}

theorem after_append (history : List (Edit α κ)) (e : Edit α κ) :
    after (history ++ [e]) = (after history).edit e :=
  List.foldl_concat ..

omit [Keyed α κ] in
theorem since_append_of_drops (h : e.drops k) (history : List (Edit α κ)) :
    since k (history ++ [e]) = [] :=
  List.rtakeWhile_concat_neg _ _ _ (by simp [h])

omit [Keyed α κ] in
theorem since_append_of_not_drops (h : e.drops k = false) (history : List (Edit α κ)) :
    since k (history ++ [e]) = since k history ++ [e] :=
  List.rtakeWhile_concat_pos _ _ _ (by simp [h])

omit [Keyed α κ] in
theorem length_since_le (k : κ) (history : List (Edit α κ)) :
    (since k history).length ≤ history.length :=
  (List.rtakeWhile_suffix _ _).length_le

theorem latest?_append (k : κ) (history : List (Edit α κ)) (e : Edit α κ) :
    latest? k (history ++ [e]) =
      if e.drops k then none else (e.item? k).or (latest? k history) := by
  unfold latest?
  split
  case isTrue h => rw [since_append_of_drops h]; rfl
  case isFalse h =>
    rw [since_append_of_not_drops (Bool.eq_false_iff.2 h), List.filterMap_append,
      List.getLast?_append]
    congr 1
    cases hi : e.item? k <;> simp [hi]

theorem latest?_put (k : κ) (history : List (Edit α κ)) (item : α) :
    latest? k (history ++ [.put item]) =
      if key item = k then some item else latest? k history := by
  rw [latest?_append]
  by_cases h : key item = k <;> simp [Edit.drops, Edit.item?, h]

theorem latest?_remove (k l : κ) (history : List (Edit α κ)) :
    latest? k (history ++ [.remove l]) = if l = k then none else latest? k history := by
  rw [latest?_append]
  by_cases h : l = k <;> simp [Edit.drops, Edit.item?, h]

theorem latest?_clear (k : κ) (history : List (Edit α κ)) :
    latest? k (history ++ [.clear]) = none := by
  rw [latest?_append]
  rfl

theorem key_latest? (h : latest? k history = some x) : key x = k := by
  obtain ⟨e, -, hi⟩ := List.mem_filterMap.1 (List.mem_of_getLast? h)
  cases e with
  | put item =>
    rw [Edit.item?, Option.ite_none_right_eq_some] at hi
    obtain ⟨hk, he⟩ := hi
    exact Option.some.inj he ▸ hk
  | remove l => cases hi
  | clear => cases hi

theorem isSome_latest? : (latest? k history).isSome ↔
    ((since k history).findIdx fun e => (e.item? k).isSome) < (since k history).length := by
  rw [List.findIdx_lt_length, latest?, Option.isSome_iff_ne_none, Ne, List.getLast?_eq_none_iff,
    List.filterMap_eq_nil_iff]
  simp [Option.isSome_iff_ne_none]

/-- A key that stands came some time in the history. -/
theorem arrival_lt (h : (latest? k history).isSome) : arrival k history < history.length := by
  have := isSome_latest?.1 h
  have := length_since_le k history
  unfold arrival
  omega

/-- Whatever is done leaves the arrival of a key that stands alone, unless the key is taken out. -/
theorem arrival_append (h : (latest? k history).isSome) (he : e.drops k = false) :
    arrival k (history ++ [e]) = arrival k history := by
  rw [arrival, since_append_of_not_drops he, List.findIdx_append, if_pos (isSome_latest?.1 h),
    arrival, List.length_append, List.length_append, Nat.add_sub_add_right]

theorem arrival_put (h : latest? (key item) history = none) :
    arrival (key item) (history ++ [.put item]) = history.length := by
  have := length_since_le (key item) history
  have absent := mt isSome_latest?.2 (Option.not_isSome_iff_eq_none.2 h)
  have first : [Edit.put item].findIdx (fun e => (e.item? (key item)).isSome) = 0 := by
    simp [Edit.item?]
  rw [arrival, since_append_of_not_drops rfl, List.findIdx_append, if_neg absent, first,
    List.length_append, List.length_append, Nat.add_sub_add_right]
  omega

theorem map_key_putItem (h : key item ∈ items.map key) :
    (putItem item items).map key = items.map key := by
  induction items with
  | nil => cases h
  | cons x r ih =>
    rw [putItem]
    split
    case isTrue hk => rw [List.map_cons, List.map_cons, hk]
    case isFalse hk =>
      rw [List.map_cons, List.map_cons, ih ((List.mem_cons.1 h).resolve_left (Ne.symm hk))]

theorem mem_putItem_iff (h : (items.map key).Nodup) :
    x ∈ putItem item items ↔ x = item ∨ x ∈ items ∧ key x ≠ key item := by
  induction items with
  | nil => simp [putItem]
  | cons y r ih =>
    obtain ⟨hy, hr⟩ := List.nodup_cons.1 h
    have others : ∀ z ∈ r, key z ≠ key y := fun z hz he => hy (he ▸ List.mem_map_of_mem hz)
    rw [putItem]
    split
    case isTrue hk => grind
    case isFalse hk => grind

theorem items_remove {r : Roster α} (h : r.IsDistinct) (k : κ) :
    (r.remove k).items = r.items.filter fun x => key x ≠ k := by
  obtain ⟨items⟩ := r
  unfold remove IsDistinct at *
  dsimp only at h ⊢
  induction items with
  | nil => rfl
  | cons y r ih =>
    obtain ⟨hy, hr⟩ := List.nodup_cons.1 h
    by_cases hk : key y = k
    · rw [List.eraseP_cons_of_pos (by simpa using hk), List.filter_cons_of_neg (by simpa using hk)]
      refine (List.filter_eq_self.2 fun x hx => ?_).symm
      exact decide_eq_true fun he => hy (hk ▸ he ▸ List.mem_map_of_mem hx)
    · rw [List.eraseP_cons_of_neg (by simpa using hk), List.filter_cons_of_pos (by simpa using hk),
        ih hr]

@[simp] theorem items_empty : (∅ : Roster α).items = [] := rfl

/-- What stands in a roster, and in which order. -/
structure Accords (history : List (Edit α κ)) (r : Roster α) : Prop where
  mem : ∀ x, x ∈ r.items ↔ latest? (key x) history = some x
  ordered : (r.items.map key).Pairwise fun k l => arrival k history < arrival l history

namespace Accords

variable {r : Roster α}

theorem isDistinct (h : Accords history r) : r.IsDistinct := by
  refine List.Pairwise.imp (fun {k l} earlier same => ?_) h.ordered
  exact Nat.lt_irrefl _ (same ▸ earlier)

theorem isSome (h : Accords history r) (hk : k ∈ r.items.map key) :
    (latest? k history).isSome := by
  obtain ⟨x, hx, rfl⟩ := List.mem_map.1 hk
  rw [(h.mem x).1 hx]
  rfl

/-- A key of which something was put in last has that item in the roster. -/
theorem key_mem (h : Accords history r) (hk : (latest? k history).isSome) :
    k ∈ r.items.map key := by
  obtain ⟨x, hx⟩ := Option.isSome_iff_exists.1 hk
  obtain rfl := key_latest? hx
  exact List.mem_map_of_mem ((h.mem x).2 hx)

theorem put (h : Accords history r) (item : α) :
    Accords (history ++ [.put item]) (r.put item) where
  mem x := by
    rw [latest?_put, Roster.put, mem_putItem_iff h.isDistinct]
    split
    case isTrue same => simp [same, eq_comm]
    case isFalse other =>
      have distinct : x ≠ item := fun he => other (he ▸ rfl)
      rw [h.mem, or_iff_right distinct, and_iff_left (Ne.symm other)]
  ordered := by
    have kept : (r.items.map key).Pairwise fun k l =>
        arrival k (history ++ [.put item]) < arrival l (history ++ [.put item]) := by
      refine h.ordered.imp_of_mem fun hk hl earlier => ?_
      rwa [arrival_append (h.isSome hk) rfl, arrival_append (h.isSome hl) rfl]
    by_cases present : key item ∈ r.items.map key
    · rwa [Roster.put, map_key_putItem present]
    · have absent : latest? (key item) history = none :=
        Option.not_isSome_iff_eq_none.1 (mt h.key_mem present)
      rw [items_put_of_not_mem present, List.map_append, List.map_singleton]
      refine List.pairwise_append.2 ⟨kept, List.pairwise_singleton .., fun k hk l hl => ?_⟩
      rw [List.mem_singleton.1 hl, arrival_put absent, arrival_append (h.isSome hk) rfl]
      exact arrival_lt (h.isSome hk)

theorem remove (h : Accords history r) (k : κ) :
    Accords (history ++ [.remove k]) (r.remove k) where
  mem x := by
    rw [latest?_remove, items_remove h.isDistinct, List.mem_filter, h.mem, decide_eq_true_eq]
    split
    case isTrue same => simp [same]
    case isFalse other => exact and_iff_left (Ne.symm other)
  ordered := by
    have kept : ((r.items.filter fun x => key x ≠ k).map key).Sublist (r.items.map key) :=
      List.filter_sublist.map _
    rw [items_remove h.isDistinct]
    refine (h.ordered.sublist kept).imp_of_mem fun {l m} hl hm earlier => ?_
    have stays : ∀ l ∈ (r.items.filter fun x => key x ≠ k).map key,
        Edit.drops l (.remove k : Edit α κ) = false := by
      intro l hl
      obtain ⟨x, hx, rfl⟩ := List.mem_map.1 hl
      exact decide_eq_false (Ne.symm (of_decide_eq_true (List.mem_filter.1 hx).2))
    rwa [arrival_append (h.isSome (kept.subset hl)) (stays l hl),
      arrival_append (h.isSome (kept.subset hm)) (stays m hm)]

end Accords

/-- The order of a roster is that in which its keys came, and each item is the last of its key. -/
theorem accords_after (history : List (Edit α κ)) : Accords history (after history) := by
  induction history using List.reverseRecOn with
  | nil => exact ⟨fun x => by simp [after, latest?, since], .nil⟩
  | append_singleton history e ih =>
    rw [after_append]
    cases e with
    | put item => exact ih.put item
    | remove k => exact ih.remove k
    | clear => exact ⟨fun x => by simp [edit, latest?_clear], .nil⟩

/-- What is put in again stays where it is, unless it was taken out in between. -/
example : (after [.put (Channel.create ['a']), .put (.create ['b']), .remove ['a'],
    .put (.create ['b']), .put (.create ['a'])]).items.map key = [['b'], ['a']] := by
  decide

end

end MudClient.Roster
