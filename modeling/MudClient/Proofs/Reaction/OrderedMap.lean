import Mathlib.Data.List.Nodup
import MudClient.Proofs.Reaction.Roster
import MudClient.Reaction.Basic
/-! Rosters as maps. A key has one item at most, the keys stand in the order in which they came, and
what is done to one of them leaves the items of the others alone. A channel that is declared again
stays what it was, so it has all messages since it was declared first. -/
namespace MudClient

namespace Roster

section

variable {α κ : Type} [Keyed α κ] [DecidableEq κ]

open Keyed (key)

variable {r : Roster α} {k l : κ} {item x : α} {f : α → α} {history : List (Edit α κ)}

/-- The items of the other keys, in their order. -/
def others (r : Roster α) (k : κ) : List α := r.items.filter fun x => key x ≠ k

theorem others_put (r : Roster α) (item : α) :
    (r.put item).others (key item) = r.others (key item) := by
  obtain ⟨items⟩ := r
  unfold others put
  dsimp only
  induction items with
  | nil => simp [putItem]
  | cons x items ih =>
    rw [putItem]
    split
    case isTrue same => simp [same]
    case isFalse other => simp only [List.filter_cons, ih]

theorem others_remove (r : Roster α) (k : κ) : (r.remove k).others k = r.others k := by
  obtain ⟨items⟩ := r
  unfold others remove
  dsimp only
  induction items with
  | nil => rfl
  | cons x items ih =>
    by_cases same : key x = k
    · simp [same]
    · rw [List.eraseP_cons_of_neg (by simpa using same)]
      simp only [List.filter_cons, ih]

theorem others_modify (hf : ∀ x, key (f x) = key x) (r : Roster α) (k : κ) :
    (r.modify k f).others k = r.others k := by
  obtain ⟨items⟩ := r
  unfold others modify
  dsimp only
  induction items with
  | nil => rfl
  | cons x items ih =>
    rw [List.map_cons, List.filter_cons, ih, List.filter_cons]
    by_cases same : key x = k <;> simp [same, hf]

theorem find?_put (r : Roster α) (item : α) (k : κ) :
    (r.put item).find? k = if key item = k then some item else r.find? k := by
  obtain ⟨items⟩ := r
  unfold find? put
  dsimp only
  induction items with
  | nil => by_cases h : key item = k <;> simp [putItem, h]
  | cons x items ih =>
    rw [putItem]
    split
    case isTrue same => by_cases h : key item = k <;> simp [same, h]
    case isFalse other =>
      by_cases here : key x = k
      · have : key item ≠ k := fun h => other (here.trans h.symm)
        simp [here, this]
      · simpa [here] using ih

theorem find?_modify (hf : ∀ x, key (f x) = key x) (r : Roster α) (l k : κ) :
    (r.modify l f).find? k = if l = k then (r.find? k).map f else r.find? k := by
  obtain ⟨items⟩ := r
  unfold find? modify
  dsimp only
  induction items with
  | nil => simp
  | cons x items ih =>
    by_cases here : key x = k
    · by_cases h : l = k
      · simp [here, h, hf]
      · simp [here, h, Ne.symm h]
    · rw [List.map_cons, List.find?_cons_of_neg (by split <;> simp [here, hf]), ih,
        List.find?_cons_of_neg (by simpa using here)]

theorem find?_eq_some (h : r.IsDistinct) : r.find? k = some x ↔ x ∈ r.items ∧ key x = k := by
  constructor
  · intro found
    exact ⟨List.mem_of_find?_eq_some found, by simpa using List.find?_some found⟩
  · rintro ⟨hx, rfl⟩
    obtain ⟨y, hy⟩ : ∃ y, r.find? (key x) = some y :=
      Option.isSome_iff_exists.1 (List.find?_isSome.2 ⟨x, hx, by simp⟩)
    have same : key y = key x := by simpa using List.find?_some hy
    rw [hy, List.inj_on_of_nodup_map h (List.mem_of_find?_eq_some hy) hx same]

theorem find?_remove (h : r.IsDistinct) (l k : κ) :
    (r.remove l).find? k = if l = k then none else r.find? k := by
  unfold find?
  rw [items_remove h, List.find?_filter]
  split
  case isTrue same =>
    subst same
    exact List.find?_eq_none.2 fun x _ => by simp
  case isFalse other =>
    congr 1
    funext x
    by_cases here : key x = k <;> simp [here, Ne.symm other]

theorem keys_put (r : Roster α) (item : α) : (r.put item).items.map key =
    if key item ∈ r.items.map key then r.items.map key else r.items.map key ++ [key item] := by
  split
  case isTrue present => exact map_key_putItem present
  case isFalse absent => simp [items_put_of_not_mem absent]

theorem keys_remove (r : Roster α) (k : κ) :
    (r.remove k).items.map key = (r.items.map key).erase k := by
  have same : (fun x : α => decide (key x = k)) = (k == ·) ∘ key := by
    funext x
    exact decide_eq_decide.2 eq_comm
  rw [List.erase_eq_eraseP, List.eraseP_map, ← same, remove]

/-- What is found under a key is what was put in last. -/
theorem Accords.find? (h : Accords history r) (k : κ) : r.find? k = latest? k history := by
  ext x
  rw [find?_eq_some h.isDistinct, h.mem]
  constructor
  · rintro ⟨last, rfl⟩
    exact last
  · intro last
    obtain rfl := key_latest? last
    exact ⟨last, rfl⟩

/-- A map that keeps the order of insertion. -/
structure IsOrderedMap (history : List (Edit α κ)) : Prop where
  distinct : (after history).IsDistinct
  found : ∀ k, (after history).find? k = latest? k history
  ordered : ((after history).items.map key).Pairwise fun k l =>
    arrival k history < arrival l history
  put_others : ∀ item,
    ((after history).put item).others (key item) = (after history).others (key item)
  remove_others : ∀ k, ((after history).remove k).others k = (after history).others k

theorem isOrderedMap_after (history : List (Edit α κ)) : IsOrderedMap history where
  distinct := (accords_after history).isDistinct
  found := (accords_after history).find?
  ordered := (accords_after history).ordered
  put_others := others_put _
  remove_others := others_remove _

end

theorem find?_declare (r : Roster Channel) (name n : Text) : (r.declare name).find? n =
    if name = n then some ((r.find? n).getD (.create n)) else r.find? n := by
  unfold declare
  split
  case isTrue present =>
    split
    case isTrue same =>
      subst same
      obtain ⟨c, hc⟩ := Option.isSome_iff_exists.1 present
      simp [hc]
    case isFalse => rfl
  case isFalse absent =>
    have missing : r.find? name = none := Option.not_isSome_iff_eq_none.1 absent
    rw [find?_put]
    split
    case isTrue same =>
      obtain rfl : name = n := same
      simp [missing]
    case isFalse other => exact (if_neg other).symm

theorem keys_declare (r : Roster Channel) (name : Text) :
    (r.declare name).items.map Keyed.key = (r.put (.create name)).items.map Keyed.key := by
  unfold declare
  split
  case isTrue present => exact (keys_put r (.create name) ▸ if_pos (isSome_find?.1 present)).symm
  case isFalse => rfl

theorem others_declare (r : Roster Channel) (name : Text) :
    (r.declare name).others name = r.others name := by
  unfold declare
  split
  case isTrue => rfl
  case isFalse => exact others_put r (.create name)

theorem others_feed (r : Roster Channel) (name message : Text) :
    (r.feed name message).others name = r.others name :=
  others_modify (f := fun c : Channel => c.push message) (fun _ => rfl) r name

theorem find?_feed (r : Roster Channel) (name message n : Text) :
    (r.feed name message).find? n =
      if name = n then (r.find? n).map (·.push message) else r.find? n :=
  find?_modify (f := fun c : Channel => c.push message) (fun _ => rfl) r name n

end Roster

namespace Channel

open Keyed (key)

/-- What is done to the channels. -/
inductive Edit where
  | declare (name : Text)
  | feed (name message : Text)
  | remove (name : Text)
  | clear

def edit (r : Roster Channel) : Edit → Roster Channel
  | .declare name => r.declare name
  | .feed name message => r.feed name message
  | .remove name => r.remove name
  | .clear => ∅

def after (history : List Edit) : Roster Channel := history.foldl edit ∅

namespace Edit

/-- What it is for the names, if they are not left as they are. -/
def naming? : Edit → Option (Roster.Edit Channel Text)
  | declare name => some (.put (.create name))
  | feed _ _ => none
  | remove name => some (.remove name)
  | clear => some .clear

def declares (name : Text) : Edit → Bool
  | declare n => n = name
  | _ => false

/-- Takes a name out. -/
def drops (name : Text) : Edit → Bool
  | remove n => n = name
  | clear => true
  | _ => false

def message? (name : Text) : Edit → Option Text
  | feed n message => if n = name then some message else none
  | _ => none

end Edit

/-- When names came and were taken out. -/
def namings (history : List Edit) : List (Roster.Edit Channel Text) :=
  history.filterMap Edit.naming?

/-- All messages that were fed to a channel since it was first declared, if it was declared since it
was last taken out. -/
def fed? (name : Text) (history : List Edit) : Option (List Text) :=
  match (history.rtakeWhile (!·.drops name)).dropWhile (!·.declares name) with
  | [] => none
  | _ :: later => some (later.filterMap (·.message? name))

/-- A channel that these messages were fed to. -/
def holding (name : Text) (messages : List Text) : Channel :=
  ⟨name, defaultCapacity, messages.rtake defaultCapacity⟩

variable {history : List Edit} {e : Edit} {name : Text}

theorem push_rtake {capacity : Nat} (room : 0 < capacity) (messages : List Text) (message : Text) :
    push ⟨name, capacity, messages.rtake capacity⟩ message =
      ⟨name, capacity, (messages ++ [message]).rtake capacity⟩ := by
  unfold push List.rtake
  dsimp only
  rw [List.length_drop, List.length_append, List.length_singleton]
  congr 1
  split
  case isTrue full =>
    have next : messages.length + 1 - capacity = messages.length - capacity + 1 := by omega
    rw [List.tail_drop, next, List.drop_append_of_le_length (by omega)]
  case isFalse free =>
    rw [show messages.length - capacity = 0 by omega,
      show messages.length + 1 - capacity = 0 by omega, List.drop_zero, List.drop_zero]

theorem push_holding (name : Text) (messages : List Text) (message : Text) :
    (holding name messages).push message = holding name (messages ++ [message]) :=
  push_rtake (by decide) messages message

theorem fed?_append_of_drops (h : e.drops name) (history : List Edit) :
    fed? name (history ++ [e]) = none := by
  rw [fed?, List.rtakeWhile_concat_neg _ _ _ (by simp [h])]
  rfl

theorem fed?_append (h : e.drops name = false) (history : List Edit) :
    fed? name (history ++ [e]) =
      if e.declares name then some ((fed? name history).getD [])
      else (fed? name history).map (· ++ (e.message? name).toList) := by
  unfold fed?
  rw [List.rtakeWhile_concat_pos _ _ _ (by simp [h]), List.dropWhile_append]
  cases (history.rtakeWhile (!·.drops name)).dropWhile (!·.declares name) with
  | nil => cases hn : e.declares name <;> simp [hn]
  | cons first later =>
    have silent (hn : e.declares name) : e.message? name = none := by
      cases e <;> simp_all [Edit.declares, Edit.message?]
    cases hn : e.declares name
    · cases hm : e.message? name <;> simp [hm]
    · simp [silent hn]

theorem after_append (history : List Edit) (e : Edit) :
    after (history ++ [e]) = edit (after history) e :=
  List.foldl_concat ..

/-- The names come and go as if nothing were fed. -/
theorem keys_after (history : List Edit) :
    (after history).items.map key = (Roster.after (namings history)).items.map key := by
  induction history using List.reverseRecOn with
  | nil => rfl
  | append_singleton history e ih =>
    rw [after_append, namings, List.filterMap_append, ← namings]
    cases e with
    | declare name =>
      have now : Roster.after (namings history ++ [.put (.create name)]) =
          (Roster.after (namings history)).put (.create name) := Roster.after_append ..
      rw [edit, Roster.keys_declare, Roster.keys_put, ih, ← Roster.keys_put, ← now]
      rfl
    | feed name message =>
      have silent : List.filterMap Edit.naming? [.feed name message] = [] := rfl
      rw [silent, List.append_nil, ← ih]
      exact Roster.key_feed _ name message
    | remove name =>
      have now : Roster.after (namings history ++ [.remove name]) =
          (Roster.after (namings history)).remove name := Roster.after_append ..
      rw [edit, Roster.keys_remove, ih, ← Roster.keys_remove, ← now]
      rfl
    | clear =>
      have now : Roster.after (namings history ++ [.clear]) = ∅ := Roster.after_append ..
      exact (congrArg (fun r => r.items.map key) now).symm

theorem isDistinct_after (history : List Edit) : (after history).IsDistinct := by
  have distinct := (Roster.accords_after (namings history)).isDistinct
  rwa [Roster.IsDistinct, ← keys_after] at distinct

theorem find?_after (history : List Edit) (name : Text) :
    (after history).find? name = (fed? name history).map (holding name) := by
  induction history using List.reverseRecOn with
  | nil => rfl
  | append_singleton history e ih =>
    rw [after_append]
    cases e with
    | declare n =>
      rw [edit, Roster.find?_declare, fed?_append rfl, ih]
      by_cases same : n = name
      · have fresh : create name = holding name [] := rfl
        cases fed? name history <;> simp [Edit.declares, same, fresh]
      · simp [Edit.declares, Edit.message?, same]
    | feed n message =>
      rw [edit, Roster.find?_feed, fed?_append rfl, ih]
      by_cases same : n = name
      · cases fed? name history <;> simp [Edit.declares, Edit.message?, same, push_holding]
      · simp [Edit.declares, Edit.message?, same]
    | remove n =>
      rw [edit, Roster.find?_remove (isDistinct_after history), ih]
      by_cases same : n = name
      · have drops : (Edit.remove n).drops name := decide_eq_true same
        rw [if_pos same, fed?_append_of_drops drops, Option.map_none]
      · have stays : (Edit.remove n).drops name = false := decide_eq_false same
        rw [if_neg same, fed?_append stays]
        simp [Edit.declares, Edit.message?]
    | clear =>
      have drops : Edit.clear.drops name := rfl
      rw [fed?_append_of_drops drops]
      rfl

/-- The channels as a map that keeps the order of insertion. One that is declared again is the old
one, with the latest of all messages that it was fed. -/
structure IsOrderedMap (history : List Edit) : Prop where
  distinct : (after history).IsDistinct
  found : ∀ name, (after history).find? name = (fed? name history).map (holding name)
  ordered : ((after history).items.map key).Pairwise fun m n =>
    Roster.arrival m (namings history) < Roster.arrival n (namings history)
  declare_others : ∀ name, ((after history).declare name).others name = (after history).others name
  feed_others : ∀ name message,
    ((after history).feed name message).others name = (after history).others name
  remove_others : ∀ name, ((after history).remove name).others name = (after history).others name

theorem isOrderedMap_after (history : List Edit) : IsOrderedMap history where
  distinct := isDistinct_after history
  found := find?_after history
  ordered := keys_after history ▸ (Roster.accords_after (namings history)).ordered
  declare_others := Roster.others_declare _
  feed_others := Roster.others_feed _
  remove_others := Roster.others_remove _

/-- A channel that is declared again keeps its messages and its place, unless it was taken out. -/
example : (after [.declare ['a'], .feed ['a'] ['1'], .declare ['b'], .feed ['b'] ['2'],
    .remove ['a'], .declare ['b'], .declare ['a'], .feed ['c'] ['3']]).items =
      [holding ['b'] [['2']], holding ['a'] []] := by
  decide

end Channel

/-- What stands in a roster, and in which order, is what its history says of each key by itself. -/
theorem isOrderedMap_of_history :
    (∀ history : List (Roster.Edit Alias Text), Roster.IsOrderedMap history) ∧
    (∀ history : List (Roster.Edit Trigger Text), Roster.IsOrderedMap history) ∧
    (∀ history : List (Roster.Edit KeyBinding Shortcut), Roster.IsOrderedMap history) ∧
    ∀ history : List Channel.Edit, Channel.IsOrderedMap history :=
  ⟨Roster.isOrderedMap_after, Roster.isOrderedMap_after, Roster.isOrderedMap_after,
    Channel.isOrderedMap_after⟩

end MudClient
