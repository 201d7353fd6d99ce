import MudClient.Proofs.World.Rule
/-! Declaring items one after the other. Every item adds at most one entry to the world; if each adds
one, then the items of a kind stand in the order in which they were declared. -/
namespace MudClient

open Script

namespace Roster

variable {α κ : Type} [Keyed α κ] [DecidableEq κ]

open Keyed (key)

/-- Items with distinct keys stand in the order in which they were put in. -/
theorem items_foldl_put {r : Roster α} {as : List α} (h : ((r.items ++ as).map key).Nodup) :
    (as.foldl put r).items = r.items ++ as := by
  induction as generalizing r with
  | nil => simp
  | cons a as ih =>
    have fresh : key a ∉ r.items.map key := by
      rw [List.map_append, List.nodup_append] at h
      exact fun hm => h.2.2 _ hm _ List.mem_cons_self rfl
    have next := items_put_of_not_mem fresh
    rw [List.foldl_cons, ih (by simpa [next] using h), next]
    simp

theorem names_foldl_declare {r : Roster Channel} {names : List Text}
    (h : (r.items.map Channel.name ++ names).Nodup) :
    (names.foldl declare r).items.map Channel.name = r.items.map Channel.name ++ names := by
  induction names generalizing r with
  | nil => simp
  | cons name names ih =>
    have fresh : name ∉ r.items.map Channel.name := by
      rw [List.nodup_append] at h
      exact fun hm => h.2.2 _ hm _ List.mem_cons_self rfl
    have next : (r.declare name).items.map Channel.name = r.items.map Channel.name ++ [name] := by
      have missing : (r.find? name).isSome = false := by
        rw [Bool.eq_false_iff, Ne, isSome_find?]
        exact fresh
      have put : (r.put (Channel.create name)).items = r.items ++ [Channel.create name] :=
        items_put_of_not_mem fresh
      rw [declare, missing, if_neg (by simp), put]
      simp [Channel.create]
    rw [List.foldl_cons, ih (by simpa [next] using h), next]
    simp

theorem putItem_cases (item : α) (items : List α) :
    (putItem item items).length = items.length ∨ putItem item items = items ++ [item] := by
  induction items with
  | nil => exact .inr rfl
  | cons x r ih =>
    rw [putItem]
    split
    · exact .inl rfl
    · exact ih.imp (congrArg (· + 1)) (congrArg (x :: ·))

theorem declare_cases (r : Roster Channel) (name : Text) :
    (r.declare name).items.length = r.items.length ∨
      (r.declare name).items = r.items ++ [Channel.create name] := by
  unfold declare
  split
  · exact .inl rfl
  · exact putItem_cases (Channel.create name) r.items

end Roster

namespace World

/-- An item that is declared takes the place of another one or comes behind those of its kind. -/
theorem items_declare_cases (w : World) (i : Item) :
    (w.declare i).items.length = w.items.length ∨
      ∃ before after, w.items = before ++ after ∧ (w.declare i).items = before ++ i :: after ∧
        ∀ j ∈ after, j.function ≠ i.function := by
  cases i with
  | ofChannel name =>
    refine (w.channels.declare_cases name).imp (fun same => ?_) fun grown => ?_
    · simp [items, declare, same]
    · refine ⟨(w.channels.items.map Channel.name).map .ofChannel, w.aliases.items.map .ofAlias ++
        (w.triggers.items.map .ofTrigger ++ w.keyBindings.items.map .ofKeyBinding), ?_, ?_, ?_⟩
      · simp [items]
      · simp [items, declare, grown, Channel.create]
      · simp [or_imp, forall_and, Item.function]
  | ofAlias a =>
    refine (Roster.putItem_cases a w.aliases.items).imp (fun same => ?_) fun grown => ?_
    · simp [items, declare, Roster.put, same]
    · refine ⟨(w.channels.items.map Channel.name).map .ofChannel ++ w.aliases.items.map .ofAlias,
        w.triggers.items.map .ofTrigger ++ w.keyBindings.items.map .ofKeyBinding, ?_, ?_, ?_⟩
      · simp [items]
      · simp [items, declare, Roster.put, grown]
      · simp [or_imp, forall_and, Item.function]
  | ofTrigger t =>
    refine (Roster.putItem_cases t w.triggers.items).imp (fun same => ?_) fun grown => ?_
    · simp [items, declare, Roster.put, same]
    · refine ⟨(w.channels.items.map Channel.name).map .ofChannel ++ w.aliases.items.map .ofAlias ++
        w.triggers.items.map .ofTrigger, w.keyBindings.items.map .ofKeyBinding, ?_, ?_, ?_⟩
      · simp [items]
      · simp [items, declare, Roster.put, grown]
      · simp [Item.function]
  | ofKeyBinding b =>
    refine (Roster.putItem_cases b w.keyBindings.items).imp (fun same => ?_) fun grown => ?_
    · simp [items, declare, Roster.put, same]
    · refine ⟨w.items, [], by simp, ?_, by simp⟩
      simp [items, declare, Roster.put, grown]

theorem length_items_declare_le (w : World) (i : Item) :
    (w.declare i).items.length ≤ w.items.length + 1 := by
  rcases w.items_declare_cases i with same | ⟨before, after, hw, grown, -⟩
  · omega
  · rw [hw, grown]
    simp only [List.length_append, List.length_cons]
    omega

theorem length_items_foldl_le (w : World) (is : List Item) :
    (is.foldl declare w).items.length ≤ w.items.length + is.length := by
  induction is generalizing w with
  | nil => exact Nat.le_refl _
  | cons i is ih =>
    have := ih (w.declare i)
    have := w.length_items_declare_le i
    simp only [List.foldl_cons, List.length_cons]
    omega

def itemsOf (f : Builtin) (is : List Item) : List Item := is.filter fun i => i.function = f

theorem itemsOf_declare {w : World} {i : Item}
    (h : (w.declare i).items.length = w.items.length + 1) (f : Builtin) :
    itemsOf f (w.declare i).items = itemsOf f w.items ++ itemsOf f [i] := by
  rcases w.items_declare_cases i with same | ⟨before, after, hw, grown, other⟩
  · omega
  · rw [hw, grown]
    simp only [itemsOf, List.filter_append, List.filter_cons, List.filter_nil]
    by_cases hf : i.function = f
    · have none : after.filter (·.function = f) = [] :=
        List.filter_eq_nil_iff.2 fun j hj => by simpa [← hf] using other j hj
      simp [hf, none]
    · simp [hf]

/-- If no item replaces another one, the items of a kind are those declared of it. -/
theorem itemsOf_foldl {w : World} {is : List Item}
    (h : (is.foldl declare w).items.length = w.items.length + is.length) (f : Builtin) :
    itemsOf f (is.foldl declare w).items = itemsOf f w.items ++ itemsOf f is := by
  induction is generalizing w with
  | nil => simp [itemsOf]
  | cons i is ih =>
    have hw := w.length_items_declare_le i
    have his := (w.declare i).length_items_foldl_le is
    simp only [List.foldl_cons, List.length_cons] at h ⊢
    rw [ih (by omega), itemsOf_declare (by omega), List.append_assoc]
    congr 1
    exact (List.filter_append _ _).symm

/-- Lists whose items are declared by the same functions are equal if they are for each function. -/
theorem eq_of_itemsOf {is js : List Item}
    (hf : List.Forall₂ (fun i j : Item => i.function = j.function) is js)
    (h : ∀ f, itemsOf f is = itemsOf f js) : is = js := by
  induction hf with
  | nil => rfl
  | @cons i j is js hij hs ih =>
    have head := h i.function
    simp only [itemsOf, List.filter_cons, hij, decide_true, if_true] at head
    obtain ⟨rfl, -⟩ := List.cons.inj head
    congr 1
    refine ih fun f => ?_
    have hf := h f
    simp only [itemsOf, List.filter_cons] at hf
    split at hf
    · exact (List.cons.inj hf).2
    · exact hf

/-- A world without items gets those that are declared, if no key among them stands twice. -/
theorem items_foldl_declare {w v : World} (hw : w.items = []) (hc : v.channels.IsDistinct)
    (ha : v.aliases.IsDistinct) (ht : v.triggers.IsDistinct) (hk : v.keyBindings.IsDistinct) :
    (v.items.foldl declare w).channels.items.map Channel.name =
        v.channels.items.map Channel.name ∧
      (v.items.foldl declare w).aliases.items = v.aliases.items ∧
      (v.items.foldl declare w).triggers.items = v.triggers.items ∧
      (v.items.foldl declare w).keyBindings.items = v.keyBindings.items := by
  have channels (w : World) (names : List Text) : (names.map Item.ofChannel).foldl declare w =
      { w with channels := names.foldl Roster.declare w.channels } := by
    rw [List.foldl_map]
    refine List.foldl_hom (fun r => { w with channels := r }) ?_
    intro r x
    rfl
  have aliases (w : World) (as : List Alias) : (as.map Item.ofAlias).foldl declare w =
      { w with aliases := as.foldl Roster.put w.aliases } := by
    rw [List.foldl_map]
    refine List.foldl_hom (fun r => { w with aliases := r }) ?_
    intro r x
    rfl
  have triggers (w : World) (ts : List Trigger) : (ts.map Item.ofTrigger).foldl declare w =
      { w with triggers := ts.foldl Roster.put w.triggers } := by
    rw [List.foldl_map]
    refine List.foldl_hom (fun r => { w with triggers := r }) ?_
    intro r x
    rfl
  have keyBindings (w : World) (bs : List KeyBinding) :
      (bs.map Item.ofKeyBinding).foldl declare w =
        { w with keyBindings := bs.foldl Roster.put w.keyBindings } := by
    rw [List.foldl_map]
    refine List.foldl_hom (fun r => { w with keyBindings := r }) ?_
    intro r x
    rfl
  simp only [items, List.append_eq_nil_iff, List.map_eq_nil_iff] at hw
  obtain ⟨⟨⟨hc0, ha0⟩, ht0⟩, hk0⟩ := hw
  rw [items, List.foldl_append, List.foldl_append, List.foldl_append, channels, aliases, triggers,
    keyBindings]
  refine ⟨?_, ?_, ?_, ?_⟩
  · have grown : ((v.channels.items.map Channel.name).foldl Roster.declare
        w.channels).items.map Channel.name =
          w.channels.items.map Channel.name ++ v.channels.items.map Channel.name :=
      Roster.names_foldl_declare (by rw [hc0]; exact hc)
    exact grown.trans (by rw [hc0]; rfl)
  · have grown : (v.aliases.items.foldl Roster.put w.aliases).items =
        w.aliases.items ++ v.aliases.items := Roster.items_foldl_put (by rw [ha0]; exact ha)
    exact grown.trans (by rw [ha0]; rfl)
  · have grown : (v.triggers.items.foldl Roster.put w.triggers).items =
        w.triggers.items ++ v.triggers.items := Roster.items_foldl_put (by rw [ht0]; exact ht)
    exact grown.trans (by rw [ht0]; rfl)
  · have grown : (v.keyBindings.items.foldl Roster.put w.keyBindings).items =
        w.keyBindings.items ++ v.keyBindings.items :=
      Roster.items_foldl_put (by rw [hk0]; exact hk)
    exact grown.trans (by rw [hk0]; rfl)

end World
end MudClient
