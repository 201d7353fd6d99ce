import MudClient.Proofs.Engine.Rule
import MudClient.World.Configuration
import MudClient.World.Handling
/-! Worlds that keep to a rule. Nothing comes into the rosters but what a script declares, and no
script is run but the actions of what was declared, so a world that keeps to a rule goes on doing so
whatever happens to it. -/
namespace MudClient

open Script

namespace Roster

variable {α κ : Type} [Keyed α κ] [DecidableEq κ]

open Keyed (key)

/-- No key stands twice. -/
def IsDistinct (r : Roster α) : Prop := (r.items.map key).Nodup

theorem isSome_find? {r : Roster α} {k : κ} : (r.find? k).isSome ↔ k ∈ r.items.map key := by
  simp [find?, List.find?_isSome]

theorem mem_putItem {item x : α} {items : List α} (h : x ∈ putItem item items) :
    x = item ∨ x ∈ items := by
  induction items with
  | nil => exact .inl (List.mem_singleton.1 h)
  | cons y r ih =>
    rw [putItem] at h
    split at h
    · exact (List.mem_cons.1 h).imp id (List.mem_cons_of_mem _)
    · rcases List.mem_cons.1 h with rfl | h
      · exact .inr List.mem_cons_self
      · exact (ih h).imp id (List.mem_cons_of_mem _)

theorem nodup_putItem {item : α} {items : List α} (h : (items.map key).Nodup) :
    ((putItem item items).map key).Nodup := by
  induction items with
  | nil => simp [putItem]
  | cons y r ih =>
    obtain ⟨hy, hr⟩ := List.nodup_cons.1 h
    rw [putItem]
    split
    · rename_i hk
      exact List.nodup_cons.2 ⟨hk ▸ hy, hr⟩
    · rename_i hk
      refine List.nodup_cons.2 ⟨fun hm => ?_, ih hr⟩
      obtain ⟨x, hx, he⟩ := List.mem_map.1 hm
      rcases mem_putItem hx with rfl | hx
      · exact hk he.symm
      · exact hy (List.mem_map.2 ⟨x, hx, he⟩)

theorem IsDistinct.put {r : Roster α} (h : r.IsDistinct) (item : α) : (r.put item).IsDistinct :=
  nodup_putItem h

theorem items_put_of_not_mem {r : Roster α} {item : α} (h : key item ∉ r.items.map key) :
    (r.put item).items = r.items ++ [item] := by
  obtain ⟨items⟩ := r
  unfold put
  dsimp only at h ⊢
  induction items with
  | nil => rfl
  | cons x items ih =>
    rw [List.map_cons, List.mem_cons, not_or] at h
    obtain ⟨hx, hr⟩ := h
    rw [putItem, if_neg (Ne.symm hx), ih hr, List.cons_append]

theorem key_feed (r : Roster Channel) (name message : Text) :
    (r.feed name message).items.map Channel.name = r.items.map Channel.name := by
  simp only [feed, modify, List.map_map]
  congr 1
  funext c
  dsimp only [Function.comp_apply]
  split <;> rfl

theorem isDistinct_declare {r : Roster Channel} (h : r.IsDistinct) (name : Text) :
    (r.declare name).IsDistinct := by
  unfold declare
  split
  · exact h
  · exact h.put _

theorem name_mem_declare {r : Roster Channel} {name n : Text}
    (h : n ∈ (r.declare name).items.map Channel.name) : n = name ∨ n ∈ r.items.map Channel.name := by
  unfold declare at h
  split at h
  · exact .inr h
  · obtain ⟨c, hc, rfl⟩ := List.mem_map.1 h
    rcases mem_putItem hc with rfl | hc
    · exact .inl rfl
    · exact .inr (List.mem_map_of_mem hc)

end Roster

namespace World

/-- What the configuration of a world declares, in its order. -/
def items (w : World) : List Item :=
  (w.channels.items.map Channel.name).map .ofChannel ++ w.aliases.items.map .ofAlias ++
    w.triggers.items.map .ofTrigger ++ w.keyBindings.items.map .ofKeyBinding

theorem declarations_eq (w : World) : w.declarations = w.items.map Item.line := by
  simp [declarations, items, Function.comp_def]
  rfl

def declare (w : World) : Item → World
  | .ofChannel name => { w with channels := w.channels.declare name }
  | .ofAlias a => { w with aliases := w.aliases.put a }
  | .ofTrigger t => { w with triggers := w.triggers.put t }
  | .ofKeyBinding b => { w with keyBindings := w.keyBindings.put b }

theorem applyEffect_item (send : World → Text → Except Crash World) (w : World) (i : Item) :
    applyEffect send w i.effect = .ok (w.declare i) := by
  cases i <;> rfl

/-- Everything that was declared and that scripts may still declare is allowed. -/
structure Keeps (l : Rule) (w : World) : Prop where
  registry : w.engine.registry = .builtins
  items : ∀ i ∈ w.items, l.Allows i
  pending : ∀ c ∈ w.pending, l.AllowsProgram c.rest
  channels : w.channels.IsDistinct
  aliases : w.aliases.IsDistinct
  triggers : w.triggers.IsDistinct
  keyBindings : w.keyBindings.IsDistinct

variable {l : Rule} {w w' : World} {now : Nanos}

theorem mem_items_declare {i j : Item} (h : j ∈ (w.declare i).items) : j = i ∨ j ∈ w.items := by
  simp only [items, List.mem_append, List.mem_map] at h ⊢
  cases i with
  | ofChannel name =>
    rcases h with ((⟨n, hn, rfl⟩ | h) | h) | h
    · obtain ⟨c, hc, rfl⟩ := hn
      rcases Roster.name_mem_declare (List.mem_map_of_mem hc) with he | hm
      · exact .inl (he ▸ rfl)
      · obtain ⟨d, hd, hde⟩ := List.mem_map.1 hm
        exact .inr (.inl (.inl (.inl ⟨_, ⟨d, hd, hde⟩, rfl⟩)))
    · exact .inr (.inl (.inl (.inr h)))
    · exact .inr (.inl (.inr h))
    · exact .inr (.inr h)
  | ofAlias a =>
    rcases h with ((h | ⟨b, hb, rfl⟩) | h) | h
    · exact .inr (.inl (.inl (.inl h)))
    · rcases Roster.mem_putItem hb with rfl | hb
      · exact .inl rfl
      · exact .inr (.inl (.inl (.inr ⟨b, hb, rfl⟩)))
    · exact .inr (.inl (.inr h))
    · exact .inr (.inr h)
  | ofTrigger t =>
    rcases h with ((h | h) | ⟨b, hb, rfl⟩) | h
    · exact .inr (.inl (.inl (.inl h)))
    · exact .inr (.inl (.inl (.inr h)))
    · rcases Roster.mem_putItem hb with rfl | hb
      · exact .inl rfl
      · exact .inr (.inl (.inr ⟨b, hb, rfl⟩))
    · exact .inr (.inr h)
  | ofKeyBinding k =>
    rcases h with ((h | h) | h) | ⟨b, hb, rfl⟩
    · exact .inr (.inl (.inl (.inl h)))
    · exact .inr (.inl (.inl (.inr h)))
    · exact .inr (.inl (.inr h))
    · rcases Roster.mem_putItem hb with rfl | hb
      · exact .inl rfl
      · exact .inr (.inr ⟨b, hb, rfl⟩)

theorem Keeps.declare (h : w.Keeps l) {i : Item} (hi : l.Allows i) : (w.declare i).Keeps l := by
  have items : ∀ j ∈ (w.declare i).items, l.Allows j := by
    intro j hj
    rcases mem_items_declare hj with rfl | hj
    · exact hi
    · exact h.items j hj
  cases i with
  | ofChannel name => exact { h with items, channels := Roster.isDistinct_declare h.channels name }
  | ofAlias a => exact { h with items, aliases := h.aliases.put a }
  | ofTrigger t => exact { h with items, triggers := h.triggers.put t }
  | ofKeyBinding b => exact { h with items, keyBindings := h.keyBindings.put b }

/-- How commands are sent, if that keeps to the rule. -/
def SendKeeps (l : Rule) (send : World → Text → Except Crash World) : Prop :=
  ∀ w t w', w.Keeps l → send w t = .ok w' → w'.Keeps l

variable {send : World → Text → Except Crash World}

theorem Keeps.feed (h : w.Keeps l) (name message : Text) :
    Keeps l { w with channels := w.channels.feed name message } where
  registry := h.registry
  items := by simpa only [World.items, Roster.key_feed] using h.items
  pending := h.pending
  channels := by
    have same := Roster.key_feed w.channels name message
    exact (congrArg List.Nodup same).mpr h.channels
  aliases := h.aliases
  triggers := h.triggers
  keyBindings := h.keyBindings

theorem Keeps.applyEffects (hsend : SendKeeps l send) (h : w.Keeps l) {effects : List Effect}
    (he : l.AllowsEffects effects) (ha : applyEffects send w effects = .ok w') : w'.Keeps l := by
  refine foldlM_keeps (p := Keeps l) (fun e hm w w' h ha => ?_) h ha
  cases e with
  | send text => exact hsend w text w' h ha
  | display | speak | play =>
    cases ha
    exact { h with }
  | feed channel message =>
    cases ha
    exact h.feed channel _
  | declareChannel name =>
    cases ha
    exact h.declare (i := .ofChannel name) (he (.ofChannel name) hm)
  | declareAlias a =>
    cases ha
    exact h.declare (i := .ofAlias a) (he (.ofAlias a) hm)
  | declareTrigger t =>
    cases ha
    exact h.declare (i := .ofTrigger t) (he (.ofTrigger t) hm)
  | declareKeyBinding b =>
    cases ha
    exact h.declare (i := .ofKeyBinding b) (he (.ofKeyBinding b) hm)

theorem Keeps.settle (h : w.Keeps l) {result : Except ScriptError Outcome}
    (hr : ∀ c, result = .ok (.suspended c) → l.AllowsProgram c.rest) : (w.settle result).Keeps l := by
  unfold World.settle
  split
  · rename_i c
    refine { h with pending := fun d hd => ?_ }
    rcases List.mem_append.1 hd with hd | hd
    · exact h.pending d hd
    · rw [List.mem_singleton.1 hd]
      exact hr c rfl
  · exact h

theorem Keeps.ran (h : w.Keeps l) {x : Execution} (hx : l.AllowsExecution x) :
    (w.ran x).Keeps l :=
  { h with registry := hx.registry }

section

variable [Lua] [Chance]

/-- The engine is the one of the run already. -/
theorem conclude_ran (w : World) (x : Execution) (now : Nanos) : (w.ran x).conclude x now =
    ((w.ran x).carryOut x.effects now).map (·.settle x.result) := by
  show (do let v ← (w.ran x).carryOut x.effects now; return v.settle x.result) = _
  cases (w.ran x).carryOut x.effects now <;> rfl

theorem Keeps.expand (hl : l.IsClosed) (hsend : SendKeeps l send) (h : w.Keeps l) {a : Alias}
    (ha : a ∈ w.aliases.items) {captures : Captures}
    (he : w.expand send now a captures = .ok w') : w'.Keeps l := by
  unfold World.expand at he
  obtain ⟨run, hrun, he⟩ := bind_eq_ok.1 he
  obtain ⟨after, hafter, he⟩ := bind_eq_ok.1 he
  cases he
  have action : l.action a.action :=
    (h.items (.ofAlias a) (by simp [World.items, ha])).2
  have x := Rule.allowsExecution_of_execute hl h.registry action hrun
  have inside : Keeps l { w.ran run with expanding := a.pattern.source :: w.expanding } :=
    { h.ran x with }
  have done := inside.applyEffects hsend x.effects hafter
  have out : Keeps l { after with expanding := after.expanding.tail } := { done with }
  exact out.settle x.waiting

omit [Lua] [Chance] in
theorem Keeps.transmit (h : w.Keeps l) (command : Text) : (w.transmit command).Keeps l := by
  unfold World.transmit
  split <;> exact { h with }

omit [Lua] [Chance] in
theorem mem_of_answer? {r : Roster Alias} {command : Text} {except : List Text} {a : Alias}
    {captures : Captures} (h : r.answer? command except = some (a, captures)) : a ∈ r.items := by
  obtain ⟨b, hb, hm⟩ := List.exists_of_findSome?_eq_some h
  split at hm
  · cases hm
  · obtain ⟨c, -, hc⟩ := Option.map_eq_some_iff.1 hm
    cases hc
    exact hb

theorem sendKeeps (hl : l.IsClosed) (now : Nanos) (levels : Nat) : SendKeeps l (World.send now levels) := by
  induction levels with
  | zero =>
    intro w t w' h hs
    cases hs
    exact h
  | succ levels ih =>
    intro w t w' h hs
    refine foldlM_keeps (p := Keeps l) (fun command _ w w' h hc => ?_) h hs
    unfold handleCommand at hc
    split at hc
    · rename_i a captures ha
      exact h.expand hl ih (mem_of_answer? ha) hc
    · cases hc
      exact h.transmit command

theorem Keeps.conclude (hl : l.IsClosed) (h : w.Keeps l) {x : Execution} (hx : l.AllowsExecution x)
    (hc : w.conclude x now = .ok w') : w'.Keeps l := by
  unfold World.conclude at hc
  obtain ⟨done, hd, hc⟩ := bind_eq_ok.1 hc
  cases hc
  have taken : Keeps l { w with engine := x.engine } := { h with registry := hx.registry }
  exact (taken.applyEffects (sendKeeps hl now _) hx.effects hd).settle hx.waiting

theorem Keeps.handleLine (hl : l.IsClosed) (h : w.Keeps l) {r r' : Reception} {line : Text}
    (hh : handleLine now (w, r) line = .ok (w', r')) : w'.Keeps l := by
  have shown (w : World) (h : w.Keeps l) (r : Reception) (line : Option Text) (column : Option Nat) :
      (showLine (w, r) line column).1.Keeps l := by
    cases line
    · exact h
    · exact { h with }
  unfold World.handleLine at hh
  dsimp only at hh
  split at hh
  · cases hh
    exact shown w h r (some line) none
  · rename_i t captures ht
    obtain ⟨run, hrun, hh⟩ := bind_eq_ok.1 hh
    obtain ⟨done, hd, hh⟩ := bind_eq_ok.1 hh
    cases hh
    have ht : t ∈ w.triggers.items := by
      obtain ⟨u, hu, hm⟩ := List.mem_filterMap.1
        (List.mem_mergeSort.1 (List.mem_of_mem_head? ht))
      obtain ⟨c, -, hc⟩ := Option.map_eq_some_iff.1 hm
      cases hc
      exact hu
    have action : l.action t.action := (h.items (.ofTrigger t) (by simp [World.items, ht])).2.1
    have x : l.AllowsExecution run := by
      unfold Trigger.fire at hrun
      split at hrun
      · cases hrun
        exact ⟨h.registry, by simp [Rule.AllowsEffects], by simp⟩
      · exact Rule.allowsExecution_of_execute hl h.registry action hrun
    exact (shown _ (h.ran x) r _ _).conclude hl x hd

theorem Keeps.handleMessage (hl : l.IsClosed) (h : w.Keeps l) {text : Text} {r : Reception}
    (hh : w.handleMessage text now = .ok (w', r)) : w'.Keeps l :=
  foldlM_keeps (p := fun state : World × Reception => state.1.Keeps l)
    (fun _ _ _ _ h hl' => Keeps.handleLine hl h hl') (b := (w, Reception.empty)) h hh

theorem Keeps.handleKey (hl : l.IsClosed) (h : w.Keeps l) {shortcut : Shortcut} {bound : Bool}
    (hh : w.handleKey shortcut now = .ok (w', bound)) : w'.Keeps l := by
  unfold World.handleKey at hh
  split at hh
  · cases hh
    exact h
  · rename_i binding hb
    obtain ⟨run, hrun, hh⟩ := bind_eq_ok.1 hh
    obtain ⟨done, hd, hh⟩ := bind_eq_ok.1 hh
    cases hh
    have hm : binding ∈ w.keyBindings.items := List.mem_of_find?_eq_some hb
    have action : l.action binding.action :=
      (h.items (.ofKeyBinding binding) (by simp [World.items, hm])).2
    have x := Rule.allowsExecution_of_execute hl h.registry action hrun
    exact (h.ran x).conclude hl x hd

theorem Keeps.poll (hl : l.IsClosed) (h : w.Keeps l) {n : Nat}
    (hp : w.poll now = .ok (w', n)) : w'.Keeps l := by
  unfold World.poll at hp
  obtain ⟨done, hd, hp⟩ := bind_eq_ok.1 hp
  cases hp
  have waiting : Keeps l { w with pending := w.pending.filter fun c => !(c.due ≤ now) } :=
    { h with pending := fun c hc => h.pending c (List.mem_filter.1 hc).1 }
  refine foldlM_keeps (p := Keeps l) (fun c hc v v' hv hw => ?_) waiting hd
  obtain ⟨run, hrun, hw⟩ := bind_eq_ok.1 hw
  have allowed := h.pending c (List.mem_filter.1 (List.mem_mergeSort.1 hc)).1
  exact hv.conclude hl (Rule.allowsExecution_of_resume hv.registry allowed hrun) hw

theorem Keeps.loadConfig (hl : l.IsClosed) (h : w.Keeps l) {text : Text}
    {result : Except ScriptError Unit}
    (ht : ∀ (_ : Chance) p, (compile .builtins none text).Gives p → l.AllowsProgram p)
    (hh : w.loadConfig text now = .ok (w', result)) : w'.Keeps l := by
  unfold World.loadConfig at hh
  obtain ⟨run, hrun, hh⟩ := bind_eq_ok.1 hh
  obtain ⟨done, hd, hh⟩ := bind_eq_ok.1 hh
  cases hh
  unfold Engine.executeRaw at hrun
  rw [h.registry] at hrun
  have x := Rule.allowsExecution_of_start h.registry (ht _) hrun
  exact (h.ran x).conclude hl x hd

end

end World
end MudClient
