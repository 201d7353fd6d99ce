import MudClient.Proofs.Script.Layout
import MudClient.Proofs.World.Declaring
import MudClient.Surroundings
/-! Saving and loading. A configuration gives back what was declared exactly if each of its texts
comes back from its written form by itself: no line makes up for what another one loses. -/
namespace MudClient

open Script

namespace Script

variable [Lua]

theorem run_of_declaring {p : Program} {is : List Item} (h : List.Forall₂ (fun i (c : Instruction) =>
    ∀ locals, c.run .builtins locals = .ok (.ofEffect (Item.effect i))) is p) (locals : Locals) :
    p.run .builtins locals = .ok ⟨is.map Item.effect, [], locals, .finished⟩ := by
  induction h with
  | nil => rfl
  | cons hc _ ih =>
    rw [Program.run, hc]
    simp only [Reply.ofEffect, bind, Except.bind, Locals.applyChanges_nil, ih]
    rfl

/-- If no declaration of a program is refused, each adds one effect. -/
theorem forall₂_of_run {p : Program} {locals : Locals} {s : Segment}
    (hp : ∀ c ∈ p, ∃ f function values flags, c = .call function values flags ∧
      Registry.builtins.find? function = some f ∧ f.substitutes = false)
    (h : p.run .builtins locals = .ok s) (hs : ∀ e, s.ending ≠ .failed e) :
    ∃ is : List Item, s.effects = is.map Item.effect ∧ List.Forall₂ (fun i (c : Instruction) =>
      ∃ locals, c.run .builtins locals = .ok (.ofEffect i.effect)) is p := by
  induction p generalizing locals s with
  | nil =>
    cases h
    exact ⟨[], rfl, .nil⟩
  | cons c p ih =>
    obtain ⟨⟨f, function, values, flags, rfl, hf, hsub⟩, hmore⟩ := List.forall_mem_cons.1 hp
    rw [Program.run] at h
    obtain ⟨reply, hr, h⟩ := bind_eq_ok.1 h
    have hr' := hr
    simp only [Instruction.run, hf] at hr'
    rcases Builtin.run_declares hsub hr' with ⟨e, rfl⟩ | ⟨i, -, -, rfl⟩
    · cases h
      exact absurd rfl (hs e)
    · obtain ⟨later, hl, h⟩ := bind_eq_ok.1 h
      cases h
      obtain ⟨is, he, hall⟩ := ih hmore hl hs
      exact ⟨i :: is, by simp [Segment.after, Reply.ofEffect, he], .cons ⟨locals, hr⟩ hall⟩

end Script

/-- The call that the line of an item is compiled to if its texts are balanced. -/
def Item.call (i : Item) : Instruction :=
  .call i.function.name.toList ((i.written.map argumentOfWritten).map (Argument.value false)) i.flags

namespace World

variable {w f w' : World} {now : Nanos}

/-- Nothing was declared yet, and no script has run. -/
structure IsFresh (w : World) : Prop where
  engine : w.engine = .create .builtins
  items : w.items = []
  pending : w.pending = []
  expanding : w.expanding = []

theorem isFresh_create (settings : Settings) : (create settings).IsFresh := ⟨rfl, rfl, rfl, rfl⟩

section

variable [Lua] [Chance]

/-- The worlds that come about. -/
inductive Reachable : World → Prop
  | fresh {w : World} : w.IsFresh → Reachable w
  | loadConfig {w w' : World} {text : Text} {now : Nanos} {result : Except ScriptError Unit} :
      Reachable w → w.loadConfig text now = .ok (w', result) → Reachable w'
  | handleInput {w w' : World} {text : Text} {now : Nanos} :
      Reachable w → w.handleInput text now = .ok w' → Reachable w'
  | handleMessage {w w' : World} {text : Text} {now : Nanos} {shown : Reception} :
      Reachable w → w.handleMessage text now = .ok (w', shown) → Reachable w'
  | handleKey {w w' : World} {shortcut : Shortcut} {now : Nanos} {bound : Bool} :
      Reachable w → w.handleKey shortcut now = .ok (w', bound) → Reachable w'
  | poll {w w' : World} {now : Nanos} {count : Nat} :
      Reachable w → w.poll now = .ok (w', count) → Reachable w'
  | reset {w : World} : Reachable w → Reachable w.reset

omit [Lua] [Chance] in
theorem IsFresh.keeps (h : w.IsFresh) (l : Rule) : w.Keeps l := by
  have none := h.items
  simp only [World.items, List.append_eq_nil_iff, List.map_eq_nil_iff] at none
  obtain ⟨⟨⟨hc, ha⟩, ht⟩, hk⟩ := none
  constructor
  · rw [h.engine]
    rfl
  · simp [h.items]
  · simp [h.pending]
  · simp [Roster.IsDistinct, hc]
  · simp [Roster.IsDistinct, ha]
  · simp [Roster.IsDistinct, ht]
  · simp [Roster.IsDistinct, hk]

/-- In every world that comes about, only what scripts can declare was declared. -/
theorem Reachable.keeps (h : w.Reachable) : w.Keeps .sound := by
  have closed := Rule.isClosed_sound
  induction h with
  | fresh h => exact h.keeps _
  | loadConfig _ h ih => exact ih.loadConfig closed (fun _ _ => Rule.allowsProgram_sound) h
  | @handleInput w w' text now _ h ih =>
    unfold World.handleInput at h
    split at h
    · cases h
      exact ih.transmit []
    · exact sendKeeps closed now _ w text w' ih h
  | handleMessage _ h ih => exact ih.handleMessage closed h
  | handleKey _ h ih => exact ih.handleKey closed h
  | poll _ h ih => exact ih.poll closed h
  | reset _ ih => exact { ih with }

omit [Lua] [Chance] in
theorem saveConfig_eq (w : World) : w.saveConfig = spell (w.items.flatMap Item.pieces) := by
  rw [saveConfig, declarations_eq, spell_flatMap, List.flatMap_map]
  congr 1
  funext i
  exact i.spell_pieces.symm

/-- The configuration of a world is loaded without an error, and the channels and reactions are the
same and in the same order. -/
def IsLossless (w f : World) (now : Nanos) : Prop :=
  ∃ w', f.loadConfig w.saveConfig now = .ok (w', .ok ()) ∧
    w'.channels.items.map Channel.name = w.channels.items.map Channel.name ∧
    w'.aliases.items = w.aliases.items ∧ w'.triggers.items = w.triggers.items ∧
    w'.keyBindings.items = w.keyBindings.items

omit [Lua] [Chance] in
theorem applyEffects_items (send : World → Text → Except Crash World) (w : World) (is : List Item) :
    applyEffects send w (is.map Item.effect) = .ok (is.foldl declare w) := by
  unfold applyEffects
  induction is generalizing w with
  | nil => rfl
  | cons i is ih =>
    rw [List.map_cons, List.foldlM_cons, applyEffect_item]
    exact ih (w.declare i)

/-- A configuration that is loaded without an error compiles, and its effects are carried out. -/
theorem exists_of_loadConfig {text : Text} (hf : f.engine.registry = .builtins)
    (h : f.loadConfig text now = .ok (w', .ok ())) : ∃ p s x,
      (@compile f.chance .builtins none text).Gives p ∧
      p.run .builtins f.engine.locals = .ok s ∧ (∀ e, s.ending ≠ .failed e) ∧
      x.effects = s.effects ∧ (f.ran x).conclude x now = .ok w' := by
  unfold World.loadConfig at h
  obtain ⟨x, hx, h⟩ := bind_eq_ok.1 h
  obtain ⟨done, hd, h⟩ := bind_eq_ok.1 h
  obtain ⟨rfl, hr⟩ : done = w' ∧ x.result.map (fun _ => ()) = .ok () := by
    simpa [pure, Except.pure] using h
  unfold Engine.executeRaw Engine.start at hx
  rw [hf] at hx
  obtain ⟨compiled, hc, hx⟩ := bind_eq_ok.1 hx
  cases compiled with
  | error error =>
    cases hx
    cases hr
  | ok p =>
    unfold Engine.drive at hx
    rw [hf] at hx
    obtain ⟨s, hs, hx⟩ := bind_eq_ok.1 hx
    refine ⟨p, s, x, hc, hs, fun e he => ?_, ?_, hd⟩
    · simp only [he] at hx
      cases hx
      cases hr
    · dsimp only at hx
      split at hx
      case h_4 =>
        obtain ⟨due, -, hx⟩ := bind_eq_ok.1 hx
        cases hx
        rfl
      all_goals
        cases hx
        rfl

omit [Lua] [Chance] in
theorem items_settle (w : World) (result : Except ScriptError Outcome) :
    (w.settle result).items = w.items := by
  unfold World.settle
  split <;> rfl

omit [Lua] [Chance] in
theorem accepts_written (i : Item) : i.function.accepts i.written.length := by
  cases i with
  | ofTrigger t => cases h : t.substitution <;> simp [Item.function, Item.written, Item.actions, h,
      Builtin.accepts, Builtin.arity]
  | ofChannel | ofAlias | ofKeyBinding => rfl

omit [Lua] in
/-- The program of a configuration all of whose texts come back. -/
theorem gives_compile_items {is : List Item} (h : ∀ i ∈ is, ∀ t ∈ i.written, Balanced t) :
    (compile .builtins none (spell (is.flatMap Item.pieces))).Gives (is.map Item.call) := by
  refine gives_compile_of_forall₂ (by rw [split, statements_of_balanced h]; rfl) ?_
  rw [List.forall₂_map_left_iff, List.forall₂_map_right_iff, List.forall₂_same]
  intro i _ c
  exact (Statement.gives_compile_of_declares i.find?_function i.substitutes_function).2
    ⟨by simpa using accepts_written i, rfl⟩

omit [Chance] in
theorem run_call {i : Item} (h : i.IsOf (i.written.map readBack) i.flags) (locals : Locals) :
    i.call.run .builtins locals = .ok (.ofEffect i.effect) := by
  have texts : ((i.written.map argumentOfWritten).map (Argument.value false)).map
      (Value.resolve locals) = i.written.map readBack := by
    simp [Function.comp_def]
  rw [Item.call, Instruction.run, i.find?_function]
  dsimp only
  rw [texts]
  exact Builtin.run_of_isOf h

theorem isLossless_of_isKept (hw : w.Keeps .sound) (hf : f.IsFresh) (h : ∀ i ∈ w.items, i.IsKept)
    (now : Nanos) : IsLossless w f now := by
  have isOf : ∀ i ∈ w.items, (∀ t ∈ i.written, Balanced t) ∧
      i.IsOf (i.written.map readBack) i.flags := by
    refine fun i hi => (h i hi).isOf fun t ht hs => ?_
    subst ht
    exact ((hw.items _ hi).2.2 [] hs).2 rfl
  have program := @gives_compile_items f.chance _ fun i hi => (isOf i hi).1
  rw [← saveConfig_eq] at program
  have run : Program.run .builtins (w.items.map Item.call) f.engine.locals =
      .ok ⟨w.items.map Item.effect, [], f.engine.locals, .finished⟩ := by
    apply run_of_declaring
    rw [List.forall₂_map_right_iff, List.forall₂_same]
    exact fun i hi => run_call (isOf i hi).2
  have registry : f.engine.registry = .builtins := by
    rw [hf.engine]
    rfl
  let ran : Execution := ⟨f.engine, w.items.map Item.effect, .ok .completed⟩
  have driven (label : Text) :
      @Engine.executeRaw _ f.chance f.engine w.saveConfig label now = .ok ran := by
    unfold Engine.executeRaw Engine.start
    rw [registry, show (@compile f.chance .builtins none w.saveConfig).run = .ok (.ok _) from program]
    show f.engine.drive _ _ _ _ = _
    unfold Engine.drive
    rw [registry, run]
    rfl
  have concluded : (f.ran ran).conclude ran now = .ok (w.items.foldl declare (f.ran ran)) := by
    rw [conclude_ran, carryOut, applyEffects_items]
    rfl
  have loaded : f.loadConfig w.saveConfig now =
      .ok (w.items.foldl declare (f.ran ran), .ok ()) := by
    unfold World.loadConfig
    rw [driven]
    show (do
      let v ← (f.ran ran).conclude ran now
      return (v, Except.ok ())) = _
    rw [concluded]
    rfl
  obtain ⟨hc, ha, ht, hk⟩ := items_foldl_declare (w := f.ran ran) hf.items hw.channels hw.aliases
    hw.triggers hw.keyBindings
  exact ⟨_, loaded, hc, ha, ht, hk⟩

omit [Chance] in
theorem isOf_of_line {_ : Chance} {i j : Item} {s : Statement} {c : Instruction} {r rest : Text}
    {locals : Locals} (hr : StartsBlank r) (hs : statement (i.line ++ r) = .ok (s, rest))
    (hc : (s.compile .builtins none).Gives c)
    (hj : c.run .builtins locals = .ok (.ofEffect j.effect)) :
    i.function = j.function ∧ j.IsOf (s.arguments.map Argument.literal) s.flags := by
  have find : Registry.builtins.find? s.function = some i.function := by
    rw [i.function_of_statement hr hs, i.find?_function]
  obtain ⟨-, rfl⟩ := (Statement.gives_compile_of_declares find i.substitutes_function).1 hc
  have texts : (s.arguments.map (Argument.value false)).map (Value.resolve locals) =
      s.arguments.map Argument.literal := by
    simp
  simp only [Instruction.run, find, texts] at hj
  rcases Builtin.run_declares i.substitutes_function hj with ⟨e, he⟩ | ⟨k, hk, hof, he⟩
  · cases he
  · rw [Item.ofEffect_effect] at he
    subst he
    exact ⟨hk.symm, hof⟩

omit [Lua] [Chance] in
theorem forall_call_of_compile {ss : List Statement} {p : Program}
    (h : List.Forall₂ (fun s c => ∃ chance, (@Statement.compile chance .builtins none s).Gives c)
      ss p)
    (hs : ∀ s ∈ ss, s.Declares) : ∀ c ∈ p, ∃ f function values flags, c = .call function values flags ∧
      Registry.builtins.find? function = some f ∧ f.substitutes = false := by
  induction h with
  | nil => exact fun _ hc => nomatch hc
  | cons hc _ ih =>
    obtain ⟨_, hc⟩ := hc
    obtain ⟨⟨f, hf, hsub⟩, hmore⟩ := List.forall_mem_cons.1 hs
    obtain ⟨-, rfl⟩ := (Statement.gives_compile_of_declares hf hsub).1 hc
    exact List.forall_mem_cons.2 ⟨⟨f, _, _, _, rfl, hf, hsub⟩, ih hmore⟩

omit [Chance] in
/-- A line that declares its own item keeps it. -/
theorem forall₂_isKept {is js : List Item} {ss : List Statement} {p : Program}
    (lines : List.Forall₂ (fun i s => ∃ r rest, StartsBlank r ∧
      statement (Item.line i ++ r) = .ok (s, rest)) is ss)
    (compiled : List.Forall₂
      (fun s c => ∃ chance, (@Statement.compile chance .builtins none s).Gives c) ss p)
    (ran : List.Forall₂ (fun j (c : Instruction) =>
      ∃ locals, c.run .builtins locals = .ok (.ofEffect (Item.effect j))) js p) :
    List.Forall₂ (fun i j : Item => i.function = j.function ∧ (i = j → i.IsKept)) is js := by
  induction lines generalizing p js with
  | nil =>
    cases compiled
    cases ran
    exact .nil
  | cons hi _ ih =>
    obtain ⟨r, rest, hr, hs⟩ := hi
    cases compiled with
    | cons hc compiled =>
      cases ran with
      | cons hj ran =>
        obtain ⟨_, hc⟩ := hc
        obtain ⟨locals, hj⟩ := hj
        obtain ⟨hf, hof⟩ := isOf_of_line hr hs hc hj
        refine .cons ⟨hf, fun he => ?_⟩ (ih compiled ran)
        subst he
        exact Item.isKept_of_statement hr hs hof

omit [Lua] [Chance] in
theorem IsLossless.items_eq (h : w'.channels.items.map Channel.name =
      w.channels.items.map Channel.name ∧ w'.aliases.items = w.aliases.items ∧
      w'.triggers.items = w.triggers.items ∧ w'.keyBindings.items = w.keyBindings.items) :
    w'.items = w.items := by
  obtain ⟨hc, ha, ht, hk⟩ := h
  rw [items, items, hc, ha, ht, hk]

theorem isKept_of_isLossless (hw : w.Keeps .sound) (hf : f.IsFresh)
    (h : IsLossless w f now) : ∀ i ∈ w.items, i.IsKept := by
  obtain ⟨w', hload, hsame⟩ := h
  have same := IsLossless.items_eq hsame
  have registry : f.engine.registry = .builtins := by
    rw [hf.engine]
    rfl
  rw [saveConfig_eq] at hload
  -- Everything that was loaded is tame, and that is everything that was saved.
  have tame : ∀ i ∈ w.items, Rule.tame.Allows i := by
    have hj : IsJoined False (w.items.flatMap Item.pieces) :=
      (Item.isJoined_flatMap_pieces hw.items fun h => h.elim).1
    have loaded := (hf.keeps .tame).loadConfig Rule.isClosed_tame
      (fun _ _ => Rule.allowsProgram_spell hj) hload
    rw [← same]
    exact loaded.items
  obtain ⟨p, s, x, hp, hrun, hend, heff, hdone⟩ := exists_of_loadConfig registry hload
  obtain ⟨ss, hss, compiled⟩ := forall₂_of_gives_compile hp
  have read : statements (spell (w.items.flatMap Item.pieces)) = .ok ss := statements_of_split hss
  obtain ⟨declares, hle, lines⟩ := forall₂_of_statements hw.items tame read
  obtain ⟨js, heffects, ran⟩ := forall₂_of_run (forall_call_of_compile compiled declares) hrun hend
  -- The loaded world has the items that the lines declare, and has as many items as there are lines.
  have loaded : w.items = (js.foldl declare (f.ran x)).items := by
    rw [conclude_ran, carryOut, heff, heffects, applyEffects_items] at hdone
    cases hdone
    rw [← same, items_settle]
  have none : World.items (f.ran x) = [] := hf.items
  have count := length_items_foldl_le (f.ran x) js
  rw [← loaded, none, List.length_nil, ran.length_eq, ← compiled.length_eq] at count
  have kinds : ∀ g, itemsOf g w.items = itemsOf g js := by
    intro g
    have grown : (js.foldl declare (f.ran x)).items.length =
        (World.items (f.ran x)).length + js.length := by
      rw [← loaded, none, List.length_nil, ran.length_eq, ← compiled.length_eq]
      omega
    rw [loaded, itemsOf_foldl grown, none]
    rfl
  have each := forall₂_isKept (lines (by omega)) compiled ran
  obtain rfl : js = w.items := (eq_of_itemsOf (each.imp fun _ _ h => h.1) kinds).symm
  rw [List.forall₂_same] at each
  exact fun i hi => (each i hi).2 rfl

/-- Saving and loading loses nothing exactly if every text of every channel and reaction comes back
from its written form. -/
theorem isLossless_iff_of_reachable (hw : w.Reachable) (hf : f.IsFresh) (now : Nanos) :
    IsLossless w f now ↔ ∀ i ∈ w.items, i.IsKept :=
  ⟨isKept_of_isLossless hw.keeps hf, fun h => isLossless_of_isKept hw.keeps hf h now⟩

/-- What becomes of a new world if its configuration is loaded without an error. -/
def loaded? (text : Text) : Option World :=
  match (create default).loadConfig text 0 with
  | .ok (w, .ok ()) => some w
  | _ => none

theorem loadConfig_of_loaded? {text : Text} (h : loaded? text = some w) :
    (create default).loadConfig text 0 = .ok (w, .ok ()) := by
  unfold loaded? at h
  split at h
  · rename_i v hv
    cases h
    exact hv
  · cases h

theorem reachable_of_loaded? {text : Text} (h : loaded? text = some w) : w.Reachable :=
  .loadConfig (.fresh (isFresh_create default)) (loadConfig_of_loaded? h)

end

/-- A configuration whose actions have several commands, braces and semicolons of their own. -/
def wellWritten : Text :=
  ("#channel chat\n#alias k* \x7bkill $1;#alias x \x7ba;;b\x7d\x7d\n" ++
    "#trigger \x7bYou die\x7d \x7bsay oh;#pause 2\x7d \x7bdead; really\x7d +mute\n" ++
    "#macro \x7bctrl + f1\x7d look").toList

theorem isLossless_loaded : ∃ w, loaded? wellWritten = some w ∧ w.items.length = 4 ∧
    IsLossless w (create default) 0 := by
  have kept : (loaded? wellWritten).elim false
      (fun w => decide (w.items.length = 4 ∧ ∀ i ∈ w.items, i.IsKept)) = true := by
    decide +kernel
  generalize hl : loaded? wellWritten = found at kept ⊢
  cases found with
  | none => cases kept
  | some w =>
    obtain ⟨hn, hk⟩ := of_decide_eq_true kept
    refine ⟨w, rfl, hn, ?_⟩
    exact (isLossless_iff_of_reachable (reachable_of_loaded? hl) (isFresh_create default) 0).2 hk

/-- A word with a brace that has no partner is written between braces, and then read as two texts. -/
theorem not_isLossless_of_brace :
    ¬ ∀ w f now, Reachable w → IsFresh f → IsLossless w f now := by
  intro lossless
  have saved : (loaded? "#alias a b\x7dc".toList).map saveConfig =
      some "#alias a \x7bb\x7dc\x7d\n".toList := by
    decide +kernel
  obtain ⟨w, hl, hw⟩ := Option.map_eq_some_iff.1 saved
  obtain ⟨w', h, -⟩ := lossless w (create default) 0 (reachable_of_loaded? hl)
    (isFresh_create default)
  have refused : (loaded? "#alias a \x7bb\x7dc\x7d\n".toList).isNone := by decide +kernel
  rw [← hw, loaded?, h] at refused
  cases refused

end World
end MudClient
