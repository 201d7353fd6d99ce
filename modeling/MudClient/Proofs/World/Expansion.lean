import MudClient.Proofs.World.Course
/-! Aliases within each other. Nothing but the action of an alias enters a pattern, and nothing
takes one away, so where a command is sent the patterns that were entered are as many as its depth,
all different and all of aliases that are still there. -/
namespace MudClient

open Script (Effect Nanos Chance)
open Keyed (key)

namespace Roster

variable {α κ : Type} [Keyed α κ] [DecidableEq κ]

theorem mem_keys_putItem {item : α} {items : List α} {k : κ} (h : k ∈ items.map key) :
    k ∈ (putItem item items).map key := by
  induction items with
  | nil => exact absurd h List.not_mem_nil
  | cons x r ih =>
    rw [putItem]
    split
    · rename_i hk
      simpa [← hk] using h
    · exact (List.mem_cons.1 h).elim (fun h => h ▸ List.mem_cons_self)
        fun h => List.mem_cons_of_mem _ (ih h)

end Roster

namespace World

/-- The patterns by which aliases are registered. -/
def patterns (w : World) : List Text := w.aliases.items.map (·.pattern.source)

/-- No pattern that was entered is left, and none that was registered is gone. -/
structure Grows (w v : World) : Prop where
  expanding : v.expanding = w.expanding
  patterns : w.patterns ⊆ v.patterns

variable {w v u : World} {now : Nanos}

theorem Grows.refl (w : World) : Grows w w := ⟨rfl, List.Subset.refl _⟩

theorem Grows.trans (h : Grows w v) (h' : Grows v u) : Grows w u :=
  ⟨h'.expanding.trans h.expanding, List.Subset.trans h.patterns h'.patterns⟩

theorem grows_settle (w : World) (result : Except ScriptError Outcome) :
    Grows w (w.settle result) := by
  unfold World.settle
  split <;> exact ⟨rfl, List.Subset.refl _⟩

theorem grows_ran (w : World) (x : Execution) (job : Job) : Grows w (job.ran w x) := by
  cases job <;> exact ⟨rfl, List.Subset.refl _⟩

section

variable [Lua] [Chance]

theorem respects_grows : Respects (fun _ => True) Grows where
  refl := .refl
  trans := .trans
  transmit w command := by
    unfold World.transmit
    split <;> exact ⟨rfl, List.Subset.refl _⟩
  display w _ _ := ⟨rfl, List.Subset.refl _⟩
  wait w _ := ⟨rfl, List.Subset.refl _⟩
  reset w := ⟨rfl, List.Subset.refl _⟩
  effect {w v send e} hn h := by
    cases e with
    | send text => exact absurd rfl (hn text)
    | declareAlias item =>
      cases h
      exact ⟨rfl, fun _ hp => Roster.mem_keys_putItem hp⟩
    | _ =>
      cases h
      exact ⟨rfl, List.Subset.refl _⟩
  run _ _ h := ((grows_ran _ _ _).trans h).trans (grows_settle _ _)
  enter {w v now a captures x} _ h := by
    -- What is left of the patterns inside is what they were before the alias entered its own.
    have out : Grows w { v with expanding := v.expanding.tail } :=
      ⟨congrArg List.tail h.expanding, h.patterns⟩
    exact out.trans (grows_settle _ _)

theorem grows_step {s : Step} {answer : Answer} (h : w.step s = .ok (v, answer)) : Grows w v :=
  respects_grows.step (fun _ _ => trivial) h

end

/-- The patterns that were entered are so many, all different and all registered. -/
structure IsStacked (w : World) (depth : Nat) : Prop where
  length : w.expanding.length = depth
  distinct : w.expanding.Nodup
  registered : w.expanding ⊆ w.patterns

theorem IsStacked.grows {depth : Nat} (h : w.IsStacked depth) (hg : Grows w v) :
    v.IsStacked depth where
  length := hg.expanding ▸ h.length
  distinct := hg.expanding ▸ h.distinct
  registered := hg.expanding ▸ List.Subset.trans h.registered hg.patterns

/-- No more patterns can be entered than there are. -/
theorem IsStacked.le {depth : Nat} (h : w.IsStacked depth) : depth ≤ w.patterns.length :=
  h.length ▸ h.distinct.length_le_of_subset h.registered

theorem isStacked_of_nil (h : w.expanding = []) : w.IsStacked 0 := by
  constructor <;> simp [h]

theorem not_mem_of_answer? {r : Roster Alias} {command : Text} {except : List Text} {a : Alias}
    {captures : Captures} (h : r.answer? command except = some (a, captures)) :
    a.pattern.source ∉ except := by
  obtain ⟨b, hb, hm⟩ := List.exists_of_findSome?_eq_some h
  split at hm
  · cases hm
  · rename_i hn
    obtain ⟨c, -, hc⟩ := Option.map_eq_some_iff.1 hm
    cases hc
    simpa using hn

/-- An alias enters its own pattern, which was not entered before. -/
theorem IsStacked.enter {depth : Nat} (h : w.IsStacked depth) {command : Text} {a : Alias}
    {captures : Captures} (ha : w.aliases.answer? command w.expanding = some (a, captures))
    (x : Execution) : ((Job.ofAlias a captures).enter w x).IsStacked (depth + 1) where
  length := congrArg Nat.succ h.length
  distinct := List.nodup_cons.2 ⟨not_mem_of_answer? ha, h.distinct⟩
  registered := List.cons_subset.2 ⟨List.mem_map_of_mem (mem_of_answer? ha), h.registered⟩

/-- The patterns that were entered where a call is made, or where the effects of its script are
carried out, are as many as levels were used up. -/
def Call.IsStacked : Call → Prop
  | .send levels w _ => ∃ depth, depth + levels = maxDepth + 1 ∧ w.IsStacked depth
  | .script levels w job => ∃ depth, depth + levels = maxDepth + 1 ∧
      ∀ x, (job.enter w x).IsStacked depth

section

variable [Lua] [Chance]

theorem Call.IsStacked.calls {c d : Call} (h : c.IsStacked) (hc : Calls now c d) : d.IsStacked := by
  cases hc with
  | answer hv ha =>
    obtain ⟨depth, hd, hs⟩ := h
    have same := respects_grows.comesTo
      (fun _ _ _ _ => respects_grows.handleCommand (respects_grows.send now _)) hv
    exact ⟨depth + 1, by omega, (hs.grows same).enter ha⟩
  | effect _ hv =>
    obtain ⟨depth, hd, hs⟩ := h
    have same := respects_grows.comesTo
      (fun _ _ _ _ => respects_grows.applyEffect (respects_grows.send now _)) hv
    exact ⟨depth, hd, (hs _).grows same⟩

/-- Nothing was entered where something begins. -/
theorem isStacked_of_begins {s : Step} {c : Call} (hw : w.expanding = []) (h : Begins w s c) :
    c.IsStacked := by
  have empty {v : World} (hg : Grows w v) : v.IsStacked 0 := (isStacked_of_nil hw).grows hg
  have start : 0 + (maxDepth + 1) = maxDepth + 1 := Nat.zero_add _
  cases h with
  | input => exact ⟨0, start, empty (.refl w)⟩
  | key | load => exact ⟨0, start, fun x => empty ⟨rfl, List.Subset.refl _⟩⟩
  | poll hv =>
    have same := respects_grows.comesTo (fun _ _ _ _ => respects_grows.wake trivial) hv
    exact ⟨0, start, fun x => empty ⟨same.expanding, same.patterns⟩⟩
  | @message _ line _ v _ t captures hv =>
    have same : Grows w v := hv.keeps (p := fun state : World × Reception => Grows w state.1)
      (fun _ _ _ _ h hl => h.trans (respects_grows.handleLine (fun _ _ _ => trivial) hl))
      (.refl w)
    refine ⟨0, start, fun x => empty (same.trans ?_)⟩
    have shown := respects_grows.showLine (v.ran x) .empty
      (shownBy t captures line x).1 (shownBy t captures line x).2
    exact ⟨shown.expanding, shown.patterns⟩

theorem isStacked_of_makes {s : Step} {c : Call} (hw : w.expanding = []) (h : Makes w s c) :
    c.IsStacked := by
  obtain ⟨first, hb, hc⟩ := h
  induction hc with
  | refl => exact isStacked_of_begins hw hb
  | tail _ hd ih => exact ih.calls hd

theorem Reachable.expanding (h : w.Reachable) : w.expanding = [] :=
  h.induction (p := fun w => w.expanding = []) (fun _ h => h.expanding)
    fun _ _ _ _ h hs => (grows_step hs).expanding.trans h

/-- Aliases within each other come to an end, whatever is registered or declared on the way: the
patterns that were entered are as many as the depth, all different and all of aliases that are
registered then, and none is left when the operation is over. So a command is dropped for its depth
only where there are more aliases than may be within each other. -/
theorem expanding_of_reachable (hw : w.Reachable) (s : Step) :
    (∀ v answer, w.step s = .ok (v, answer) → v.expanding = []) ∧
      (WellFounded fun d c => Calls s.time c d) ∧
      ∀ levels u text, Makes w s (.send levels u text) →
        u.expanding.length + levels = maxDepth + 1 ∧ u.expanding.Nodup ∧
          u.expanding ⊆ u.patterns ∧ (levels = 0 → maxDepth + 1 ≤ u.patterns.length) := by
  refine ⟨fun v answer h => (grows_step h).expanding.trans hw.expanding,
    Subrelation.wf left_lt_of_calls (measure Call.left).wf, fun levels u text h => ?_⟩
  obtain ⟨depth, hd, hs⟩ := isStacked_of_makes hw.expanding h
  refine ⟨hs.length ▸ hd, hs.distinct, hs.registered, fun hl => ?_⟩
  have := hs.le
  omega

/-- What the action of the first alias for a command sends first. -/
def answered? (w : World) (command : Text) (now : Nanos) : Option Text :=
  match w.aliases.answer? command w.expanding with
  | none => none
  | some (a, captures) =>
    match @Alias.fire _ w.chance a captures w.engine now with
    | .ok ⟨_, .send text :: _, _⟩ => some text
    | _ => none

theorem exists_makes_of_answered? {command text : Text}
    (hc : splitCommands w.settings.commandStacking command = [command])
    (hb : Text.isAllBlank command = false) (h : w.answered? command now = some text) :
    ∃ u, Makes w (.input command now) (.send maxDepth u text) := by
  unfold answered? at h
  split at h
  · cases h
  · rename_i a captures ha
    split at h
    · rename_i e first sent result hrun
      cases h
      have sends : ComesTo (applyEffect (World.send now maxDepth))
          ((Job.ofAlias a captures).enter w ⟨e, .send text :: sent, result⟩) (.send text :: sent)
          ((Job.ofAlias a captures).enter w ⟨e, .send text :: sent, result⟩) (.send text) :=
        ⟨[], sent, rfl, rfl⟩
      exact ⟨_, _, .input hb, .tail (.single (.answer ⟨[], [], hc, rfl⟩ ha)) (.effect hrun sends)⟩
    · cases h

end

/-- An alias whose action another alias answers, which declares a third one. -/
theorem expanding_of_reachable_within : ∃ w,
    loaded? "#alias a b\n#alias b \x7b#alias c d\x7d".toList = some w ∧ w.Reachable ∧
      (∃ u text, Makes w (.input "a".toList 0) (.send maxDepth u text)) ∧
      ∀ levels u text, Makes w (.input "a".toList 0) (.send levels u text) →
        u.expanding.length + levels = maxDepth + 1 ∧ u.expanding.Nodup ∧
          u.expanding ⊆ u.patterns ∧ (levels = 0 → maxDepth + 1 ≤ u.patterns.length) := by
  have runs : (loaded? "#alias a b\n#alias b \x7b#alias c d\x7d".toList).elim false (fun w =>
      decide (w.answered? "a".toList 0 = some "b".toList ∧
        splitCommands w.settings.commandStacking "a".toList = ["a".toList])) = true := by
    decide +kernel
  generalize hl : loaded? "#alias a b\n#alias b \x7b#alias c d\x7d".toList = found at runs ⊢
  cases found with
  | none => cases runs
  | some w =>
    obtain ⟨sent, command⟩ := of_decide_eq_true runs
    have reachable := reachable_of_loaded? hl
    obtain ⟨u, made⟩ := exists_makes_of_answered? command (by decide) sent
    exact ⟨w, rfl, reachable, ⟨u, _, made⟩, (expanding_of_reachable reachable _).2.2⟩

end World
end MudClient
