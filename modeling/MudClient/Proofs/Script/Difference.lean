import Mathlib.Data.List.Nodup
import MudClient.Proofs.Lua.Watch
import MudClient.Proofs.Script.Write
/-! What a block writes back. The changes of a block lead from the table that it was given to the table
that it leaves, and name nothing that is the same in both. -/
namespace MudClient.Script

namespace Locals

theorem mem_names (l : Locals) (name : Text) : name ∈ l.vars.names ↔ l.get? name ≠ none := by
  rw [get?, NameMap.get?, ne_eq, Option.map_eq_none_iff, List.find?_eq_none, NameMap.names]
  simp

theorem nodup_names (l : Locals) : l.vars.names.Nodup :=
  (List.pairwise_map.2 l.vars.sorted).imp fun {a b} (h : a < b) (same : a = b) =>
    List.lt_irrefl b (same ▸ h)

end Locals

theorem mem_names_iff_lastValue? {changes : List Change} {name : Text} :
    name ∈ changes.map Change.name ↔ lastValue? name changes ≠ none := by
  simp [lastValue?]

namespace Block

variable {l : Locals} {vars : List (Text × Option Text)} {name : Text}

/-- The changes of a block name only what differs. -/
theorem ne_of_write? {value : Option Text} (h : write? l vars name = some value) :
    value ≠ l.get? name := by
  rw [write?] at h
  split at h
  · rename_i gone
    cases h
    exact ((l.mem_names name).1 gone.1).symm
  · obtain ⟨text, last, rfl⟩ := Option.map_eq_some_iff.1 h
    obtain ⟨e, -, he⟩ := List.mem_filterMap.1 (List.mem_of_getLast? last)
    split at he
    · have := (Option.filter_eq_some_iff.1 he).2
      simpa using this
    · cases he

theorem mem_changes : name ∈ (changes l vars).map Change.name ↔
    (l.applyChanges (changes l vars)).get? name ≠ l.get? name := by
  rw [mem_names_iff_lastValue?, Locals.get?_applyChanges, lastValue?_changes]
  cases h : write? l vars name with
  | none => simp
  | some value => simpa using ne_of_write? h

/-- Changes that are made from entries, each under the name of its entry. -/
def KeepsName (f : Text × Option Text → Option Change) : Prop :=
  ∀ e c, f e = some c → c.name = e.1

theorem KeepsName.nodup {f : Text × Option Text → Option Change} (keeps : KeepsName f)
    (distinct : (vars.map (·.1)).Nodup) : ((vars.filterMap f).map Change.name).Nodup := by
  refine List.pairwise_map.2 (List.pairwise_filterMap.2 ((List.pairwise_map.1 distinct).imp ?_))
  intro d e ne c hc c' hc'
  rwa [keeps d c hc, keeps e c' hc']

theorem KeepsName.mem {f : Text × Option Text → Option Change} (keeps : KeepsName f)
    (h : name ∈ (vars.filterMap f).map Change.name) : name ∈ vars.map (·.1) := by
  obtain ⟨c, hc, rfl⟩ := List.mem_map.1 h
  obtain ⟨e, he, found⟩ := List.mem_filterMap.1 hc
  rw [keeps e c found]
  exact List.mem_map_of_mem he

theorem nodup_changes (distinct : (vars.map (·.1)).Nodup) :
    ((changes l vars).map Change.name).Nodup := by
  have keeps (f : Text × Option Text → Option Change) (hf : ∀ e, f e = e.2.bind fun text =>
      if l.get? e.1 = some text then none else some (.set e.1 text)) : KeepsName f := by
    intro e c hc
    obtain ⟨text, -, hc⟩ := Option.bind_eq_some_iff.1 ((hf e).symm.trans hc)
    split at hc <;> cases hc
    rfl
  have gone : ((l.vars.names.filter fun name => !(vars.map (·.1)).contains name).map
      Change.delete).map Change.name =
        l.vars.names.filter fun name => !(vars.map (·.1)).contains name := by
    rw [List.map_map]
    exact List.map_id _
  -- both halves take their names from lists without repetition, and no name is in both
  rw [changes, List.map_append, gone, List.nodup_append]
  refine ⟨(keeps _ fun _ => rfl).nodup distinct, l.nodup_names.filter _, fun a ha b hb same => ?_⟩
  have fresh := (List.mem_filter.1 hb).2
  simp only [Bool.not_eq_true', List.contains_eq_mem, decide_eq_false_iff_not] at fresh
  exact fresh (same ▸ (keeps _ fun _ => rfl).mem ha)

/-- What is done with an entry is done once. -/
theorem filterMap_of_distinct {α : Type} (distinct : (vars.map (·.1)).Nodup) {value : Option Text}
    (h : (name, value) ∈ vars) (f : Option Text → Option α) :
    (vars.filterMap fun e => if e.1 = name then f e.2 else none) = (f value).toList := by
  induction vars with
  | nil => cases h
  | cons e rest ih =>
    obtain ⟨fresh, distinct⟩ := List.nodup_cons.1 distinct
    rcases List.mem_cons.1 h with rfl | later
    · have none : rest.filterMap (fun e => if e.1 = name then f e.2 else none) = [] := by
        refine List.filterMap_eq_nil_iff.2 fun e he => if_neg fun same => fresh ?_
        exact List.mem_map.2 ⟨e, he, same⟩
      cases hf : f value <;> simp [hf, none]
    · have other : e.1 ≠ name := fun same =>
        fresh (List.mem_map.2 ⟨_, later, same.symm⟩)
      simp [other, ih distinct later]

/-- An entry with a text gives its name this text; one without leaves the name as it was. -/
theorem get?_of_mem (distinct : (vars.map (·.1)).Nodup) {value : Option Text}
    (h : (name, value) ∈ vars) :
    (l.applyChanges (changes l vars)).get? name = value.or (l.get? name) := by
  have kept : name ∈ vars.map (·.1) := List.mem_map_of_mem (f := (·.1)) h
  rw [Locals.get?_applyChanges, lastValue?_changes, write?, if_neg fun gone => gone.2 kept,
    filterMap_of_distinct distinct h fun value => value.filter (some · ≠ l.get? name)]
  cases value with
  | none => rfl
  | some text =>
    by_cases same : l.get? name = some text
    · simp [Option.filter_some, same]
    · simp [Option.filter_some, Ne.symm same]

/-- A name without an entry is gone. -/
theorem get?_of_not_mem (h : name ∉ vars.map (·.1)) :
    (l.applyChanges (changes l vars)).get? name = none := by
  rw [Locals.get?_applyChanges, lastValue?_changes, write?]
  by_cases old : name ∈ l.vars.names
  · rw [if_pos ⟨old, h⟩]
    rfl
  · have none : vars.filterMap (fun e => if e.1 = name then e.2.filter (some · ≠ l.get? name) else none)
        = [] :=
      List.filterMap_eq_nil_iff.2 fun e he =>
        if_neg fun (same : e.1 = name) => h (List.mem_map.2 ⟨e, he, same⟩)
    rw [if_neg fun gone => old gone.1, none]
    exact not_not.1 fun some => old ((l.mem_names name).2 some)

/-! ### What a block leaves -/

open Lua (Leads Table Tables)
open Lua.Block (start tableAt? varText? varTexts said fed UsesFunctions)

theorem mem_varTexts {t : Table} {name : Text} {key value : Lua.Value}
    (h : (key, value) ∈ t.present) (hk : key.toText? = some name) :
    (name, varText? value) ∈ varTexts t :=
  List.mem_filterMap.2 ⟨_, h, by simp [hk]⟩

theorem map_fst_varTexts (t : Table) :
    (varTexts t).map (·.1) = t.present.filterMap (·.1.toText?) := by
  rw [varTexts, List.map_filterMap]
  refine List.filterMap_congr fun (key, value) _ => ?_
  dsimp only
  cases key.toText? <;> rfl

theorem nodup_varTexts {t : Table} (distinct : (t.present.map (·.1.toText?)).Nodup) :
    ((varTexts t).map (·.1)).Nodup := by
  have keys : t.present.filterMap (·.1.toText?) =
      (t.present.map (·.1.toText?)).filterMap id := by
    rw [List.filterMap_map]
    rfl
  rw [map_fst_varTexts, keys]
  exact distinct.filterMap fun a b c ha hb => ha.trans hb.symm

section

variable [Lua]

theorem run_of_finished {source : Text} {after : Tables} {happened : List Lua.Event} {t : Table}
    (ended : Lua.exec source (start l.vars.entries l.args) = .finished after)
    (leads : Leads (start l.vars.entries l.args) happened after) (uses : UsesFunctions happened)
    (table : tableAt? after (after.global "vars") = some t) :
    run source l = .ok
      ⟨(said .send happened).map .send ++ (said .echo happened).map .display ++
        (said .say happened).map (.speak · false) ++
        (fed happened).map fun (channel, message) => .feed channel message,
      changes l (varTexts t), .ok .next⟩ := by
  have keeps : Lua.Block.Keeps ([] ++ happened) after :=
    (Lua.Block.keeps_start _ _).leads leads uses
  rw [run, Lua.Block.run, ended]
  dsimp only
  rw [Lua.Block.collect_of_keeps keeps, table]
  rfl

/-- A block in whatever language. If it ends without error, by calls of the functions of `mud` and by
steps that leave alone what belongs to `mud`, and `vars` is left a table whose keys have texts of
their own, then it writes back exactly what differs, and emits what was said in the order of the
lists. One that fails does nothing, and only one without an end has no reply. -/
theorem run_writes_difference (source : Text) (l : Locals) :
    ((∃ reply, run source l = .ok reply) ↔
      Lua.exec source (start l.vars.entries l.args) ≠ .endless) ∧
    (Lua.exec source (start l.vars.entries l.args) = .failed →
      run source l = .ok (.ofError .block)) ∧
    ∀ (after : Tables) (happened : List Lua.Event) (t : Table),
      Lua.exec source (start l.vars.entries l.args) = .finished after →
      Leads (start l.vars.entries l.args) happened after → UsesFunctions happened →
      tableAt? after (after.global "vars") = some t →
      (∀ e ∈ t.present, e.1.toText?.isSome) → (t.present.map (·.1.toText?)).Nodup →
      ∃ reply, run source l = .ok reply ∧
        let written := l.applyChanges reply.changes
        reply.flow = .ok .next ∧
        (∀ name key value, (key, value) ∈ t.present → key.toText? = some name →
          written.get? name = (varText? value).or (l.get? name)) ∧
        (∀ name, (∀ e ∈ t.present, e.1.toText? ≠ some name) → written.get? name = none) ∧
        (reply.changes.map Change.name).Nodup ∧
        (∀ name, name ∈ reply.changes.map Change.name ↔ written.get? name ≠ l.get? name) ∧
        written.args = l.args ∧
        reply.effects = (said .send happened).map .send ++ (said .echo happened).map .display ++
          (said .say happened).map (.speak · false) ++
          (fed happened).map fun (channel, message) => .feed channel message := by
  refine ⟨?_, fun failed => ?_, fun after happened t ended leads uses table _ distinct => ?_⟩
  · rw [run, Lua.Block.run]
    cases Lua.exec source (start l.vars.entries l.args) <;> simp
  · rw [run, Lua.Block.run, failed]
    rfl
  · refine ⟨_, run_of_finished ended leads uses table, ?_⟩
    have names := nodup_varTexts distinct
    refine ⟨rfl, fun name key value he hk => get?_of_mem names (mem_varTexts he hk),
      fun name absent => get?_of_not_mem ?_, nodup_changes names, fun name => mem_changes,
      Locals.args_applyChanges .., rfl⟩
    rw [map_fst_varTexts]
    intro hm
    obtain ⟨e, he, hk⟩ := List.mem_filterMap.1 hm
    exact absent e he hk

end

/-- A block that counts, drops a name and puts a table where a text was. -/
def recount : Text :=
  "mud.echo('b') vars.hp = vars.hp + 1 vars.old = nil vars.bag = {} mud.send('a')".toList

def uncounted : Locals := ⟨.ofList [("bag".toList, "full".toList), ("hp".toList, "9".toList),
  ("old".toList, "x".toList)], ["1".toList]⟩

/-- The tables at the end of a block that finished. -/
def finished? : Lua.Ending → Option Tables
  | .finished after => some after
  | .endless | .failed => none

theorem finished?_eq_some {e : Lua.Ending} {after : Tables} :
    finished? e = some after ↔ e = .finished after := by
  cases e <;> simp [finished?]

theorem run_writes_difference_recount :
    ∃ after happened t reply,
      Lua.exec recount (start uncounted.vars.entries uncounted.args) = .finished after ∧
      Leads (start uncounted.vars.entries uncounted.args) happened after ∧
      UsesFunctions happened ∧ tableAt? after (after.global "vars") = some t ∧
      (∀ e ∈ t.present, e.1.toText?.isSome) ∧ (t.present.map (·.1.toText?)).Nodup ∧
      run recount uncounted = .ok reply ∧
      let written := uncounted.applyChanges reply.changes
      written.get? "hp".toList = some "10".toList ∧
      written.get? "bag".toList = some "full".toList ∧ written.get? "old".toList = none ∧
      written.args = ["1".toList] ∧ reply.effects = [.send "a".toList, .display "b".toList] := by
  have uses : UsesFunctions
      (Lua.events recount (start uncounted.vars.entries uncounted.args)) := by
    decide +kernel
  have present : ((finished? (Lua.exec recount (start uncounted.vars.entries uncounted.args))).bind
      fun after => (tableAt? after (after.global "vars")).map Table.present) =
        some [(.ofString "bag", .table 11), (.ofString "hp", .int 10)] := by
    decide +kernel
  obtain ⟨after, ended, present⟩ := Option.bind_eq_some_iff.1 present
  have ended := finished?_eq_some.1 ended
  obtain ⟨t, table, present⟩ := Option.map_eq_some_iff.1 present
  have leads := Lua.leads_events ended
  have keyed : ∀ e ∈ t.present, e.1.toText?.isSome := by
    rw [present]
    decide +kernel
  have distinct : (t.present.map (·.1.toText?)).Nodup := by
    rw [present]
    decide +kernel
  obtain ⟨reply, ran, -, entry, absent, -, -, args, effects⟩ :=
    (run_writes_difference recount uncounted).2.2 after _ t ended leads uses table keyed distinct
  rw [present] at entry absent
  refine ⟨after, _, t, reply, ended, leads, uses, table, keyed, distinct, ran, ?_, ?_, absent _ ?_,
    args, effects.trans ?_⟩
  · exact entry "hp".toList (.ofString "hp") (.int 10) (by simp) (by decide +kernel)
  · exact entry "bag".toList (.ofString "bag") (.table 11) (by simp) (by decide +kernel)
  · decide +kernel
  · have said : said .send (Lua.events recount (start uncounted.vars.entries uncounted.args)) =
          ["a".toList] ∧
        said .echo (Lua.events recount (start uncounted.vars.entries uncounted.args)) =
          ["b".toList] ∧
        said .say (Lua.events recount (start uncounted.vars.entries uncounted.args)) = [] ∧
        fed (Lua.events recount (start uncounted.vars.entries uncounted.args)) = [] := by
      decide +kernel
    rw [said.1, said.2.1, said.2.2.1, said.2.2.2]
    rfl

end Block
end MudClient.Script
