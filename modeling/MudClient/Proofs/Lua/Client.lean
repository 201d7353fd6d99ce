import Mathlib.Data.List.Forall2
import MudClient.Proofs.Lua.Sequence
/-! The tables of the client while a block runs. What happens to the tables is either a step of the
program or a call of a function of `mud`. As long as the block leaves the tables of the client alone,
the calls are all that changes them, and each list holds what was said in these calls, in their
order. -/
namespace MudClient.Lua

/-- A step of the program, or a call of a function of `mud` that came back. -/
inductive Event where
  | step (before after : Tables)
  | call (f : ClientFunction) (args : List Value) (before after : Tables)

/-- One event after the other, from tables to tables. -/
inductive Leads : Tables → List Event → Tables → Prop where
  | nil (tables : Tables) : Leads tables [] tables
  | step {before after last : Tables} {events : List Event} :
      Leads after events last → Leads before (.step before after :: events) last
  | call {f : ClientFunction} {args : List Value} {before after last : Tables}
      {events : List Event} : Block.call f args before = .ok after →
      Leads after events last → Leads before (.call f args before after :: events) last

theorem Leads.append {first second third : Tables} {a b : List Event} (ha : Leads first a second)
    (hb : Leads second b third) : Leads first (a ++ b) third := by
  induction ha with
  | nil => exact hb
  | step _ ih => exact .step (ih hb)
  | call run _ ih => exact .call run (ih hb)

def Value.ref? : Value → Option Nat
  | .table ref => some ref
  | _ => none

namespace Block

/-- Where the list of feeds stands. -/
def feedsRef : Nat := 5

/-- The table `mud`, its lists, and the pairs in the list of feeds. -/
def clientRefs (tables : Tables) : List Nat :=
  List.range' mudRef 5 ++
    (tables.table feedsRef).entries.toList.filterMap fun e => e.2.ref?

/-- A step that leaves the tables of the client alone. -/
structure Spares (before after : Tables) : Prop where
  mud : after.global "mud" = before.global "mud"
  tables : ∀ ref ∈ clientRefs before, after[ref]? = before[ref]?

instance (before after : Tables) : Decidable (Spares before after) :=
  decidable_of_iff (after.global "mud" = before.global "mud" ∧
    ∀ ref ∈ clientRefs before, after[ref]? = before[ref]?)
    ⟨fun ⟨mud, tables⟩ => ⟨mud, tables⟩, fun ⟨mud, tables⟩ => ⟨mud, tables⟩⟩

/-- What happens to the tables of the client only through its functions. -/
def IsOwn : Event → Prop
  | .step before after => Spares before after
  | .call .. => True

instance : DecidablePred IsOwn
  | .step before after => inferInstanceAs (Decidable (Spares before after))
  | .call .. => .isTrue trivial

/-- Nothing but its four functions changes what belongs to `mud`. -/
def UsesFunctions (events : List Event) : Prop := ∀ e ∈ events, IsOwn e

instance (events : List Event) : Decidable (UsesFunctions events) :=
  List.decidableBAll _ events

/-- What the calls of a function were given, each as one text. -/
def said (f : ClientFunction) (events : List Event) : List Text :=
  events.filterMap fun
    | .call g args _ _ => if g = f then argument? args 1 else none
    | .step _ _ => none

/-- The channels and messages of the calls of `feed`. -/
def fed (events : List Event) : List (Text × Text) :=
  events.filterMap fun
    | .call .feed args _ _ => do return (← argument? args 1, ← argument? args 2)
    | _ => none

/-- The list that a function puts one text into. -/
def textList? : ClientFunction → Option (String × Nat)
  | .send => some ("commands", 2)
  | .echo => some ("echos", 3)
  | .say => some ("speech", 4)
  | .feed => none

/-- The tables at these places hold the pairs, away from the lists. -/
def HoldPairs (tables : Tables) (refs : List Nat) (pairs : List (Text × Text)) : Prop :=
  List.Forall₂ (fun ref pair => feedsRef < ref ∧ tables[ref]? = some (pairTable pair)) refs pairs

/-- The name `mud` leads to the functions and the lists. -/
structure HasMud (tables : Tables) : Prop where
  mud : tables.global "mud" = .table mudRef
  functions : tables[mudRef]? = some mudTable

/-- After these events the lists hold what was said in them. -/
structure Keeps (events : List Event) (tables : Tables) : Prop extends HasMud tables where
  texts : ∀ {f name ref}, textList? f = some (name, ref) →
    (said f events).length ≤ maxItems ∧
      tables[ref]? = some (.ofItems ((said f events).map textValue))
  feeds : (fed events).length ≤ maxItems ∧ ∃ refs : List Nat,
    tables[feedsRef]? = some (.ofItems (refs.map .table)) ∧ HoldPairs tables refs (fed events)

variable {tables after : Tables}

theorem table_of_getElem? {ref : Nat} {t : Table} (h : tables[ref]? = some t) :
    tables.table ref = t := by
  rw [Tables.table, h, Option.getD_some]

theorem HasMud.of_agree (has : HasMud tables) (agree : ∀ ref ≤ mudRef, after[ref]? = tables[ref]?) :
    HasMud after where
  mud := by
    rw [← has.mud]
    simp only [Tables.global, Tables.table, agree Tables.globals (by decide)]
  functions := (agree mudRef (Nat.le_refl _)).trans has.functions

theorem HoldPairs.of_agree {refs : List Nat} {pairs : List (Text × Text)}
    (hold : HoldPairs tables refs pairs) (agree : ∀ ref ∈ refs, feedsRef < ref →
      ref < tables.size → after[ref]? = tables[ref]?) : HoldPairs after refs pairs := by
  refine ((List.forall₂_and_left _ _).2 ⟨agree, hold⟩).imp fun ref pair ⟨agree, above, found⟩ => ?_
  exact ⟨above, (agree above (Array.getElem?_eq_some_iff.1 found).1).trans found⟩

theorem get_globalsTable : globalsTable.get (.ofString "mud") = .table mudRef := by
  decide +kernel

/-- The lists stand in `mud` under their names. -/
theorem get_mudTable : ∀ e ∈ listNames.zipIdx (mudRef + 1),
    mudTable.get (.ofString e.1) = .table e.2 := by
  decide +kernel

theorem keeps_start (vars : List (Text × Text)) (args : List Text) :
    Keeps [] (start vars args) where
  mud := get_globalsTable
  functions := rfl
  texts {f name ref} h := by
    refine ⟨Nat.zero_le _, ?_⟩
    cases f <;> cases h <;> rfl
  feeds := ⟨Nat.zero_le _, [], rfl, .nil⟩

/-! ### Calls -/

/-- A list runs full before its numbers no longer fit into a key. -/
theorem maxItems_lt : maxItems + 1 < Nat.pow 2 63 := by
  decide

/-- A value that found its way to the end of a list. -/
theorem append_eq_ok {name : String} {ref : Nat} {v : Value} {vs : List Value}
    (has : HasMud tables) (entry : mudTable.get (.ofString name) = .table ref)
    (list : tables[ref]? = some (.ofItems vs)) (full : ∀ v ∈ vs, v.isNil = false)
    (few : vs.length ≤ maxItems) (hv : v.isNil = false)
    (run : append name v tables = .ok after) :
    vs.length < maxItems ∧ after = tables.set! ref (.ofItems (vs ++ [v])) := by
  have limit := maxItems_lt
  rw [append, has.mud] at run
  dsimp only at run
  rw [table_of_getElem? has.functions, entry] at run
  dsimp only at run
  rw [table_of_getElem? list, Table.length_ofItems full (by omega)] at run
  split at run
  · cases run
  · cases run
    have longer := Table.set_ofItems vs (by omega) hv
    exact ⟨by omega, by rw [← longer]; rfl⟩

/-- What is done with the text of an argument is done if the argument has one. -/
theorem argument_bind_eq_ok {args : List Value} {place : Nat}
    {f : Text → Except Refusal Tables} : argument args place >>= f = .ok after ↔
      ∃ t, argument? args place = some t ∧ f t = .ok after := by
  unfold argument
  cases argument? args place <;> simp [bind, Except.bind]

variable {past : List Event} {f : ClientFunction} {args : List Value}

theorem said_append (f : ClientFunction) (a b : List Event) :
    said f (a ++ b) = said f a ++ said f b := List.filterMap_append

theorem fed_append (a b : List Event) : fed (a ++ b) = fed a ++ fed b := List.filterMap_append

theorem Keeps.step (keeps : Keeps past tables) (spares : Spares tables after) :
    Keeps (past ++ [.step tables after]) after := by
  have own {ref : Nat} (low : mudRef ≤ ref) (high : ref ≤ feedsRef) :
      after[ref]? = tables[ref]? := by
    refine spares.tables ref (List.mem_append_left _ (List.mem_range'_1.2 ?_))
    simp only [mudRef, feedsRef] at *
    omega
  have said_eq (f : ClientFunction) : said f (past ++ [.step tables after]) = said f past := by
    rw [said_append]
    exact List.append_nil _
  have fed_eq : fed (past ++ [.step tables after]) = fed past := by
    rw [fed_append]
    exact List.append_nil _
  obtain ⟨few, refs, list, pairs⟩ := keeps.feeds
  exact {
    mud := spares.mud.trans keeps.mud
    functions := (own (by decide) (by decide)).trans keeps.functions
    texts {f name ref} hf := by
      obtain ⟨few, list⟩ := keeps.texts hf
      rw [said_eq, own (by cases f <;> cases hf <;> decide) (by cases f <;> cases hf <;> decide)]
      exact ⟨few, list⟩
    feeds := by
      rw [fed_eq, own (by decide) (by decide)]
      refine ⟨few, refs, list, pairs.of_agree fun ref member _ _ => spares.tables ref ?_⟩
      refine List.mem_append_right _ (List.mem_filterMap.2 ?_)
      rw [table_of_getElem? list]
      have item : Value.table ref ∈ (Table.itemsFrom 1 (refs.map .table)).map (·.2) := by
        rw [Table.map_snd_itemsFrom]
        exact List.mem_map_of_mem member
      obtain ⟨e, he, value⟩ := List.mem_map.1 item
      exact ⟨e, by simpa [Table.ofItems] using he, by rw [value]; rfl⟩ }

theorem isNil_textValue (t : Text) : (textValue t).isNil = false := rfl

theorem textList?_inj {f g : ClientFunction} {a b : String} {ref : Nat}
    (hf : textList? f = some (a, ref)) (hg : textList? g = some (b, ref)) : f = g := by
  cases f <;> cases hf <;> cases g <;> first | rfl | cases hg

theorem said_call {t : Text} (ht : argument? args 1 = some t) :
    said f (past ++ [.call f args tables after]) = said f past ++ [t] := by
  rw [said_append]
  simp [said, ht]

theorem said_call_of_ne {g : ClientFunction} (ne : f ≠ g) :
    said g (past ++ [.call f args tables after]) = said g past := by
  rw [said_append]
  simp [said, ne]

theorem fed_call_of_ne (ne : f ≠ .feed) :
    fed (past ++ [.call f args tables after]) = fed past := by
  rw [fed_append]
  cases f <;> first | exact absurd rfl ne | exact List.append_nil _

theorem Keeps.call_text {name : String} {ref : Nat} (keeps : Keeps past tables)
    (hf : textList? f = some (name, ref)) (run : call f args tables = .ok after) :
    Keeps (past ++ [.call f args tables after]) after := by
  have does : Block.call f args tables =
      argument args 1 >>= fun t => append name (textValue t) tables := by
    cases f <;> cases hf <;> rfl
  have entry : mudTable.get (.ofString name) = .table ref :=
    get_mudTable (name, ref) (by cases f <;> cases hf <;> decide)
  rw [does] at run
  obtain ⟨t, ht, put⟩ := argument_bind_eq_ok.1 run
  obtain ⟨few, list⟩ := keeps.texts hf
  obtain ⟨room, rfl⟩ := append_eq_ok keeps.toHasMud entry list
    (by simp [isNil_textValue]) (by rwa [List.length_map]) rfl put
  rw [List.length_map] at room
  have others {r : Nat} (ne : r ≠ ref) (t : Table) : (tables.set! ref t)[r]? = tables[r]? :=
    Array.getElem?_setIfInBounds_ne ne.symm
  have here (t : Table) : (tables.set! ref t)[ref]? = some t :=
    Array.getElem?_setIfInBounds_self_of_lt (Array.getElem?_eq_some_iff.1 list).1
  have low : ref < feedsRef := by cases f <;> cases hf <;> decide
  have high : mudRef < ref := by cases f <;> cases hf <;> decide
  obtain ⟨few', refs, pairList, pairs⟩ := keeps.feeds
  exact {
    toHasMud := keeps.toHasMud.of_agree fun r hr =>
      others (Nat.ne_of_lt (Nat.lt_of_le_of_lt hr high)) _
    texts {g name' ref'} hg := by
      by_cases same : f = g
      · subst same
        cases hf.symm.trans hg
        rw [said_call ht, List.length_append, here, List.map_append]
        exact ⟨room, rfl⟩
      · rw [said_call_of_ne same, others fun heq => same (textList?_inj hf (heq ▸ hg))]
        exact keeps.texts hg
    feeds := by
      rw [fed_call_of_ne (by cases f <;> cases hf <;> decide), others (Nat.ne_of_gt low)]
      exact ⟨few', refs, pairList, pairs.of_agree fun r _ above _ =>
        others (Nat.ne_of_gt (Nat.lt_trans low above)) _⟩ }

theorem fed_call {channel message : Text} (hc : argument? args 1 = some channel)
    (hm : argument? args 2 = some message) :
    fed (past ++ [.call .feed args tables after]) = fed past ++ [(channel, message)] := by
  rw [fed_append]
  simp [fed, hc, hm]

theorem Keeps.call_feed (keeps : Keeps past tables) (run : call .feed args tables = .ok after) :
    Keeps (past ++ [.call .feed args tables after]) after := by
  obtain ⟨channel, hc, run⟩ := argument_bind_eq_ok.1 run
  obtain ⟨message, hm, put⟩ := argument_bind_eq_ok.1 run
  obtain ⟨few, refs, list, pairs⟩ := keeps.feeds
  have size : feedsRef < tables.size := (Array.getElem?_eq_some_iff.1 list).1
  have old {r : Nat} (hr : r < tables.size) (t : Table) :
      (tables.push t)[r]? = tables[r]? := by
    rw [Array.getElem?_push, if_neg (Nat.ne_of_lt hr)]
  have mudSize {r : Nat} (hr : r ≤ mudRef) : r < tables.size ∧ r ≠ feedsRef := by
    simp only [mudRef, feedsRef] at *
    omega
  obtain ⟨room, rfl⟩ := append_eq_ok
    (keeps.toHasMud.of_agree fun r hr => old (mudSize hr).1 _)
    (get_mudTable ("feeds", feedsRef) (by decide)) ((old size _).trans list)
    (by simp [Value.isNil]) (by rwa [List.length_map, pairs.length_eq]) rfl put
  rw [List.length_map, pairs.length_eq] at room
  have others {r : Nat} (hr : r < tables.size) (ne : r ≠ feedsRef) (pair list : Table) :
      ((tables.push pair).set! feedsRef list)[r]? = tables[r]? :=
    (Array.getElem?_setIfInBounds_ne ne.symm).trans (old hr _)
  have here (pair list : Table) : ((tables.push pair).set! feedsRef list)[feedsRef]? = some list :=
    Array.getElem?_setIfInBounds_self_of_lt (by rw [Array.size_push]; omega)
  exact {
    toHasMud := keeps.toHasMud.of_agree fun r hr => others (mudSize hr).1 (mudSize hr).2 _ _
    texts {g name ref} hg := by
      have low : ref < feedsRef := by cases g <;> cases hg <;> decide
      rw [said_call_of_ne (by rintro rfl; cases hg),
        others (Nat.lt_trans low size) (Nat.ne_of_lt low)]
      exact keeps.texts hg
    feeds := by
      rw [fed_call hc hm, List.length_append, here]
      refine ⟨room, refs ++ [tables.size], by rw [List.map_append]; rfl, ?_⟩
      refine List.rel_append
        (pairs.of_agree fun r _ above hr => others hr (Nat.ne_of_gt above) _ _) (.cons ⟨size, ?_⟩ .nil)
      refine (Array.getElem?_setIfInBounds_ne (Nat.ne_of_lt size)).trans ?_
      rw [Array.getElem?_push, if_pos rfl] }

/-- A call that comes back adds what it was given to its list. -/
theorem Keeps.call (keeps : Keeps past tables) (run : call f args tables = .ok after) :
    Keeps (past ++ [.call f args tables after]) after := by
  cases f with
  | send | echo | say => exact keeps.call_text rfl run
  | feed => exact keeps.call_feed run

/-- A run that leaves the tables of the client alone keeps everything that was said in them. -/
theorem Keeps.leads {events : List Event} (leads : Leads tables events after)
    (uses : UsesFunctions events) (keeps : Keeps past tables) : Keeps (past ++ events) after := by
  induction leads generalizing past with
  | nil => rwa [List.append_nil]
  | step _ ih =>
    rw [← List.singleton_append, ← List.append_assoc]
    exact ih (fun _ hm => uses _ (List.mem_cons_of_mem _ hm))
      (keeps.step (uses _ List.mem_cons_self))
  | call run _ ih =>
    rw [← List.singleton_append, ← List.append_assoc]
    exact ih (fun _ hm => uses _ (List.mem_cons_of_mem _ hm)) (keeps.call run)

/-! ### The end of a block -/

theorem texts_ofItems {ts : List Text} (few : ts.length ≤ maxItems) :
    texts (.ofItems (ts.map textValue)) = ts := by
  have limit := maxItems_lt
  rw [texts, Table.sequence_ofItems (by simp [isNil_textValue]) (by rw [List.length_map]; omega),
    List.filterMap_map, show Value.toText? ∘ textValue = some from
      funext Value.toText?_str_encode, List.filterMap_some]

theorem getInt_pairTable (pair : Text × Text) : (pairTable pair).getInt 1 = textValue pair.1 ∧
    (pairTable pair).getInt 2 = textValue pair.2 := by
  have items : pairTable pair = .ofItems [textValue pair.1, textValue pair.2] := by
    rw [pairTable, show Table.empty = .ofItems [] from rfl]
    rw [show (1 : Int) = (([] : List Value).length + 1 : Nat) from rfl,
      Table.set_ofItems [] (by decide) (isNil_textValue _)]
    exact Table.set_ofItems [textValue pair.1] (by decide : 2 < Nat.pow 2 63)
      (isNil_textValue _)
  rw [items]
  exact ⟨Table.getInt_ofItems (by decide) (by decide : 2 < Nat.pow 2 63),
    Table.getInt_ofItems (by decide) (by decide : 2 < Nat.pow 2 63)⟩

theorem textPairs_ofItems {refs : List Nat} {pairs : List (Text × Text)}
    (few : pairs.length ≤ maxItems) (hold : HoldPairs tables refs pairs) :
    textPairs tables (.ofItems (refs.map .table)) = pairs := by
  have limit := maxItems_lt
  rw [textPairs, Table.sequence_ofItems (by simp [Value.isNil])
    (by rw [List.length_map, hold.length_eq]; omega), List.filterMap_map]
  clear few
  induction hold with
  | nil => rfl
  | @cons ref pair refs pairs found _ ih =>
    have read : tableAt? tables (.table ref) = some (pairTable pair) := found.2
    rw [List.filterMap_cons, ih]
    simp only [Function.comp_apply, read, getInt_pairTable, bind, Option.bind_some, textValue,
      Value.toText?_str_encode, pure]

/-- What is taken from a block in the end is what was said while it ran. -/
theorem collect_of_keeps {events : List Event} (keeps : Keeps events tables) : collect tables =
    ⟨said .send events, said .echo events, said .say events, fed events,
      (tableAt? tables (tables.global "vars")).map varTexts⟩ := by
  have mud : tableAt? tables (tables.global "mud") = some mudTable := by
    rw [keeps.mud]
    exact keeps.functions
  have list {name : String} (ref : Nat) (hm : (name, ref) ∈ listNames.zipIdx (mudRef + 1)) :
      tableAt? tables (mudTable.get (.ofString name)) = tables[ref]? := by
    rw [get_mudTable (name, ref) hm]
    rfl
  obtain ⟨few, refs, feeds, pairs⟩ := keeps.feeds
  have commands := keeps.texts (f := .send) rfl
  have echos := keeps.texts (f := .echo) rfl
  have speech := keeps.texts (f := .say) rfl
  simp only [collect, mud, Option.bind_some]
  rw [list 2 (by decide), list 3 (by decide), list 4 (by decide), list feedsRef (by decide),
    commands.2, echos.2, speech.2, feeds]
  dsimp only
  rw [texts_ofItems commands.1, texts_ofItems echos.1, texts_ofItems speech.1,
    textPairs_ofItems few pairs]

end Block
end MudClient.Lua
