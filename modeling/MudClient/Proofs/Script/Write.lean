import MudClient.Proofs.Script.Progress
/-! What a run writes. The last change of a name decides its value, whatever the table held; what a
program writes last under a name is read off its instructions and does not depend on any other
script. -/
namespace MudClient.Script

/-- The value that a change gives its name, `none` if it deletes it. -/
def Change.value? : Change → Option Text
  | .set _ value => some value
  | .delete _ => none

/-- The last value that changes give a name, if they name it at all. -/
def lastValue? (name : Text) (changes : List Change) : Option (Option Text) :=
  ((changes.filter (·.name = name)).getLast?).map Change.value?

@[simp] theorem lastValue?_append (name : Text) (a b : List Change) :
    lastValue? name (a ++ b) = (lastValue? name b).or (lastValue? name a) := by
  simp only [lastValue?, List.filter_append, List.getLast?_append, Option.map_or]

@[simp] theorem lastValue?_singleton (name : Text) (c : Change) :
    lastValue? name [c] = if c.name = name then some c.value? else none := by
  by_cases h : c.name = name <;> simp [lastValue?, h]

namespace Locals

theorem get?_apply (l : Locals) (c : Change) (name : Text) :
    (c.apply l).get? name = if c.name = name then c.value? else l.get? name := by
  cases c with
  | set k v => exact NameMap.get?_insert l.vars k name v
  | delete k => exact NameMap.get?_erase l.vars k name

theorem get?_applyChanges (l : Locals) (changes : List Change) (name : Text) :
    (l.applyChanges changes).get? name = (lastValue? name changes).getD (l.get? name) := by
  induction changes generalizing l with
  | nil => rfl
  | cons c rest ih =>
    have step : l.applyChanges (c :: rest) = (c.apply l).applyChanges rest := rfl
    rw [step, ih, get?_apply, ← List.singleton_append, lastValue?_append, lastValue?_singleton]
    cases lastValue? name rest with
    | some value => rfl
    | none => by_cases h : c.name = name <;> simp [h]

end Locals

/-- What a block leaves under a name: the last text of that name in `vars`, if the table of the run
has another one, or nothing if the name is gone from `vars`. -/
def Block.write? (locals : Locals) (vars : List (Text × Option Text)) (name : Text) :
    Option (Option Text) :=
  if name ∈ locals.vars.names ∧ name ∉ vars.map (·.1) then some none
  else
    (vars.filterMap fun e =>
      if e.1 = name then e.2.filter (some · ≠ locals.get? name) else none).getLast?.map some

def Builtin.write? (f : Builtin) (args : List Text) (name : Text) : Option (Option Text) :=
  match f, args with
  | .writeVar, k :: words => if k = name then some (some (Text.unwords words)) else none
  | .delVar, k :: _ => if k = name then some none else none
  | _, _ => none

/-- What an instruction writes last under a name: `none` if it leaves the name alone, and
`some none` if it deletes it. -/
def Instruction.write? [Lua] (registry : Registry) (locals : Locals) (name : Text) :
    Instruction → Option (Option Text)
  | .pause _ => none
  | .block source => ((Lua.Block.run source locals.vars.entries locals.args).bind (·.vars)).bind
      (Block.write? locals · name)
  | .call function arguments _ =>
    (registry.find? function).bind (·.write? (arguments.map (Value.resolve locals)) name)

/-- What a program writes last under a name before it pauses or ends. -/
def Program.write? [Lua] (registry : Registry) (name : Text) : Program → Locals → Option (Option Text)
  | [], _ => none
  | i :: rest, locals =>
    match i.run registry locals with
    | .ok ⟨_, changes, .ok .next⟩ =>
      (Program.write? registry name rest (locals.applyChanges changes)).or
        (i.write? registry locals name)
    | _ => i.write? registry locals name

theorem Builtin.lastValue?_run {f : Builtin} {locals : Locals} {args : List Text} {flags : Flags}
    {reply : Reply} (h : f.run locals args flags = .ok reply) (name : Text) :
    lastValue? name reply.changes = f.write? args name := by
  have declared {α : Type} (effect : α → Effect) (item : Except ScriptError α) :
      (Reply.declare effect item).changes = [] := by
    cases item <;> rfl
  cases f with
  | send | say | display | pause =>
    cases h
    rfl
  | play | feed | declareChannel =>
    cases args with
    | nil => cases h
    | cons a more =>
      cases h
      rfl
  | writeVar | delVar =>
    cases args with
    | nil => cases h
    | cons k words =>
      cases h
      by_cases h : k = name <;>
        simp [Reply.ofChange, Change.name, Change.value?, write?, h]
  | checkVar =>
    cases args with
    | nil => cases h
    | cons k more =>
      cases h
      unfold check
      cases notice? k ((locals.get? k).getD []) more.head? <;> rfl
  | declareAlias | declareTrigger =>
    cases args with
    | nil => cases h
    | cons source more =>
      cases more with
      | nil => cases h
      | cons action more =>
        cases h
        rw [declared]
        rfl
  | declareKeyBinding =>
    cases args with
    | nil => cases h
    | cons shortcut more =>
      simp only [run] at h
      split at h <;> cases h <;> rfl

theorem lastValue?_map_delete (name : Text) (names : List Text) :
    lastValue? name (names.map .delete) = if name ∈ names then some none else none := by
  induction names with
  | nil => rfl
  | cons k rest ih =>
    rw [List.map_cons, ← List.singleton_append, lastValue?_append, lastValue?_singleton, ih]
    by_cases hr : name ∈ rest
    · simp [hr]
    · by_cases h : k = name
      · simp [h, hr, Change.name, Change.value?]
      · simp [h, hr, Change.name, Ne.symm h]

/-- The new texts stand before the names that are gone, and no name is both. -/
theorem Block.lastValue?_changes (locals : Locals) (vars : List (Text × Option Text))
    (name : Text) : lastValue? name (changes locals vars) = write? locals vars name := by
  have set (f : Text × Option Text → Option Change) (hf : ∀ e, f e = e.2.bind fun text =>
      if locals.get? e.1 = some text then none else some (.set e.1 text)) :
      lastValue? name (vars.filterMap f) = (vars.filterMap fun e =>
        if e.1 = name then e.2.filter (some · ≠ locals.get? name) else none).getLast?.map some := by
    rw [lastValue?, List.filter_filterMap, ← List.getLast?_map, ← List.getLast?_map,
      List.map_filterMap, List.map_filterMap]
    congr 2
    funext e
    rw [hf]
    obtain ⟨k, _ | text⟩ := e
    · by_cases h : k = name <;> simp [h]
    · by_cases h : k = name
      · subst h
        by_cases ht : locals.get? k = some text
        · simp [ht, Option.filter_some]
        · simp [ht, Ne.symm ht, Option.filter_some, Change.name, Change.value?]
      · by_cases ht : locals.get? k = some text <;> simp [h, ht, Option.filter_some, Change.name]
  have gone : lastValue? name ((locals.vars.names.filter fun k =>
      !(vars.map (·.1)).contains k).map .delete) =
      if name ∈ locals.vars.names ∧ name ∉ vars.map (·.1) then some none else none := by
    rw [lastValue?_map_delete]
    simp only [List.mem_filter, Bool.not_eq_true', List.contains_eq_mem, decide_eq_false_iff_not]
  rw [changes, lastValue?_append, set _ fun _ => rfl, gone, write?]
  split <;> simp

theorem Instruction.lastValue?_run [Lua] {registry : Registry} {locals : Locals} {i : Instruction}
    {reply : Reply} (h : i.run registry locals = .ok reply) (name : Text) :
    lastValue? name reply.changes = i.write? registry locals name := by
  cases i with
  | pause delay =>
    cases h
    rfl
  | block source =>
    obtain ⟨out, ran, rfl⟩ := Block.run_eq_ok.1 h
    rw [write?, ran, Option.bind_some, Block.reply]
    cases out.vars with
    | none => rfl
    | some vars => exact Block.lastValue?_changes locals vars name
  | call function arguments flags =>
    simp only [run] at h
    rw [write?]
    cases hf : registry.find? function with
    | none =>
      rw [hf] at h
      cases h
      rfl
    | some f =>
      rw [hf] at h
      exact Builtin.lastValue?_run h name

/-- The changes of a run name what the program writes, and the last of a name is what it writes
last. -/
theorem Program.lastValue?_run [Lua] {registry : Registry} {p : Program} {locals : Locals}
    {s : Segment} (h : p.run registry locals = .ok s) (name : Text) :
    lastValue? name s.changes = p.write? registry name locals := by
  induction p generalizing locals s with
  | nil =>
    cases h
    rfl
  | cons i rest ih =>
    rw [write?]
    cases hi : i.run registry locals with
    | error crash => simp [run, hi, bind, Except.bind] at h
    | ok reply =>
      have own := Instruction.lastValue?_run hi name
      obtain ⟨effects, changes, flow⟩ := reply
      simp only [run, hi, bind, Except.bind, pure, Except.pure] at h
      rcases flow with error | _ | _ | delay
      case ok.next =>
        dsimp only at h ⊢
        cases hr : Program.run registry rest (locals.applyChanges changes) with
        | error crash =>
          rw [hr] at h
          cases h
        | ok more =>
          rw [hr] at h
          cases h
          rw [Segment.after, lastValue?_append, ih hr, own]
      all_goals
        cases h
        exact own

end MudClient.Script
