import MudClient.Proofs.Script.Compile
import MudClient.Script.Run
/-! How far a run gets. An instruction that was compiled is carried out, unless it is a block of
code without an end, and only a pause pauses. -/
namespace MudClient.Script

theorem Builtin.run_of_accepts {f : Builtin} {args : List Text} (locals : Locals) (flags : Flags)
    (hn : f.accepts args.length) (hp : f ≠ .pause) :
    ∃ reply, f.run locals args flags = .ok reply ∧ ∀ d, reply.flow ≠ .ok (.pause d) := by
  have declared {α : Type} (effect : α → Effect) (item : Except ScriptError α) (d : Nanos) :
      (Reply.declare effect item).flow ≠ .ok (.pause d) := by
    cases item <;> simp [Reply.declare, Reply.ofEffect, Reply.ofError]
  cases f with
  | pause => exact absurd rfl hp
  | send | say | display =>
    refine ⟨_, rfl, ?_⟩
    simp [Reply.ofEffect]
  | play | feed | declareChannel | writeVar | delVar =>
    cases args with
    | nil => simp [accepts, arity] at hn
    | cons a more =>
      refine ⟨_, rfl, ?_⟩
      simp [Reply.ofEffect, Reply.ofChange]
  | checkVar =>
    cases args with
    | nil => simp [accepts, arity] at hn
    | cons a more =>
      refine ⟨_, rfl, fun d => ?_⟩
      unfold check
      split <;> simp [Reply.ofFlow]
  | declareAlias | declareTrigger =>
    match args, hn with
    | pattern :: action :: more, _ => exact ⟨_, rfl, declared _ _⟩
  | declareKeyBinding =>
    match args, hn with
    | shortcut :: action :: more, _ =>
      simp only [run]
      cases Shortcut.ofText shortcut with
      | error e => exact ⟨_, rfl, by simp [Reply.ofError]⟩
      | ok s => exact ⟨_, rfl, by simp [Reply.ofEffect]⟩

def Instruction.isPause : Instruction → Bool
  | .pause _ => true
  | _ => false

variable [Lua]

theorem Block.run_eq_ok {source : Text} {locals : Locals} {r : Reply} :
    Block.run source locals = .ok r ↔
      ∃ out, Lua.Block.run source locals.vars.entries locals.args = some out ∧
        r = Block.reply locals out := by
  unfold Block.run
  cases Lua.Block.run source locals.vars.entries locals.args <;> simp [eq_comm]

/-- An instruction is done at some time. Only a block of code may go on for ever. -/
def Instruction.Ends (locals : Locals) : Instruction → Prop
  | .block source => (Lua.Block.run source locals.vars.entries locals.args).isSome
  | .call .. | .pause _ => True

/-- What becomes of an instruction that finds this table. -/
inductive Instruction.Does (registry : Registry) (locals : Locals) : Instruction → Prop
  | pause (delay : Nanos) : Does registry locals (.pause delay)
  | endless {i : Instruction} (hp : i.isPause = false) (hends : ¬ i.Ends locals)
    (ran : i.run registry locals = .error .endless) : Does registry locals i
  | error {i : Instruction} {effects : List Effect} {changes : List Change} {error : ScriptError}
    (hp : i.isPause = false) (hends : i.Ends locals)
    (ran : i.run registry locals = .ok ⟨effects, changes, .error error⟩) : Does registry locals i
  | next {i : Instruction} {effects : List Effect} {changes : List Change}
    (hp : i.isPause = false) (hends : i.Ends locals)
    (ran : i.run registry locals = .ok ⟨effects, changes, .ok .next⟩) : Does registry locals i
  | stop {i : Instruction} {effects : List Effect} {changes : List Change}
    (hp : i.isPause = false) (hends : i.Ends locals)
    (ran : i.run registry locals = .ok ⟨effects, changes, .ok .stop⟩) : Does registry locals i

theorem Instruction.Does.of_reply {registry : Registry} {locals : Locals} {i : Instruction}
    {reply : Reply} (hp : i.isPause = false) (hends : i.Ends locals)
    (ran : i.run registry locals = .ok reply) (hflow : ∀ d, reply.flow ≠ .ok (.pause d)) :
    i.Does registry locals := by
  obtain ⟨effects, changes, flow⟩ := reply
  rcases flow with error | _ | _ | delay
  · exact .error hp hends ran
  · exact .next hp hends ran
  · exact .stop hp hends ran
  · exact absurd rfl (hflow delay)

/-- An instruction that was compiled finds its function with all the arguments that it reads. -/
theorem Instruction.InRange.does {registry : Registry} {i : Instruction}
    (hi : i.InRange registry) (locals : Locals) : i.Does registry locals := by
  cases i with
  | pause delay => exact .pause delay
  | block source =>
    cases ran : Lua.Block.run source locals.vars.entries locals.args with
    | none =>
      refine .endless rfl (by simp [Ends, ran]) ?_
      simp only [run, Block.run, ran]
    | some out =>
      refine .of_reply rfl (by simp [Ends, ran]) (Block.run_eq_ok.2 ⟨out, ran, rfl⟩) fun d => ?_
      unfold Block.reply
      split <;> simp
  | call function arguments flags =>
    obtain ⟨f, hf, hn, hne⟩ := hi
    have hn : f.accepts (arguments.map (Value.resolve locals)).length := by
      rwa [List.length_map]
    obtain ⟨reply, ran, hflow⟩ := Builtin.run_of_accepts locals flags hn hne
    exact .of_reply rfl trivial (by rw [run, hf]; exact ran) hflow

namespace Program

/-- A run comes to an instruction, which finds this table. -/
inductive ComesTo (registry : Registry) : Program → Locals → Instruction → Locals → Prop
  | here {i : Instruction} {rest : Program} {locals : Locals} :
    ComesTo registry (i :: rest) locals i locals
  | next {i j : Instruction} {rest : Program} {locals table : Locals} {effects : List Effect}
    {changes : List Change} (ran : i.run registry locals = .ok ⟨effects, changes, .ok .next⟩)
    (later : ComesTo registry rest (locals.applyChanges changes) j table) :
    ComesTo registry (i :: rest) locals j table

variable {registry : Registry} {i : Instruction} {rest : Program} {locals : Locals}
  {effects : List Effect} {changes : List Change} {p : Instruction → Locals → Prop}

theorem not_comesTo_nil {j : Instruction} {table : Locals} :
    ¬ ComesTo registry [] locals j table := nofun

theorem forall_comesTo_next (h : i.run registry locals = .ok ⟨effects, changes, .ok .next⟩) :
    (∀ j table, ComesTo registry (i :: rest) locals j table → p j table) ↔
      p i locals ∧
        ∀ j table, ComesTo registry rest (locals.applyChanges changes) j table → p j table := by
  refine ⟨fun all => ⟨all _ _ .here, fun j table hj => all j table (.next h hj)⟩, ?_⟩
  rintro ⟨first, later⟩ j table (_ | ⟨ran, hj⟩)
  · exact first
  · cases h.symm.trans ran
    exact later j table hj

/-- Nothing is reached behind an instruction that does not lead on. -/
theorem forall_comesTo_last
    (h : ∀ effects changes, i.run registry locals ≠ .ok ⟨effects, changes, .ok .next⟩) :
    (∀ j table, ComesTo registry (i :: rest) locals j table → p j table) ↔ p i locals := by
  refine ⟨fun all => all _ _ .here, ?_⟩
  rintro first j table (_ | ⟨ran, -⟩)
  · exact first
  · exact absurd ran (h _ _)

end Program
end MudClient.Script
