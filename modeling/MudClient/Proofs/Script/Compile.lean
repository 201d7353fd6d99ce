import Mathlib.Data.List.Forall2
import MudClient.Script.Program
/-! What compiling gives. A script compiles statement by statement, and every call of a program that
was compiled names a function that takes as many arguments as the call has. -/
namespace MudClient

namespace Attempt

variable {α β : Type}

/-- The computation gives `a`: it is neither refused nor does it crash. -/
def Gives (x : Attempt α) (a : α) : Prop := x.run = .ok (.ok a)

theorem gives_pure {a b : α} : Gives (pure a : Attempt α) b ↔ a = b := by
  show (Except.ok (Except.ok a) : Except Crash (Except ScriptError α)) = .ok (.ok b) ↔ a = b
  simp

/-- A sequence has a result if its first part was refused, or else if the second part has one. -/
theorem run_bind_eq_ok {x : Attempt α} {f : α → Attempt β} {r : Except ScriptError β} :
    (x >>= f).run = .ok r ↔
      (∃ e, x.run = .ok (.error e) ∧ r = .error e) ∨ ∃ a, x.Gives a ∧ (f a).run = .ok r := by
  unfold Gives
  rw [ExceptT.run_bind]
  cases x.run with
  | error crash => simp [bind, Except.bind]
  | ok first => cases first <;> simp [bind, Except.bind, pure, Except.pure, eq_comm]

theorem gives_bind {x : Attempt α} {f : α → Attempt β} {b : β} :
    Gives (x >>= f) b ↔ ∃ a, Gives x a ∧ Gives (f a) b :=
  run_bind_eq_ok.trans (by simp [Gives])

theorem gives_mapM {f : α → Attempt β} {as : List α} {bs : List β} :
    Gives (as.mapM f) bs ↔ List.Forall₂ (fun a b => Gives (f a) b) as bs := by
  induction as generalizing bs with
  | nil =>
    rw [List.mapM_nil, gives_pure]
    constructor
    · rintro rfl
      exact .nil
    · intro h
      cases h
      rfl
  | cons a as ih =>
    rw [List.mapM_cons, gives_bind]
    constructor
    · rintro ⟨b, hb, h⟩
      obtain ⟨bs', hbs, h⟩ := gives_bind.1 h
      cases gives_pure.1 h
      exact .cons hb (ih.1 hbs)
    · rintro (_ | ⟨hb, hbs⟩)
      exact ⟨_, hb, gives_bind.2 ⟨_, ih.2 hbs, gives_pure.2 rfl⟩⟩

end Attempt

namespace Script

theorem gives_compile [c : Chance] {registry : Registry} {vars : Option Locals} {source : Text}
    {p : Program} :
    (compile registry vars source).Gives p ↔ ∃ statements, split source = .ok statements ∧
      List.Forall₂ (fun s i => (@Statement.compile (c.part s.2) registry vars s.1).Gives i)
        statements.zipIdx p := by
  rw [compile, Attempt.gives_bind]
  refine exists_congr fun statements => and_congr ?_ Attempt.gives_mapM
  simp [Attempt.Gives, ExceptT.run_mk]

/-- What does not depend on a draw needs no place of one. -/
theorem forall₂_of_gives_compile {_ : Chance} {registry : Registry} {vars : Option Locals}
    {source : Text} {p : Program} (h : (compile registry vars source).Gives p) :
    ∃ statements, split source = .ok statements ∧
      List.Forall₂ (fun s i => ∃ c, (@Statement.compile c registry vars s).Gives i)
        statements p := by
  obtain ⟨statements, hs, compiled⟩ := gives_compile.1 h
  refine ⟨statements, hs, ?_⟩
  rw [← List.zipIdx_map_fst 0 statements, List.forall₂_map_left_iff]
  exact compiled.imp fun _ _ hi => ⟨_, hi⟩

theorem gives_compile_of_forall₂ [Chance] {registry : Registry} {vars : Option Locals}
    {source : Text} {p : Program} {statements : List Statement}
    (hs : split source = .ok statements)
    (h : List.Forall₂ (fun s i => ∀ c, (@Statement.compile c registry vars s).Gives i)
      statements p) : (compile registry vars source).Gives p := by
  refine gives_compile.2 ⟨statements, hs, ?_⟩
  rw [← List.zipIdx_map_fst 0 statements, List.forall₂_map_left_iff] at h
  exact h.imp fun _ _ hi => hi _

@[simp] theorem Statement.length_filled (s : Statement) (table : Option Locals) :
    (s.filled table).length = s.arguments.length := by
  cases table <;> simp [Statement.filled]

theorem Builtin.validate_eq_ok {f : Builtin} {n : Nat} {u : Unit} :
    f.validate n = .ok u ↔ f.accepts n := by
  unfold Builtin.validate
  split <;> simp_all

theorem Instruction.ofDelay_eq_ok [Chance] {d : Delay} {i : Instruction} :
    Instruction.ofDelay d = .ok i ↔ ∃ nanos, d.sample? = some nanos ∧ i = .pause nanos := by
  unfold Instruction.ofDelay
  generalize d.sample? = time
  cases time <;> simp [eq_comm]

/-- A call whose arguments are counted is a pause of some length, or a call as it was written. -/
theorem Statement.gives_compileCall [Chance] {s : Statement} {f : Builtin}
    {table : Option Locals} {i : Instruction} :
    (s.compileCall f table).Gives i ↔ f.accepts s.arguments.length ∧
      ((∃ d nanos, f.delay? (s.filled table) = some d ∧ d.sample? = some nanos ∧ i = .pause nanos) ∨
        f.delay? (s.filled table) = none ∧
          i = .call s.function (s.arguments.map (Argument.value table.isSome)) s.flags) := by
  have counted (u : Unit) : Attempt.Gives (ExceptT.mk (.ok (f.validate s.arguments.length))) u ↔
      f.accepts s.arguments.length := by
    simp [Attempt.Gives, ExceptT.run_mk, Builtin.validate_eq_ok]
  have lifted (d : Delay) : Attempt.Gives (ExceptT.lift (Instruction.ofDelay d)) i ↔
      Instruction.ofDelay d = .ok i := by
    cases Instruction.ofDelay d <;>
      simp [Attempt.Gives, ExceptT.run_lift, Functor.map, Except.map]
  rw [Statement.compileCall, Attempt.gives_bind]
  simp only [counted, exists_and_left, exists_const]
  refine and_congr_right fun _ => ?_
  cases hd : f.delay? (s.filled table) with
  | none => simp [Attempt.gives_pure, eq_comm]
  | some d => simp [lifted, Instruction.ofDelay_eq_ok]

/-- A call that was compiled: its function is there and takes so many arguments. A pause is never
called. -/
def Instruction.InRange (registry : Registry) : Instruction → Prop
  | .call function arguments _ => ∃ f, registry.find? function = some f ∧
      f.accepts arguments.length ∧ f ≠ .pause
  | .pause _ | .block _ => True

theorem Builtin.ne_pause_of_delay? {f : Builtin} {args : List Text} (hn : f.accepts args.length)
    (h : f.delay? args = none) : f ≠ .pause := by
  rintro rfl
  cases args with
  | nil => cases hn
  | cons seconds more => cases h

theorem Statement.inRange_of_compile [Chance] {registry : Registry} {vars : Option Locals}
    {s : Statement} {i : Instruction} (h : (s.compile registry vars).Gives i) : i.InRange registry := by
  unfold Statement.compile at h
  split at h
  · cases Attempt.gives_pure.1 h
    trivial
  · split at h
    · cases h
    · rename_i f hf
      obtain ⟨hn, ⟨d, nanos, _, _, rfl⟩ | ⟨hd, rfl⟩⟩ := Statement.gives_compileCall.1 h
      · trivial
      · exact ⟨f, hf, by simpa using hn, Builtin.ne_pause_of_delay? (by simpa using hn) hd⟩

theorem inRange_of_compile [Chance] {registry : Registry} {vars : Option Locals}
    {source : Text} {p : Program} (h : (compile registry vars source).Gives p) :
    ∀ i ∈ p, i.InRange registry := by
  obtain ⟨statements, -, compiled⟩ := forall₂_of_gives_compile h
  clear h
  induction compiled with
  | nil => exact fun _ hi => nomatch hi
  | cons hs _ ih =>
    obtain ⟨c, hs⟩ := hs
    exact List.forall_mem_cons.2 ⟨Statement.inRange_of_compile hs, ih⟩

end Script
end MudClient
