import MudClient.Proofs.Engine.Return
import MudClient.Script.Run
/-! The outline of a script. Whatever the variables are and whatever is drawn, a source compiles to
the same program: they decide how long its pauses last, and whether one is too long, but neither
which functions are called nor with how many arguments and which flags. A value has no say in it
because a source is cut into statements before anything is filled in. -/
namespace MudClient

namespace Attempt

variable {α β γ : Type}

/-- What is made of each element's result is known without computing it, so it is for a list. -/
theorem map_of_run_mapM {f : α → Attempt β} {g : β → γ} {h : α → Except ScriptError γ}
    (known : ∀ a r, (f a).run = .ok r → r.map g = h a) {as : List α}
    {r : Except ScriptError (List β)} (hr : (as.mapM f).run = .ok r) :
    r.map (List.map g) = as.mapM h := by
  induction as generalizing r with
  | nil =>
    cases hr
    rfl
  | cons a as ih =>
    rw [List.mapM_cons] at hr ⊢
    obtain ⟨e, he, rfl⟩ | ⟨b, hb, hr⟩ := run_bind_eq_ok.1 hr
    · rw [← known a _ he]
      rfl
    · rw [← known a _ hb]
      obtain ⟨e, he, rfl⟩ | ⟨bs, hbs, hr⟩ := run_bind_eq_ok.1 hr
      · rw [← ih he]
        rfl
      · rw [← ih hbs]
        cases hr
        rfl

end Attempt

namespace Script

variable {registry : Registry} {locals locals' : Locals} {source : Text}

/-- An instruction, however long it pauses. -/
def Instruction.untimed : Instruction → Instruction
  | pause _ => pause 0
  | i => i

/-- The outline of a call: what is written of it, unless it is a pause. -/
def Statement.outlineCall (s : Statement) (f : Builtin) : Except ScriptError Instruction := do
  f.validate s.arguments.length
  return if f = .pause then .pause 0
    else .call s.function (s.arguments.map (Argument.value f.substitutes)) s.flags

/-- What a statement compiles to in any table, however long it pauses. -/
def Statement.outline (registry : Registry) (s : Statement) : Except ScriptError Instruction :=
  if s.isBlock then return .block s.source
  else
    match registry.find? s.function with
    | none => throw (.unknownFunction s.function)
    | some f => s.outlineCall f

def outline (registry : Registry) (source : Text) : Except ScriptError Program := do
  (← split source).mapM (Statement.outline registry)

/-- A pause is the only function that is compiled to a time. -/
theorem Builtin.delay?_isSome (f : Builtin) (args : List Text) (h : f.accepts args.length) :
    (f.delay? args).isSome ↔ f = .pause := by
  constructor
  · intro hd
    cases f with
    | pause => rfl
    | _ => cases hd
  · rintro rfl
    cases args with
    | nil => cases h
    | cons seconds more => rfl

theorem Builtin.isSome_table (f : Builtin) (locals : Locals) :
    (f.table (some locals)).isSome = f.substitutes := by
  unfold Builtin.table
  cases f.substitutes <;> rfl

theorem Statement.untimed_of_compileCall [Chance] {s : Statement} {f : Builtin} {i : Instruction}
    (h : (s.compileCall f (f.table (some locals))).Gives i) :
    i.untimed = if f = .pause then .pause 0
      else .call s.function (s.arguments.map (Argument.value f.substitutes)) s.flags := by
  obtain ⟨counted, h⟩ := Statement.gives_compileCall.1 h
  have paused := f.delay?_isSome (s.filled (f.table (some locals))) (by simpa using counted)
  obtain ⟨d, nanos, hd, -, rfl⟩ | ⟨hd, rfl⟩ := h
  · rw [if_pos (paused.1 (by simp [hd]))]
    rfl
  · rw [if_neg (fun hf => by simpa [hd] using paused.2 hf), Builtin.isSome_table]
    rfl

/-- A call is refused only for the number of its arguments, of which a table changes nothing. -/
theorem Statement.outlineCall_of_run [Chance] {s : Statement} {f : Builtin}
    {r : Except ScriptError Instruction}
    (h : (s.compileCall f (f.table (some locals))).run = .ok r) :
    r.map Instruction.untimed = s.outlineCall f := by
  unfold Statement.outlineCall
  cases r with
  | ok i =>
    have counted : f.validate s.arguments.length = .ok () :=
      Builtin.validate_eq_ok.2 (Statement.gives_compileCall.1 h).1
    rw [counted]
    exact congrArg Except.ok (Statement.untimed_of_compileCall h)
  | error e =>
    obtain ⟨e', he, hr⟩ | ⟨u, -, h⟩ := Attempt.run_bind_eq_ok.1 h
    · cases hr
      rw [Except.ok.inj he]
      rfl
    · split at h
      · rename_i d _
        unfold Instruction.ofDelay at h
        cases hd : d.sample? <;> rw [hd] at h <;> cases h
      · cases h

theorem Statement.outline_of_run {_ : Chance} {s : Statement}
    {r : Except ScriptError Instruction} (h : (s.compile registry (some locals)).run = .ok r) :
    r.map Instruction.untimed = s.outline registry := by
  unfold Statement.compile at h
  unfold Statement.outline
  cases hb : s.isBlock with
  | true =>
    rw [hb] at h
    cases h
    rfl
  | false =>
    rw [hb] at h
    cases hf : registry.find? s.function with
    | none =>
      rw [hf] at h
      cases h
      rfl
    | some f =>
      rw [hf] at h
      exact Statement.outlineCall_of_run h

/-- What a source compiles to, its outline says but for the lengths of pauses. -/
theorem outline_of_run {c : Chance} {r : Except ScriptError Program}
    (h : (compile registry (some locals) source).run = .ok r) :
    r.map (List.map Instruction.untimed) = outline registry source := by
  unfold outline
  obtain ⟨e, he, rfl⟩ | ⟨statements, hs, h⟩ := Attempt.run_bind_eq_ok.1 h
  · rw [Except.ok.inj he]
    rfl
  · rw [Except.ok.inj hs, ← List.zipIdx_map_fst 0 statements]
    have known (s : Statement × Nat) (r : Except ScriptError Instruction)
        (hr : (@Statement.compile (c.part s.2) registry (some locals) s.1).run = .ok r) :
        r.map Instruction.untimed = s.1.outline registry :=
      Statement.outline_of_run hr
    show _ = (statements.zipIdx.map Prod.fst).mapM (Statement.outline registry)
    rw [List.mapM_map]
    exact Attempt.map_of_run_mapM known h

/-- A function with what it is called with. -/
structure Invocation where
  function : Builtin
  arguments : List Text
  flags : Flags

namespace Invocation

def run (v : Invocation) (locals : Locals) : Except Crash Reply :=
  v.function.run locals v.arguments v.flags

/-- What is called, apart from the texts of the arguments. -/
def shape (v : Invocation) : Builtin × Nat × Flags := (v.function, v.arguments.length, v.flags)

end Invocation

/-- What a call comes to when it is made: the registry may have changed, and the table is the one
that the run has come to. -/
def Instruction.invocation? (registry : Registry) (locals : Locals) :
    Instruction → Option Invocation
  | call function arguments flags => (registry.find? function).map
      fun f => ⟨f, arguments.map (Value.resolve locals), flags⟩
  | pause _ | block _ => none

/-- A call does what it comes to, and is refused if its function is gone. -/
theorem Instruction.run_call [Lua] (function : Text) (arguments : List Value) (flags : Flags) :
    (call function arguments flags).run registry locals =
      ((call function arguments flags).invocation? registry locals).elim
        (.ok (.ofError (.unknownFunction function))) fun v => v.run locals := by
  cases hf : registry.find? function <;>
    simp [Instruction.run, Instruction.invocation?, Invocation.run, hf]

/-- What an instruction calls is written in it. -/
theorem Instruction.shape_untimed (i : Instruction) :
    (i.invocation? registry locals).map Invocation.shape =
      (i.untimed.invocation? registry locals').map Invocation.shape := by
  cases i with
  | pause | block => rfl
  | call function arguments flags =>
    cases hf : registry.find? function <;>
      simp [Instruction.untimed, Instruction.invocation?, Invocation.shape, hf]

/-- Whatever the registry and the tables are by the time two programs of one outline run, each
instruction of the one calls what the instruction of the other in its place calls. -/
theorem shapes_eq {p q : Program} (h : p.map Instruction.untimed = q.map Instruction.untimed) :
    p.map (fun i => (i.invocation? registry locals).map Invocation.shape) =
      q.map (fun i => (i.invocation? registry locals').map Invocation.shape) := by
  have written (l : Locals) (p : Program) :
      p.map (fun i => (i.invocation? registry l).map Invocation.shape) =
        (p.map Instruction.untimed).map
          fun i => (i.invocation? registry locals').map Invocation.shape := by
    rw [List.map_map]
    exact List.map_congr_left fun i _ => i.shape_untimed
  rw [written locals p, h, ← written locals' q]

/-- Two tables give the same error, or programs that differ in the lengths of their pauses only and
that call the same functions with the same flags and as many arguments, in whatever tables they
run. -/
theorem compile_agree {c c' : Chance}
    (h : (@compile c registry (some locals) source).Returns)
    (h' : (@compile c' registry (some locals') source).Returns) :
    (∃ e, (@compile c registry (some locals) source).run = .ok (.error e) ∧
      (@compile c' registry (some locals') source).run = .ok (.error e)) ∨
    ∃ p q, (@compile c registry (some locals) source).Gives p ∧
      (@compile c' registry (some locals') source).Gives q ∧
      p.map Instruction.untimed = q.map Instruction.untimed ∧
      ∀ (later : Registry) (table table' : Locals),
        p.map (fun i => (i.invocation? later table).map Invocation.shape) =
          q.map (fun i => (i.invocation? later table').map Invocation.shape) := by
  obtain ⟨r, hr⟩ := h
  obtain ⟨r', hr'⟩ := h'
  have same := (outline_of_run hr).trans (outline_of_run hr').symm
  cases r with
  | error e =>
    cases r' with
    | error e' =>
      cases same
      exact .inl ⟨e, hr, hr'⟩
    | ok q => cases same
  | ok p =>
    cases r' with
    | error e' => cases same
    | ok q =>
      have alike : p.map Instruction.untimed = q.map Instruction.untimed := Except.ok.inj same
      exact .inr ⟨p, q, hr, hr', alike, fun _ _ _ => shapes_eq alike⟩

/-- Waits for as long as was captured. -/
def waitAndKill : Text := "#pause $1\nkill $2".toList

theorem compile_agree_waitAndKill :
    ∃ p q, (compile .builtins (some ⟨∅, ["1".toList, "orc".toList]⟩) waitAndKill).Gives p ∧
      (compile .builtins (some ⟨∅, ["2".toList, "orc\n#pause 9".toList]⟩) waitAndKill).Gives q ∧
      p.map Instruction.untimed = q.map Instruction.untimed ∧
      ∀ (later : Registry) (table table' : Locals),
        p.map (fun i => (i.invocation? later table).map Invocation.shape) =
          q.map (fun i => (i.invocation? later table').map Invocation.shape) := by
  have first : (compile .builtins (some ⟨∅, ["1".toList, "orc".toList]⟩) waitAndKill).Gives
      [.pause 1000000000, .call "send".toList [.template "kill $2".toList] ∅] := by
    unfold Attempt.Gives
    decide +kernel
  have second : (compile .builtins (some ⟨∅, ["2".toList, "orc\n#pause 9".toList]⟩)
      waitAndKill).Gives
        [.pause 2000000000, .call "send".toList [.template "kill $2".toList] ∅] := by
    unfold Attempt.Gives
    decide +kernel
  exact (compile_agree first.returns second.returns).resolve_left
    fun ⟨_, refused, _⟩ => nomatch first.symm.trans refused

end Script
end MudClient
