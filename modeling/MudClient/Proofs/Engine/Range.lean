import MudClient.Proofs.Engine.Failure
import MudClient.Surroundings
/-! Calls within range. Compiling a script counts the arguments of its calls, and nothing that
happens to the script afterwards changes their number: not filling them in, not a pause, not what
other scripts do to the table of the engine while it waits. So every call that a run makes finds its
function, and the function has all the arguments that it reads. -/
namespace MudClient

open Script (Locals Registry Program Instruction Builtin Value Chance Nanos)

namespace Script

variable [Lua] {registry : Registry} {locals : Locals}

/-- The function that an instruction calls and the arguments that are handed over to it. -/
def Instruction.called? (locals : Locals) : Instruction → Option (Text × List Text)
  | .call function arguments _ => some (function, arguments.map (Value.resolve locals))
  | .pause _ | .block _ => none

/-- The calls that a run makes before it pauses or ends. -/
def Program.calls (registry : Registry) : Program → Locals → List (Text × List Text)
  | [], _ => []
  | i :: rest, locals => (i.called? locals).toList ++
    match i.run registry locals with
    | .ok ⟨_, changes, .ok .next⟩ => Program.calls registry rest (locals.applyChanges changes)
    | _ => []

omit [Lua] in
theorem Instruction.InRange.called {i : Instruction} (h : i.InRange registry) :
    ∀ c ∈ i.called? locals, ∃ f, registry.find? c.1 = some f ∧ f.accepts c.2.length := by
  cases i with
  | call function arguments flags =>
    obtain ⟨f, hf, counted, -⟩ := h
    rintro c ⟨⟩
    exact ⟨f, hf, by rwa [List.length_map]⟩
  | pause | block => exact fun _ h => nomatch h

theorem Program.called_of_inRange {p : Program} (h : ∀ i ∈ p, i.InRange registry)
    (locals : Locals) :
    ∀ c ∈ p.calls registry locals, ∃ f, registry.find? c.1 = some f ∧ f.accepts c.2.length := by
  induction p generalizing locals with
  | nil => exact fun _ hc => nomatch hc
  | cons i rest ih =>
    obtain ⟨hi, hrest⟩ := List.forall_mem_cons.1 h
    intro c hc
    rw [calls] at hc
    rcases List.mem_append.1 hc with hc | hc
    · exact hi.called c (Option.mem_toList.1 hc)
    · split at hc
      · exact ih hrest _ c hc
      · cases hc

/-- Only a block of code without an end keeps a run from its end or its next pause. -/
theorem Program.run_cases {p : Program} (h : ∀ i ∈ p, i.InRange registry) (locals : Locals) :
    (¬ ∀ i table, p.ComesTo registry locals i table → i.Ends table) ∧
        p.run registry locals = .error .endless ∨
      (∀ i table, p.ComesTo registry locals i table → i.Ends table) ∧
        ∃ s, p.run registry locals = .ok s := by
  induction p generalizing locals with
  | nil => exact .inr ⟨fun _ _ h => absurd h not_comesTo_nil, _, rfl⟩
  | cons i rest ih =>
    obtain ⟨hi, hrest⟩ := List.forall_mem_cons.1 h
    rw [Program.run]
    cases hi.does locals with
    | pause delay =>
      rw [forall_comesTo_last (by simp [Instruction.run, Reply.ofFlow])]
      exact .inr ⟨trivial, _, rfl⟩
    | endless _ hends ran =>
      rw [forall_comesTo_last (by simp [ran]), ran]
      exact .inl ⟨hends, rfl⟩
    | @next _ effects changes _ hends ran =>
      rw [forall_comesTo_next ran, and_iff_right hends, ran]
      obtain ⟨hn, hs⟩ | ⟨hn, s, hs⟩ := ih hrest (locals.applyChanges changes)
      · exact .inl ⟨hn, by simp only [bind, Except.bind, hs]⟩
      · exact .inr ⟨hn, _, by simp only [bind, Except.bind, hs]; rfl⟩
    | error _ hends ran | stop _ hends ran =>
      rw [forall_comesTo_last (by simp [ran]), ran]
      exact .inr ⟨hends, _, rfl⟩

/-- A run has a result exactly if no block of code that it comes to goes on for ever. -/
theorem Program.returns_run {p : Program} (h : ∀ i ∈ p, i.InRange registry) (locals : Locals) :
    (∃ s, p.run registry locals = .ok s) ↔
      ∀ i table, p.ComesTo registry locals i table → i.Ends table := by
  obtain ⟨hn, run⟩ | ⟨hends, s, run⟩ := p.run_cases h locals
  · exact ⟨fun ⟨s, hs⟩ => (nomatch run.symm.trans hs), fun h => absurd h hn⟩
  · exact ⟨fun _ => hends, fun _ => ⟨s, run⟩⟩

end Script

namespace Engine

section

variable [Lua] {e : Engine} {registry : Registry} {p q : Program} {l : Locals}
  {run : Except Crash Execution}

/-- How a program is run on engines with these functions: from its beginning, and from each pause on
whatever has become of the engine in the meantime. `q` is the program that is left, and `l` the table
that it starts with. -/
inductive Runs (registry : Registry) (p : Program) :
    Program → Locals → Except Crash Execution → Prop
  | started {e : Engine} (label : Text) (now : Nanos) : e.registry = registry →
      Runs registry p p e.locals (e.drive p e.locals label now)
  | resumed {e : Engine} {q : Program} {l : Locals} {x : Execution} {c : Continuation}
      (now : Nanos) : Runs registry p q l (.ok x) → x.result = .ok (.suspended c) →
      e.registry = registry → Runs registry p c.rest c.locals (e.resume c now)

/-- A run of a compiled program: what is left of it calls what there is, and what comes of it waits
in the same way. -/
structure IsInRange (registry : Registry) (q : Program) (run : Except Crash Execution) : Prop where
  left : ∀ i ∈ q, i.InRange registry
  waiting : ∀ x, run = .ok x → x.IsCompiled registry
  crash : ∀ crash, run = .error crash → crash = .clockOverflow ∨ crash = .endless
  error : ∀ x error, run = .ok x → x.result = .error error → error.isParseFailure = false

theorem crash_of_drive {locals : Locals} {label : Text} {now : Nanos} {crash : Crash}
    (hq : ∀ i ∈ q, i.InRange e.registry)
    (h : e.drive q locals label now = .error crash) :
    crash = .clockOverflow ∨ crash = .endless := by
  obtain ⟨-, hs⟩ | ⟨-, s, hs⟩ := Script.Program.run_cases hq locals <;>
    rw [drive, hs] at h <;> simp only [bind, Except.bind] at h
  · cases h
    exact .inr rfl
  · split at h
    case h_4 delay rest _ =>
      cases hd : dueTime now delay with
      | error overflow =>
        rw [hd] at h
        cases h
        exact .inl (dueTime_error hd)
      | ok due =>
        rw [hd] at h
        cases h
    all_goals cases h

theorem isInRange_of_drive {locals : Locals} {label : Text} {now : Nanos}
    (hq : ∀ i ∈ q, i.InRange e.registry) :
    IsInRange e.registry q (e.drive q locals label now) where
  left := hq
  waiting _ := isCompiled_of_drive hq
  crash _ := crash_of_drive hq
  error _ _ h he := (exists_failsAt_of_drive hq h he).1

theorem Runs.isInRange (hp : ∀ i ∈ p, i.InRange registry) (h : Runs registry p q l run) :
    IsInRange registry q run := by
  induction h with
  | started label now he =>
    subst he
    exact isInRange_of_drive hp
  | @resumed e q l x c now _ waits he ih =>
    subst he
    have left := (ih.waiting x rfl).waiting c waits
    unfold resume
    split
    · exact isInRange_of_drive left
    · refine ⟨left, ?_, nofun, ?_⟩
      · rintro _ ⟨⟩
        exact ⟨rfl, fun _ hc => nomatch hc⟩
      · rintro _ _ ⟨⟩ ⟨⟩

/-- A script that compiles with some functions calls only these, and each with as many arguments as
it takes, however often it pauses. So no function reads an argument that is missing: only a block of
code without an end and the clock stop the client, and the script does not fail for a function or its
arguments. -/
theorem called_of_runs [Chance] {vars : Option Locals} {source : Text}
    (hc : (Script.compile registry vars source).Gives p) (h : Runs registry p q l run) :
    (∀ c ∈ q.calls registry l, ∃ f, registry.find? c.1 = some f ∧ f.accepts c.2.length) ∧
    ((∃ s, q.run registry l = .ok s) ↔
      ∀ i table, q.ComesTo registry l i table → i.Ends table) ∧
    (∀ crash, run = .error crash → crash = .clockOverflow ∨ crash = .endless) ∧
    ∀ x error, run = .ok x → x.result = .error error →
      (∀ name, error ≠ .unknownFunction name) ∧
      ∀ function min max count, error ≠ .invalidArguments function min max count := by
  have inRange := h.isInRange (Script.inRange_of_compile hc)
  refine ⟨Script.Program.called_of_inRange inRange.left l,
    Script.Program.returns_run inRange.left l, inRange.crash, fun x error hx he => ?_⟩
  have own := inRange.error x error hx he
  constructor
  · rintro _ rfl
    cases own
  · rintro _ _ _ _ rfl
    cases own

end

/-- Three functions under names of another choice. -/
def renamed : Registry :=
  ((Registry.empty.register "Wait".toList .pause).register "go".toList .send).register
    "note".toList .writeVar

/-- The call behind a pause finds its function, with the values that were written before. -/
theorem called_of_runs_renamed : ∃ (p : Program) (c : Continuation) (run : Except Crash Execution),
    (Script.compile renamed (some .empty) "#note n 1\n#wait 1\n#GO $n home".toList).Gives p ∧
    Runs renamed p c.rest c.locals run ∧
    c.rest.calls renamed c.locals = [("go".toList, ["1".toList, "home".toList])] ∧
    (∃ f, renamed.find? "go".toList = some f ∧ f.accepts 2) ∧
    ∃ s, c.rest.run renamed c.locals = .ok s := by
  let p : Program := [.call "note".toList [.template "n".toList, .template "1".toList] ∅,
    .pause 1000000000, .call "go".toList [.template "$n".toList, .template "home".toList] ∅]
  let c : Continuation := ⟨[.call "go".toList [.template "$n".toList, .template "home".toList] ∅],
    Locals.empty.set "n".toList "1".toList, [], 1000000000, 0⟩
  have compiled : (Script.compile renamed (some .empty)
      "#note n 1\n#wait 1\n#GO $n home".toList).Gives p := by
    unfold Attempt.Gives
    decide +kernel
  have paused : ((create renamed).drive p .empty [] 0).map Execution.result =
      .ok (.ok (.suspended c)) := by
    decide +kernel
  have calls : c.rest.calls renamed c.locals = [("go".toList, ["1".toList, "home".toList])] := by
    decide +kernel
  cases ran : (create renamed).drive p .empty [] 0 with
  | error crash =>
    rw [ran] at paused
    cases paused
  | ok x =>
    rw [ran] at paused
    obtain ⟨engine, effects, result⟩ := x
    cases paused
    have first : Runs renamed p p .empty (.ok ⟨engine, effects, .ok (.suspended c)⟩) :=
      ran ▸ .started (e := create renamed) [] 0 rfl
    have later : Runs renamed p c.rest c.locals ((create renamed).resume c 1000000000) :=
      first.resumed 1000000000 rfl rfl
    obtain ⟨found, returns, -⟩ := called_of_runs compiled later
    have ends : ∀ i table, c.rest.ComesTo renamed c.locals i table → i.Ends table := by
      rintro i table (_ | ⟨-, h⟩)
      · trivial
      · exact absurd h Program.not_comesTo_nil
    exact ⟨p, c, _, compiled, later, calls, found _ (calls ▸ List.mem_singleton_self _),
      returns.2 ends⟩

end Engine
end MudClient
