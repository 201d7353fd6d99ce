import MudClient.Proofs.Engine.Rule
import MudClient.Proofs.Engine.Pause
import MudClient.Proofs.Script.Delay
/-! Where a script stops the client. Compiling a script and running it has a result, be it an error
of the script, unless it comes to a pause that is too long or to a block of code that goes on for
ever. A pause is too long if no duration is as long as what was drawn for it, or if the clock ends
before it does. -/
namespace MudClient

open Script (Locals Registry Program Statement Delay Chance Instruction Nanos)

namespace Attempt

variable {α β : Type}

/-- The computation gives something or is refused. -/
def Returns (x : Attempt α) : Prop := ∃ r, x.run = .ok r

theorem Gives.returns {x : Attempt α} {a : α} (h : x.Gives a) : x.Returns := ⟨_, h⟩

theorem returns_bind {x : Attempt α} {f : α → Attempt β} :
    (x >>= f).Returns ↔ x.Returns ∧ ∀ a, x.Gives a → (f a).Returns := by
  constructor
  · rintro ⟨r, hr⟩
    obtain ⟨e, he, -⟩ | ⟨a, ha, hfa⟩ := run_bind_eq_ok.1 hr
    · exact ⟨⟨_, he⟩, fun a ha => nomatch he.symm.trans ha⟩
    · refine ⟨ha.returns, fun a' ha' => ?_⟩
      cases ha.symm.trans ha'
      exact ⟨r, hfa⟩
  · rintro ⟨⟨first, hx⟩, h⟩
    cases first with
    | error e => exact ⟨_, run_bind_eq_ok.2 (.inl ⟨e, hx, rfl⟩)⟩
    | ok a =>
      obtain ⟨r, hr⟩ := h a hx
      exact ⟨r, run_bind_eq_ok.2 (.inr ⟨a, hx, hr⟩)⟩

theorem returns_pure (a : α) : Returns (pure a : Attempt α) := ⟨_, rfl⟩

/-- Each element is computed only if those before it gave something. -/
theorem returns_mapM {f : α → Attempt β} {as : List α} :
    (as.mapM f).Returns ↔ ∀ before a after, as = before ++ a :: after →
      (∀ b ∈ before, ∃ c, (f b).Gives c) → (f a).Returns := by
  induction as with
  | nil => simp [returns_pure]
  | cons a as ih =>
    rw [List.mapM_cons, returns_bind]
    constructor
    · rintro ⟨first, rest⟩ before x after he given
      cases before with
      | nil =>
        obtain ⟨rfl, rfl⟩ := List.cons.inj he
        exact first
      | cons y before =>
        obtain ⟨rfl, rfl⟩ := List.cons.inj he
        obtain ⟨⟨c, hc⟩, given⟩ := List.forall_mem_cons.1 given
        exact ih.1 (returns_bind.1 (rest c hc)).1 before x after rfl given
    · intro h
      refine ⟨h [] a as rfl nofun, fun c hc => returns_bind.2 ⟨ih.2 ?_, fun _ _ => returns_pure _⟩⟩
      rintro before x after rfl given
      exact h (a :: before) x after rfl (List.forall_mem_cons.2 ⟨⟨c, hc⟩, given⟩)

end Attempt

namespace Script

variable {registry : Registry} {vars : Option Locals} {source : Text}

/-- The range in which a statement pauses, if it is a pause that can be compiled. -/
def Statement.delay? (registry : Registry) (vars : Option Locals) (s : Statement) : Option Delay :=
  if s.isBlock then none
  else (registry.find? s.function).bind fun f =>
    if f.accepts s.arguments.length then f.delay? (s.filled (f.table vars)) else none

section

variable [Chance]

theorem Instruction.returns_ofDelay (d : Delay) :
    Attempt.Returns (ExceptT.lift (Instruction.ofDelay d)) ↔ d.sample?.isSome := by
  unfold Instruction.ofDelay Attempt.Returns
  cases d.sample? <;> simp [ExceptT.run_lift, Functor.map, Except.map]

theorem Statement.returns_compileCall {s : Statement} {f : Builtin} {table : Option Locals} :
    (s.compileCall f table).Returns ↔ (f.accepts s.arguments.length →
      ∀ d, f.delay? (s.filled table) = some d → d.sample?.isSome) := by
  have counted : Attempt.Returns (ExceptT.mk (.ok (f.validate s.arguments.length))) := ⟨_, rfl⟩
  rw [Statement.compileCall, Attempt.returns_bind]
  simp only [counted, true_and, Attempt.Gives, ExceptT.run_mk, Except.ok.injEq,
    Builtin.validate_eq_ok, forall_const]
  refine imp_congr_right fun _ => ?_
  cases f.delay? (s.filled table) with
  | none => simp [Attempt.returns_pure]
  | some d => simp [Instruction.returns_ofDelay]

theorem Statement.returns_compile {s : Statement} :
    (s.compile registry vars).Returns ↔ ∀ d, s.delay? registry vars = some d → d.sample?.isSome := by
  unfold Statement.compile Statement.delay?
  cases s.isBlock with
  | true => simp [Attempt.returns_pure]
  | false =>
    cases registry.find? s.function with
    | none =>
      have refused : Attempt.Returns (throw (.unknownFunction s.function) : Attempt Instruction) :=
        ⟨_, rfl⟩
      simpa using refused
    | some f =>
      simp only [Bool.false_eq_true, if_false, Option.bind_some, Statement.returns_compileCall]
      cases f.accepts s.arguments.length <;> simp

end

variable [c : Chance]

/-- Compiling a source comes to a pause in the statement at this place; every statement before it can
be compiled. -/
def ComesToPause (registry : Registry) (vars : Option Locals) (source : Text) (place : Nat)
    (d : Delay) : Prop :=
  ∃ statements before s after, split source = .ok statements ∧
    statements.zipIdx = before ++ (s, place) :: after ∧
    (∀ b ∈ before, ∃ i, (@Statement.compile (c.part b.2) registry vars b.1).Gives i) ∧
    s.delay? registry vars = some d

/-- Compiling does not crash exactly if a duration can be as long as what is drawn for each pause
that it comes to. -/
theorem returns_compile : (compile registry vars source).Returns ↔
    ∀ place d, ComesToPause registry vars source place d →
      (@Delay.sample? (c.part place) d).isSome := by
  have read : Attempt.Returns (ExceptT.mk (.ok (split source))) := ⟨_, rfl⟩
  rw [compile, Attempt.returns_bind]
  simp only [read, true_and, Attempt.returns_mapM, Statement.returns_compile]
  constructor
  · rintro h place d ⟨statements, before, s, after, hs, he, given, hd⟩
    exact h statements (congrArg Except.ok hs) before (s, place) after he given d hd
  · rintro h statements hs before ⟨s, place⟩ after he given d hd
    exact h place d ⟨statements, before, s, after, Except.ok.inj hs, he, given, hd⟩

omit c in
/-- No two elements of a list have the same place. -/
theorem ne_of_zipIdx_eq {α : Type} {as : List α} {a : α} {place : Nat}
    {before after : List (α × Nat)} (he : as.zipIdx = before ++ (a, place) :: after) :
    ∀ b ∈ before, b.2 ≠ place := by
  intro b hb
  have distinct : (as.zipIdx.map Prod.snd).Nodup := by
    rw [List.zipIdx_map_snd]
    exact List.nodup_range'
  rw [he, List.map_append, List.map_cons] at distinct
  exact (List.nodup_append.1 distinct).2.2 b.2 (List.mem_map_of_mem hb) place List.mem_cons_self

omit c in
/-- What is drawn at a place has no say in whether compiling comes to it. -/
theorem ComesToPause.set {c : Chance} {place : Nat} {d : Delay} (part : Chance)
    (h : @ComesToPause c registry vars source place d) :
    @ComesToPause (c.set place part) registry vars source place d := by
  obtain ⟨statements, before, s, after, hs, he, given, hd⟩ := h
  refine ⟨statements, before, s, after, hs, he, fun b hb => ?_, hd⟩
  rw [c.part_set_of_ne part (ne_of_zipIdx_eq he b hb)]
  exact given b hb

omit c in
/-- Whatever is drawn, compiling does not crash, exactly if a duration can be as long as the upper
bound of each pause that it may come to. -/
theorem forall_returns_compile :
    (∀ c : Chance, (@compile c registry vars source).Returns) ↔
      ∀ (c : Chance) place d, @ComesToPause c registry vars source place d →
        (Delay.nanos? d.max).isSome := by
  simp only [returns_compile]
  constructor
  · intro drawn c place d comes
    rw [← d.isSome_sample?_iff]
    intro part
    have own := drawn (c.set place part) place d (comes.set part)
    rwa [c.part_set place part] at own
  · intro bound c place d comes
    exact d.isSome_sample?_iff.2 (bound c place d comes) (c.part place)

end Script

/-- What is left at a pause is the end of the program. -/
theorem Script.suffix_of_run [Lua] {registry : Registry} {p rest : Program} {locals : Locals}
    {s : Script.Segment} {delay : Nanos} (h : p.run registry locals = .ok s)
    (he : s.ending = .paused delay rest) : rest <:+ p := by
  induction p generalizing locals s with
  | nil =>
    cases h
    cases he
  | cons i more ih =>
    rw [Program.run] at h
    obtain ⟨reply, -, h⟩ := bind_eq_ok.1 h
    rcases hf : reply.flow with error | _ | _ | delay <;> rw [hf] at h <;> dsimp only at h
    case error | ok.stop =>
      cases h
      cases he
    case ok.next =>
      obtain ⟨later, hl, h⟩ := bind_eq_ok.1 h
      cases h
      exact (ih hl he).trans (List.suffix_cons i more)
    case ok.pause =>
      cases h
      cases he
      exact List.suffix_cons i rest

/-- The functions are the same after a run, and what waits was compiled for them. -/
structure Execution.IsCompiled (r : Registry) (x : Execution) : Prop where
  registry : x.engine.registry = r
  waiting : ∀ c, x.result = .ok (.suspended c) → ∀ i ∈ c.rest, i.InRange r

namespace Engine

/-- The clock, which counts its seconds in 63 bits, goes on until a pause is over. -/
def IsInClock (now delay : Nanos) : Prop :=
  (now + delay) / Script.nanosPerSecond < Nat.pow 2 63

theorem returns_dueTime {now delay : Nanos} :
    (∃ due, dueTime now delay = .ok due) ↔ IsInClock now delay := by
  unfold dueTime IsInClock
  split <;> simp_all

end Engine

variable [Lua]

/-- An instruction does not stop the client: it is done at some time, and if it is a pause, the clock
goes on until it is over. -/
structure Script.Instruction.Fits (now : Nanos) (table : Locals) (i : Instruction) : Prop where
  ends : i.Ends table
  clock : ∀ delay, i = .pause delay → Engine.IsInClock now delay

namespace Engine

variable {e : Engine} {vars : Option Locals} {source label : Text} {now : Nanos}

/-- A program that was compiled runs until it ends or pauses exactly if no instruction that it comes
to stops the client. -/
theorem returns_drive {program : Program} {locals : Locals}
    (hr : ∀ i ∈ program, i.InRange e.registry) :
    (∃ x, e.drive program locals label now = .ok x) ↔
      ∀ i table, program.ComesTo e.registry locals i table → i.Fits now table := by
  induction program generalizing e locals with
  | nil => exact ⟨fun _ _ _ h => absurd h Program.not_comesTo_nil, fun _ => ⟨_, drive_nil⟩⟩
  | cons i rest ih =>
    obtain ⟨hi, hrest⟩ := List.forall_mem_cons.1 hr
    have clock (hp : i.isPause = false) : ∀ delay, i = .pause delay → IsInClock now delay := by
      rintro delay rfl
      cases hp
    cases hi.does locals with
    | pause delay =>
      rw [Program.forall_comesTo_last (by simp [Instruction.run, Script.Reply.ofFlow]), drive_pause]
      have fits : Instruction.Fits now locals (.pause delay) ↔ IsInClock now delay :=
        ⟨fun h => h.clock delay rfl, fun h => ⟨trivial, fun d hd => by cases hd; exact h⟩⟩
      rw [fits, ← returns_dueTime]
      cases dueTime now delay <;> simp [Except.map]
    | endless _ hends ran =>
      rw [Program.forall_comesTo_last (by simp [ran]), drive_crash ran]
      refine ⟨?_, fun h => absurd h.ends hends⟩
      rintro ⟨x, h⟩
      cases h
    | error hp hends ran =>
      rw [Program.forall_comesTo_last (by simp [ran]), drive_error ran]
      exact ⟨fun _ => ⟨hends, clock hp⟩, fun _ => ⟨_, rfl⟩⟩
    | @next _ effects changes hp hends ran =>
      rw [Program.forall_comesTo_next ran, drive_next ran,
        and_iff_right (⟨hends, clock hp⟩ : i.Fits now locals)]
      refine Iff.trans ?_ (ih (e := e.merge changes) hrest)
      cases (e.merge changes).drive rest (locals.applyChanges changes) label now <;>
        simp [Except.map]
    | stop hp hends ran =>
      rw [Program.forall_comesTo_last (by simp [ran]), drive_stop ran]
      exact ⟨fun _ => ⟨hends, clock hp⟩, fun _ => ⟨_, rfl⟩⟩

theorem returns_start {compiled : Attempt Program} :
    (∃ x, e.start compiled label now = .ok x) ↔ compiled.Returns ∧
      ∀ p, compiled.Gives p → ∃ x, e.drive p e.locals label now = .ok x := by
  unfold start Attempt.Returns Attempt.Gives
  cases compiled.run with
  | error crash => simp [bind, Except.bind]
  | ok r => cases r <;> simp [bind, Except.bind, pure, Except.pure]

section

variable [c : Chance]

/-- A script does not stop the client: a duration is as long as what is drawn for each pause that
compiling it comes to, and no instruction that its run comes to is too long. -/
structure Fits (e : Engine) (vars : Option Locals) (source : Text) (now : Nanos) : Prop where
  durations : ∀ place d, Script.ComesToPause e.registry vars source place d →
    (@Delay.sample? (c.part place) d).isSome
  run : ∀ p, (Script.compile e.registry vars source).Gives p →
    ∀ i table, p.ComesTo e.registry e.locals i table → i.Fits now table

theorem returns_start_compile :
    (∃ x, e.start (Script.compile e.registry vars source) label now = .ok x) ↔
      e.Fits vars source now := by
  rw [returns_start, Script.returns_compile]
  refine ⟨fun ⟨hd, hp⟩ => ⟨hd, fun p hc => ?_⟩, fun h => ⟨h.durations, fun p hc => ?_⟩⟩
  · exact (returns_drive (Script.inRange_of_compile hc)).1 (hp p hc)
  · exact (returns_drive (Script.inRange_of_compile hc)).2 (h.run p hc)

theorem returns_execute (captures : Option Captures) :
    (∃ x, e.execute source captures label now = .ok x) ↔
      (captures.elim e e.applyCaptures).Fits (some (captures.elim e e.applyCaptures).locals)
        source now :=
  returns_start_compile

theorem returns_executeRaw :
    (∃ x, e.executeRaw source label now = .ok x) ↔ e.Fits none source now :=
  returns_start_compile

end

theorem returns_resume {c : Continuation} (hr : ∀ i ∈ c.rest, i.InRange e.registry) :
    (∃ x, e.resume c now = .ok x) ↔ (c.generation = e.generation →
      ∀ i table, c.rest.ComesTo e.registry c.locals i table → i.Fits now table) := by
  unfold resume
  split
  · rename_i hg
    rw [returns_drive hr]
    simp [hg]
  · rename_i hg
    simp [hg]

variable {x : Execution}

theorem isCompiled_of_drive {program : Program} {locals : Locals}
    (hr : ∀ i ∈ program, i.InRange e.registry) (h : e.drive program locals label now = .ok x) :
    x.IsCompiled e.registry := by
  unfold drive at h
  obtain ⟨s, hs, h⟩ := bind_eq_ok.1 h
  dsimp only at h
  split at h
  case h_4 delay rest hending =>
    obtain ⟨due, -, h⟩ := bind_eq_ok.1 h
    cases h
    refine ⟨rfl, fun c hc i hi => ?_⟩
    cases hc
    exact hr i ((Script.suffix_of_run hs hending).subset hi)
  all_goals
    cases h
    exact ⟨rfl, fun _ hc => nomatch hc⟩

theorem isCompiled_of_start {_ : Chance}
    (h : e.start (Script.compile e.registry vars source) label now = .ok x) :
    x.IsCompiled e.registry := by
  unfold start at h
  obtain ⟨r, hr, h⟩ := bind_eq_ok.1 h
  cases r with
  | error error =>
    cases h
    exact ⟨rfl, fun _ hc => nomatch hc⟩
  | ok p => exact isCompiled_of_drive (Script.inRange_of_compile hr) h

theorem isCompiled_of_resume {c : Continuation} (hc : ∀ i ∈ c.rest, i.InRange e.registry)
    (h : e.resume c now = .ok x) : x.IsCompiled e.registry := by
  unfold resume at h
  split at h
  · exact isCompiled_of_drive hc h
  · cases h
    exact ⟨rfl, fun _ hc => nomatch hc⟩

end Engine
end MudClient
