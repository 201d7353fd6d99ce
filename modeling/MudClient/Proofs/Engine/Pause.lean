import Mathlib.Control.Monad.Basic
import MudClient.Engine
import MudClient.Proofs.Script.Progress
import MudClient.Surroundings
/-! A pause changes when a script acts and not what it does, as long as the clock can tell when it
is over. A script that is let go on until it ends does what a direct interpreter does, which never
waits and writes every variable at once. -/
namespace MudClient

open Script (Locals Program Effect Nanos Chance)

namespace Script

variable [Lua]

namespace Program

def withoutPauses (p : Program) : Program := p.filter (!·.isPause)

/-- The lengths of the pauses that a program comes to before it ends. -/
def reached (registry : Registry) : Program → Locals → List Nanos
  | [], _ => []
  | .pause delay :: rest, locals => delay :: reached registry rest locals
  | i :: rest, locals =>
    match i.run registry locals with
    | .ok ⟨_, changes, .ok .next⟩ => reached registry rest (locals.applyChanges changes)
    | _ => []

variable {registry : Registry} {i : Instruction} {rest : Program} {locals : Locals}
  {effects : List Effect} {changes : List Change}

theorem reached_next (hp : i.isPause = false)
    (h : i.run registry locals = .ok ⟨effects, changes, .ok .next⟩) :
    reached registry (i :: rest) locals = reached registry rest (locals.applyChanges changes) := by
  cases i with
  | pause delay => cases hp
  | call | block => simp only [reached, h]

/-- Nothing is reached behind an instruction that does not lead on. -/
theorem reached_last (hp : i.isPause = false)
    (h : ∀ effects changes, i.run registry locals ≠ .ok ⟨effects, changes, .ok .next⟩) :
    reached registry (i :: rest) locals = [] := by
  cases i with
  | pause delay => cases hp
  | call | block => simp only [reached]

end Program

structure Summary where
  effects : List Effect
  locals : Locals
  result : Except ScriptError Outcome

namespace Summary

def after (effects : List Effect) (s : Summary) : Summary :=
  { s with effects := effects ++ s.effects }

end Summary

/-- Runs a program from its first to its last instruction. Variables are written at once, and
nothing waits. -/
def Program.interpret (registry : Registry) : Program → Locals → Except Crash Summary
  | [], locals => .ok ⟨[], locals, .ok .completed⟩
  | i :: rest, locals => do
    let reply ← i.run registry locals
    match reply.flow with
    | .error error => return ⟨reply.effects, locals.applyChanges reply.changes, .error error⟩
    | .ok .stop => return ⟨reply.effects, locals.applyChanges reply.changes, .ok .aborted⟩
    | .ok _ =>
      return (← Program.interpret registry rest (locals.applyChanges reply.changes)).after
        reply.effects

/-- The direct interpreter has a result if all blocks of code that it comes to come to their end. -/
theorem Program.returns_interpret {registry : Registry} {p : Program} {locals : Locals}
    (hr : ∀ i ∈ p, i.InRange registry) (hp : ∀ i ∈ p, i.isPause = false) :
    (∃ s, p.interpret registry locals = .ok s) ↔
      ∀ i table, p.ComesTo registry locals i table → i.Ends table := by
  induction p generalizing locals with
  | nil => exact ⟨fun _ _ _ h => absurd h not_comesTo_nil, fun _ => ⟨_, rfl⟩⟩
  | cons i rest ih =>
    obtain ⟨hi, hr⟩ := List.forall_mem_cons.1 hr
    obtain ⟨hpi, hp⟩ := List.forall_mem_cons.1 hp
    rw [interpret]
    cases hi.does locals with
    | pause delay => cases hpi
    | endless _ hends ran =>
      rw [forall_comesTo_last (by simp [ran]), ran]
      exact ⟨fun ⟨_, hs⟩ => (nomatch hs), fun h => absurd h hends⟩
    | @next _ effects changes _ hends ran =>
      rw [forall_comesTo_next ran, ← ih hr hp, ran]
      cases hrest : Program.interpret registry rest (locals.applyChanges changes) <;>
        simp [bind, Except.bind, pure, Except.pure, hends, hrest]
    | error _ hends ran | stop _ hends ran =>
      rw [forall_comesTo_last (by simp [ran]), ran]
      exact ⟨fun _ => hends, fun _ => ⟨_, rfl⟩⟩

end Script

open Script (Instruction Summary)

namespace Execution

def after (effects : List Effect) (x : Execution) : Execution :=
  { x with effects := effects ++ x.effects }

@[simp] theorem after_after (a b : List Effect) (x : Execution) :
    (x.after b).after a = x.after (a ++ b) := by
  simp [after]

variable [Lua]

/-- The script goes on at each of the times until it does not wait any more. -/
def playOut : List Nanos → Execution → Except Crash Execution
  | [], x => .ok x
  | t :: times, x =>
    match x.result with
    | .ok (.suspended c) => do
      let next ← x.engine.resume c t
      playOut times (next.after x.effects)
    | _ => .ok x

theorem playOut_after (effects : List Effect) (times : List Nanos) (x : Execution) :
    playOut times (x.after effects) = (playOut times x).map (after effects) := by
  induction times generalizing x with
  | nil => rfl
  | cons t times ih =>
    obtain ⟨engine, own, result⟩ := x
    rcases result with error | _ | _ | _ | c
    case ok.suspended =>
      simp only [playOut, after]
      cases engine.resume c t with
      | error crash => rfl
      | ok next =>
        have h := ih (next.after own)
        rwa [after_after] at h
    all_goals rfl

theorem bind_playOut_after (effects : List Effect) (times : List Nanos)
    (x : Except Crash Execution) : x.map (after effects) >>= playOut times =
      (x >>= playOut times).map (after effects) := by
  cases x with
  | error crash => rfl
  | ok x => exact playOut_after effects times x

end Execution

namespace Engine

variable {e : Engine} {i : Instruction} {rest : Program} {locals : Locals} {label : Text}
  {now : Nanos} {effects : List Effect} {changes : List Script.Change}

@[simp] theorem merge_append (e : Engine) (a b : List Script.Change) :
    e.merge (a ++ b) = (e.merge a).merge b := by
  simp [merge]

/-- The engine with what a direct run did. -/
def taking (e : Engine) (s : Summary) : Execution :=
  ⟨{ e with locals := s.locals }, s.effects, s.result⟩

section

variable [Lua]

theorem drive_nil : e.drive [] locals label now = .ok ⟨e, [], .ok .completed⟩ := rfl

theorem drive_pause {delay : Nanos} : e.drive (.pause delay :: rest) locals label now =
    (dueTime now delay).map fun due =>
      ⟨e, [], .ok (.suspended ⟨rest, locals, label, due, e.generation⟩)⟩ := by
  simp only [drive, Program.run, Instruction.run, Script.Reply.ofFlow, Script.Reply.last, bind,
    Except.bind, pure, Except.pure]
  cases dueTime now delay <;> rfl

/-- After an instruction the engine has taken its changes, as if they were merged at once. -/
theorem drive_next (h : i.run e.registry locals = .ok ⟨effects, changes, .ok .next⟩) :
    e.drive (i :: rest) locals label now =
      ((e.merge changes).drive rest (locals.applyChanges changes) label now).map
        (Execution.after effects) := by
  have run : Program.run e.registry (i :: rest) locals =
      (rest.run (e.merge changes).registry (locals.applyChanges changes)).map
        (Script.Segment.after ⟨effects, changes, .ok .next⟩) := by
    simp only [Program.run, h]
    rfl
  rw [drive, run, drive]
  cases rest.run (e.merge changes).registry (locals.applyChanges changes) with
  | error crash => rfl
  | ok segment =>
    obtain ⟨own, more, table, ending⟩ := segment
    simp only [Except.map, bind, Except.bind, pure, Except.pure, Script.Segment.after, merge_append]
    cases ending with
    | finished | stopped | failed => rfl
    | paused delay left =>
      dsimp only
      cases dueTime now delay <;> rfl

theorem drive_stop (h : i.run e.registry locals = .ok ⟨effects, changes, .ok .stop⟩) :
    e.drive (i :: rest) locals label now = .ok ⟨e.merge changes, effects, .ok .aborted⟩ := by
  simp only [drive, Program.run, h]
  rfl

theorem drive_error {error : ScriptError}
    (h : i.run e.registry locals = .ok ⟨effects, changes, .error error⟩) :
    e.drive (i :: rest) locals label now = .ok ⟨e.merge changes, effects, .error error⟩ := by
  simp only [drive, Program.run, h]
  rfl

theorem drive_crash {crash : Crash} (h : i.run e.registry locals = .error crash) :
    e.drive (i :: rest) locals label now = .error crash := by
  simp only [drive, Program.run, h]
  rfl

end

/-- The clock can tell when each pause is over. The pauses begin at the times. -/
def InTime (times delays : List Nanos) : Prop :=
  ∀ w ∈ times.zip delays, dueTime w.1 w.2 ≠ .error .clockOverflow

/-- A script that comes to these pauses is played out as it is run directly, unless the clock ends
while it waits. If the direct run crashes, then so does the script. -/
structure PlayedAs (e : Engine) (times delays : List Nanos) (direct : Except Crash Summary)
    (x : Except Crash Execution) : Prop where
  inTime : InTime times delays → x = direct.map e.taking
  overflow : ¬ InTime times delays → x = .error .clockOverflow

variable {times delays : List Nanos} {direct : Except Crash Summary} {x : Except Crash Execution}

theorem PlayedAs.of_eq (h : x = direct.map e.taking) : e.PlayedAs times [] direct x := by
  refine ⟨fun _ => h, fun hn => absurd ?_ hn⟩
  simp [InTime]

theorem PlayedAs.after (h : (e.merge changes).PlayedAs times delays direct x)
    (effects : List Effect) :
    e.PlayedAs times delays (direct.map (Summary.after effects))
      (x.map (Execution.after effects)) := by
  refine ⟨fun ht => ?_, fun ht => ?_⟩
  · rw [h.inTime ht]
    cases direct <;> rfl
  · rw [h.overflow ht]
    rfl

theorem dueTime_error {t delay : Nanos} {crash : Crash} (h : dueTime t delay = .error crash) :
    crash = .clockOverflow := by
  unfold dueTime at h
  split at h <;> cases h
  rfl

section

variable [Lua]

/-- A pause is played out if what stands behind it is, from the time at which the script goes on. -/
theorem PlayedAs.pause {delay t : Nanos} (h : e.PlayedAs (t :: times) delays direct
      (e.drive rest e.locals label t >>= Execution.playOut times)) :
    e.PlayedAs (now :: t :: times) (delay :: delays) direct
      (e.drive (.pause delay :: rest) e.locals label now >>= Execution.playOut (t :: times)) := by
  have waits : InTime (now :: t :: times) (delay :: delays) ↔
      dueTime now delay ≠ .error .clockOverflow ∧ InTime (t :: times) delays := by
    rw [InTime, List.zip_cons_cons, List.forall_mem_cons]
    rfl
  rw [drive_pause]
  cases hd : dueTime now delay with
  | error crash =>
    cases dueTime_error hd
    exact ⟨fun ht => absurd hd (waits.1 ht).1, fun _ => rfl⟩
  | ok due =>
    have resumed : e.resume ⟨rest, e.locals, label, due, e.generation⟩ t =
        e.drive rest e.locals label t := if_pos rfl
    simp only [Except.map, bind, Except.bind, Execution.playOut, resumed]
    exact ⟨fun ht => h.inTime (waits.1 ht).2, fun hn => h.overflow fun ht =>
      hn (waits.2 ⟨by simp [hd], ht⟩)⟩

/-- The table of the run is the table of the engine at every instruction, since nothing else writes
while the script waits. -/
theorem playedAs_drive (e : Engine) (program : Program) (label : Text) (now : Nanos)
    (times : List Nanos) (hr : ∀ i ∈ program, i.InRange e.registry)
    (ht : (program.reached e.registry e.locals).length ≤ times.length) :
    e.PlayedAs (now :: times) (program.reached e.registry e.locals)
      (program.withoutPauses.interpret e.registry e.locals)
      (e.drive program e.locals label now >>= Execution.playOut times) := by
  induction program generalizing e now times with
  | nil =>
    refine .of_eq ?_
    rw [drive_nil]
    cases times <;> rfl
  | cons i rest ih =>
    obtain ⟨hi, hrest⟩ := List.forall_mem_cons.1 hr
    have skipped (hp : i.isPause = false) :
        Program.withoutPauses (i :: rest) = i :: Program.withoutPauses rest := by
      simp [Program.withoutPauses, hp]
    cases hi.does e.locals with
    | pause delay =>
      cases times with
      | nil => simp [Program.reached] at ht
      | cons t times => exact (ih e t times hrest (by simpa [Program.reached] using ht)).pause
    | endless hp _ ran =>
      rw [skipped hp, Program.interpret, Program.reached_last hp (by simp [ran]), drive_crash ran,
        ran]
      exact .of_eq rfl
    | error hp _ ran =>
      rw [skipped hp, Program.interpret, Program.reached_last hp (by simp [ran]), drive_error ran,
        ran]
      refine .of_eq ?_
      cases times <;> rfl
    | @next _ effects changes hp _ ran =>
      rw [Program.reached_next hp ran] at ht ⊢
      rw [skipped hp, Program.interpret, ran, drive_next ran, Execution.bind_playOut_after]
      exact (ih (e.merge changes) now times hrest ht).after effects
    | stop hp _ ran =>
      rw [skipped hp, Program.interpret, Program.reached_last hp (by simp [ran]), drive_stop ran,
        ran]
      refine .of_eq ?_
      cases times <;> rfl

variable [Chance]

theorem execute_of_gives (e : Engine) {source : Text} (captures : Option Captures)
    {program : Program}
    (hc : (Script.compile e.registry (some (captures.elim e e.applyCaptures).locals)
      source).Gives program) (label : Text) (now : Nanos) :
    e.execute source captures label now = (captures.elim e e.applyCaptures).drive program
      (captures.elim e e.applyCaptures).locals label now := by
  have registry : (captures.elim e e.applyCaptures).registry = e.registry := by
    cases captures <;> rfl
  rw [execute, start, registry, show (Script.compile _ _ _).run = _ from hc]
  rfl

/-- A script that was compiled, whatever was drawn for its pauses, is played out as the direct
interpreter runs it without them: the same effects, the same variables and the same end. This holds
exactly if no pause that it comes to ends after the clock does. The interpreter has a result exactly
if no block of code that it comes to goes on for ever. -/
theorem playOut_execute (e : Engine) (source label : Text) (captures : Option Captures)
    (now : Nanos) (times : List Nanos) {program : Program}
    (hc : (Script.compile e.registry (some (captures.elim e e.applyCaptures).locals)
      source).Gives program)
    (ht : (program.reached e.registry (captures.elim e e.applyCaptures).locals).length ≤
      times.length) :
    ((∃ s, program.withoutPauses.interpret e.registry
        (captures.elim e e.applyCaptures).locals = .ok s) ↔
      ∀ i table, program.withoutPauses.ComesTo e.registry
        (captures.elim e e.applyCaptures).locals i table → i.Ends table) ∧
      (captures.elim e e.applyCaptures).PlayedAs (now :: times)
        (program.reached e.registry (captures.elim e e.applyCaptures).locals)
        (program.withoutPauses.interpret e.registry (captures.elim e e.applyCaptures).locals)
        (e.execute source captures label now >>= Execution.playOut times) := by
  have inRange := Script.inRange_of_compile hc
  refine ⟨Program.returns_interpret (fun i hi => inRange i (List.mem_filter.1 hi).1)
    fun i hi => by simpa using (List.mem_filter.1 hi).2, ?_⟩
  have registry : (captures.elim e e.applyCaptures).registry = e.registry := by
    cases captures <;> rfl
  have played := (captures.elim e e.applyCaptures).playedAs_drive program label now times
    (by rwa [registry]) (by rwa [registry])
  rwa [registry, ← e.execute_of_gives captures hc] at played

end

/-- Reads after a pause what it wrote before. -/
def writeAndRead : Program :=
  [.call "writevar".toList [.template "n".toList, .template "1".toList] ∅, .pause 2000000000,
    .call "send".toList [.template "$n".toList] ∅]

theorem playOut_execute_writeAndRead :
    ∃ s, writeAndRead.withoutPauses.interpret .builtins .empty = .ok s ∧
      ((create .builtins).execute "#writevar n 1\n#pause 2\n#send $n".toList none [] 0 >>=
        Execution.playOut [2000000000]) =
          .ok ⟨{ create .builtins with locals := s.locals }, s.effects, s.result⟩ := by
  have compiled : (Script.compile .builtins (some .empty)
      "#writevar n 1\n#pause 2\n#send $n".toList).Gives writeAndRead := by
    unfold Attempt.Gives
    decide +kernel
  have reached : writeAndRead.reached .builtins .empty = [2000000000] := by decide +kernel
  obtain ⟨-, hx⟩ := playOut_execute (create .builtins) "#writevar n 1\n#pause 2\n#send $n".toList
    [] none 0 [2000000000] compiled (by decide +kernel)
  obtain ⟨s, hs⟩ : ∃ s, writeAndRead.withoutPauses.interpret .builtins .empty = .ok s := ⟨_, rfl⟩
  refine ⟨s, hs, (hx.inTime ?_).trans (congrArg _ hs)⟩
  show InTime [0, 2000000000] (writeAndRead.reached .builtins .empty)
  rw [reached]
  intro w hw
  rw [List.mem_singleton.1 hw]
  exact fun late => nomatch late

/-- A pause may be so long that the clock ends before it does. -/
theorem not_playOut_execute_of_overflow :
    ¬ ∀ (e : Engine) (source label : Text) (captures : Option Captures) (now : Nanos)
      (times : List Nanos) (program : Program),
      (Script.compile e.registry (some (captures.elim e e.applyCaptures).locals)
        source).Gives program →
      (program.reached e.registry (captures.elim e e.applyCaptures).locals).length ≤
        times.length →
      ∃ s, program.withoutPauses.interpret e.registry (captures.elim e e.applyCaptures).locals =
          .ok s ∧
        (e.execute source captures label now >>= Execution.playOut times) =
          .ok ⟨{ captures.elim e e.applyCaptures with locals := s.locals }, s.effects,
            s.result⟩ := by
  intro played
  have compiled : (Script.compile .builtins (some .empty)
      "#pause 10000000000000000000\n#send ok".toList).Gives
        [.pause (10 ^ 28), .call "send".toList [.template "ok".toList] ∅] := by
    unfold Attempt.Gives
    decide +kernel
  obtain ⟨s, -, hx⟩ := played (create .builtins) "#pause 10000000000000000000\n#send ok".toList []
    none 0 [10 ^ 28] _ compiled (by decide +kernel)
  have late : dueTime 0 (10 ^ 28) = .error .clockOverflow := rfl
  have executed := execute_of_gives (create .builtins) none compiled [] 0
  dsimp only [Option.elim] at executed hx
  rw [executed, drive_pause, late] at hx
  cases hx

end Engine
end MudClient
