import MudClient.Engine
import MudClient.Proofs.Script.Write
import MudClient.Surroundings
/-! Scripts that wait at the same time. A script that goes on brings its changes into the table of
the engine and nothing else, so whatever the order of the calls, no update of another script is
lost. -/
namespace MudClient

open Script (Locals Program Change Nanos Chance lastValue?)

namespace Script

/-- The groups that have a name are written like variables. -/
def writesOf (captures : Option Captures) : List Change :=
  captures.elim [] fun c => c.named.map fun e => .set e.1 e.2

theorem Locals.get?_applyCaptures (l : Locals) (c : Captures) (name : Text) :
    (l.applyCaptures c).get? name = (l.applyChanges (writesOf (some c))).get? name := by
  have inserted (vars : NameMap Text) (named : List (Text × Text)) :
      named.foldl (fun m e => m.insert e.1 e.2) vars =
        ((⟨vars, l.args⟩ : Locals).applyChanges (named.map fun e => .set e.1 e.2)).vars := by
    induction named generalizing vars with
    | nil => rfl
    | cons e rest ih => exact ih _
  rw [get?, get?, applyCaptures, inserted]
  rfl

end Script

namespace Engine

variable {e : Engine} {program : Program} {locals : Locals} {label : Text} {now : Nanos}
  {x : Execution}

/-- What a run asks for, how it ends and what it changes do not depend on the table of the engine,
which only receives the changes. -/
theorem drive_elsewhere [Lua] (h : e.drive program locals label now = .ok x) :
    ∃ s, program.run e.registry locals = .ok s ∧ x.engine = e.merge s.changes ∧
      x.result ≠ .ok .cancelled ∧
      (∀ c, x.result = .ok (.suspended c) → c.generation = e.generation) ∧
      ∀ table, ({ e with locals := table } : Engine).drive program locals label now =
        .ok ⟨{ e with locals := table.applyChanges s.changes }, x.effects, x.result⟩ := by
  unfold drive at h ⊢
  cases hs : program.run e.registry locals with
  | error crash => simp [hs, bind, Except.bind] at h
  | ok s =>
    refine ⟨s, rfl, ?_⟩
    simp only [hs, bind, Except.bind, pure, Except.pure] at h ⊢
    cases hending : s.ending with
    | finished | stopped | failed =>
      rw [hending] at h
      cases h
      simp [merge]
    | paused delay rest =>
      rw [hending] at h
      dsimp only at h ⊢
      cases hd : dueTime now delay with
      | error crash => simp [hd] at h
      | ok due =>
        rw [hd] at h
        cases h
        refine ⟨rfl, by simp, ?_, fun table => rfl⟩
        intro c hc
        cases hc
        rfl

end Engine

/-- A call of the engine. Scripts that wait are named by `κ`. -/
inductive Call (κ : Type) where
  | execute (source : Text) (captures : Option Captures) (label : Text)
  | executeRaw (source label : Text)
  | resume (script : κ)

namespace Call

def captures {κ : Type} : Call κ → Option Captures
  | execute _ captures _ => captures
  | _ => none

def perform [Lua] [Chance] (e : Engine) (now : Nanos) : Call Continuation → Except Crash Execution
  | execute source captures label => e.execute source captures label now
  | executeRaw source label => e.executeRaw source label now
  | resume c => e.resume c now

/-- The engine at the first instruction: the captures are in its table. -/
def prepare {κ : Type} (e : Engine) (call : Call κ) : Engine :=
  call.captures.elim e e.applyCaptures

/-- What is run: a source that does not compile runs as nothing. -/
def compiled (program : Attempt Program) : Program :=
  match program.run with
  | .ok (.ok program) => program
  | _ => []

/-- The program that a call runs, and the table that it runs on. -/
def own [Chance] (e : Engine) : Call Continuation → Program × Locals
  | execute source _ _ => (compiled (Script.compile e.registry (some e.locals) source), e.locals)
  | executeRaw source _ => (compiled (Script.compile e.registry none source), e.locals)
  | resume c => (c.rest, c.locals)

/-- What a call writes last under a name after it was prepared. -/
def write? [Lua] [Chance] (e : Engine) (call : Call Continuation) (name : Text) :
    Option (Option Text) :=
  (call.own (call.prepare e)).1.write? e.registry name (call.own (call.prepare e)).2

/-- A script that waits was suspended by an engine of this generation. -/
def IsCurrent (e : Engine) : Call Continuation → Prop
  | resume c => c.generation = e.generation
  | _ => True

/-- What a call does to the table after it was prepared: its own changes. -/
theorem perform_eq_merge [Lua] {_ : Chance} {e : Engine} {now : Nanos}
    {call : Call Continuation} {x : Execution} (hc : call.IsCurrent e) (h : call.perform e now = .ok x) :
    ∃ changes, (∀ name, lastValue? name changes = call.write? e name) ∧
      x.engine = (call.prepare e).merge changes ∧
      ∀ c, x.result = .ok (.suspended c) → c.generation = e.generation := by
  have started (captured : Engine) (hr : captured.registry = e.registry)
      (hg : captured.generation = e.generation) (program : Attempt Program) (label : Text)
      (h : captured.start program label now = .ok x) :
      ∃ changes, (∀ name, lastValue? name changes =
          (compiled program).write? e.registry name captured.locals) ∧
        x.engine = captured.merge changes ∧
        ∀ c, x.result = .ok (.suspended c) → c.generation = e.generation := by
    unfold Engine.start at h
    unfold compiled
    rcases hp : program.run with crash | error | p
    · simp [hp, bind, Except.bind] at h
    · simp only [hp, bind, Except.bind] at h
      cases h
      exact ⟨[], fun name => rfl, rfl, fun c hc => nomatch hc⟩
    · simp only [hp, bind, Except.bind] at h
      obtain ⟨s, hs, hx, -, hsus, -⟩ := Engine.drive_elsewhere h
      rw [hr] at hs
      exact ⟨s.changes, Program.lastValue?_run hs, hx, fun c hc => (hsus c hc).trans hg⟩
  cases call with
  | execute source captures label =>
    have hr : (captures.elim e e.applyCaptures).registry = e.registry := by cases captures <;> rfl
    have hg : (captures.elim e e.applyCaptures).generation = e.generation := by
      cases captures <;> rfl
    exact started _ hr hg _ _ h
  | executeRaw source label => exact started e rfl rfl _ _ h
  | resume c =>
    have resumed : e.resume c now = e.drive c.rest c.locals c.label now := if_pos hc
    rw [perform, resumed] at h
    obtain ⟨s, hs, hx, -, hsus, -⟩ := Engine.drive_elsewhere h
    exact ⟨s.changes, Program.lastValue?_run hs, hx, hsus⟩

end Call

structure Turn where
  now : Nanos
  chance : Chance
  before : Engine
  call : Call Continuation
  after : Execution

section

variable [Lua]

namespace Turn

/-- The engine when the first instruction of the turn is run. -/
def start (t : Turn) : Engine := t.call.prepare t.before

def write? (t : Turn) (name : Text) : Option (Option Text) :=
  @Call.write? _ t.chance t.before t.call name

/-- The last value that the turn gives a name, by the script or before it by the captures. -/
def last? (t : Turn) (name : Text) : Option (Option Text) :=
  (t.write? name).or (lastValue? name (Script.writesOf t.call.captures))

structure IsSound (t : Turn) : Prop where
  current : t.call.IsCurrent t.before
  performed : @Call.perform _ t.chance t.before t.now t.call = .ok t.after

theorem IsSound.get? {t : Turn} (h : t.IsSound) (name : Text) :
    t.after.engine.locals.get? name = (t.write? name).getD (t.start.locals.get? name) := by
  obtain ⟨changes, hw, hx, -⟩ := Call.perform_eq_merge h.current h.performed
  rw [hx, Engine.merge, Locals.get?_applyChanges, hw]
  rfl

omit [Lua] in
theorem get?_start (t : Turn) (name : Text) : t.start.locals.get? name =
    (lastValue? name (Script.writesOf t.call.captures)).getD (t.before.locals.get? name) := by
  unfold start Call.prepare
  cases t.call.captures with
  | none => rfl
  | some c =>
    rw [← Locals.get?_applyChanges]
    exact Locals.get?_applyCaptures t.before.locals c name

theorem IsSound.get?_of_before {t : Turn} (h : t.IsSound) (name : Text) :
    t.after.engine.locals.get? name = (t.last? name).getD (t.before.locals.get? name) := by
  rw [h.get?, get?_start, last?]
  cases t.write? name <;> rfl

end Turn

namespace Execution

def waiting (x : Execution) : List Continuation :=
  match x.result with
  | .ok (.suspended c) => [c]
  | _ => []

end Execution

/-- The engine and the scripts that wait. -/
structure Scheduler where
  engine : Engine
  waiting : List Continuation

namespace Scheduler

/-- The call that is made, and who waits on. A script that goes on is named by its place. -/
def pick (s : Scheduler) : Call Nat → Option (Call Continuation × List Continuation)
  | .execute source captures label => some (.execute source captures label, s.waiting)
  | .executeRaw source label => some (.executeRaw source label, s.waiting)
  | .resume place => s.waiting[place]?.map fun c => (.resume c, s.waiting.eraseIdx place)

/-- Makes the calls in their order, each with draws of its own. A place where nobody waits is passed
over, and nothing follows a crash. -/
def run [c : Chance] : List (Call Nat × Nanos) → Scheduler → List Turn × Scheduler
  | [], s => ([], s)
  | (call, now) :: calls, s =>
    match s.pick call with
    | none => run calls s
    | some (call, others) =>
      match @Call.perform _ (c.part calls.length) s.engine now call with
      | .error _ => ([], s)
      | .ok x =>
        let (turns, last) := run calls ⟨x.engine, others ++ x.waiting⟩
        (⟨now, c.part calls.length, s.engine, call, x⟩ :: turns, last)

/-- Nothing that waits was suspended by an older generation. -/
def IsCurrent (s : Scheduler) : Prop := ∀ c ∈ s.waiting, c.generation = s.engine.generation

omit [Lua] in
theorem IsCurrent.pick {s : Scheduler} (hs : s.IsCurrent) {call : Call Nat}
    {picked : Call Continuation} {others : List Continuation}
    (h : s.pick call = some (picked, others)) :
    picked.IsCurrent s.engine ∧ ∀ c ∈ others, c.generation = s.engine.generation := by
  cases call with
  | execute source captures label =>
    cases h
    exact ⟨trivial, hs⟩
  | executeRaw source label =>
    cases h
    exact ⟨trivial, hs⟩
  | resume place =>
    obtain ⟨c, hc, h⟩ := Option.map_eq_some_iff.1 h
    cases h
    exact ⟨hs c (List.mem_of_getElem? hc), fun d hd => hs d (List.mem_of_mem_eraseIdx hd)⟩

theorem IsCurrent.perform {_ : Chance} {e : Engine} {now : Nanos} {call : Call Continuation}
    {x : Execution} {others : List Continuation} (hc : call.IsCurrent e)
    (ho : ∀ c ∈ others, c.generation = e.generation) (h : call.perform e now = .ok x) :
    IsCurrent ⟨x.engine, others ++ x.waiting⟩ := by
  obtain ⟨changes, -, hx, hsus⟩ := Call.perform_eq_merge hc h
  have hg : x.engine.generation = e.generation := by
    rw [hx, Engine.merge, Call.prepare]
    cases call.captures <;> rfl
  intro c hmem
  rw [hg]
  rcases List.mem_append.1 hmem with hmem | hmem
  · exact ho c hmem
  · unfold Execution.waiting at hmem
    split at hmem
    · rename_i d hd
      rw [List.mem_singleton.1 hmem]
      exact hsus d hd
    · cases hmem

variable [c : Chance]

/-- Every turn of a run is a call that the engine carries out, on a script of its generation. -/
theorem isSound_of_mem_run {s : Scheduler} (hs : s.IsCurrent) {calls : List (Call Nat × Nanos)}
    {t : Turn} (ht : t ∈ (run calls s).1) : t.IsSound := by
  induction calls generalizing s with
  | nil => cases ht
  | cons entry calls ih =>
    obtain ⟨call, now⟩ := entry
    simp only [run] at ht
    split at ht
    · exact ih hs ht
    · rename_i picked others hp
      obtain ⟨hc, ho⟩ := hs.pick hp
      split at ht
      · cases ht
      · rename_i x hx
        rcases List.mem_cons.1 ht with rfl | ht
        · exact ⟨hc, hx⟩
        · exact ih (IsCurrent.perform hc ho hx) ht

theorem get?_run {s : Scheduler} (hs : s.IsCurrent) (calls : List (Call Nat × Nanos))
    (name : Text) : (run calls s).2.engine.locals.get? name =
      ((run calls s).1.reverse.findSome? (·.last? name)).getD (s.engine.locals.get? name) := by
  induction calls generalizing s with
  | nil => rfl
  | cons entry calls ih =>
    obtain ⟨call, now⟩ := entry
    simp only [run]
    split
    · exact ih hs
    · rename_i picked others hp
      obtain ⟨hc, ho⟩ := hs.pick hp
      split
      · rfl
      · rename_i x hx
        have turn : Turn.IsSound ⟨now, c.part calls.length, s.engine, picked, x⟩ := ⟨hc, hx⟩
        rw [ih (IsCurrent.perform hc ho hx), List.reverse_cons, List.findSome?_append]
        have own := turn.get?_of_before name
        cases (run calls ⟨x.engine, others ++ x.waiting⟩).1.reverse.findSome? (·.last? name) with
        | some value => rfl
        | none =>
          rw [Option.none_or, Option.getD_none, own]
          cases hl : Turn.last? ⟨now, c.part calls.length, s.engine, picked, x⟩ name <;> simp [hl]

/-- No update is lost, whatever calls are made in whatever order. What a script does when it goes on
depends on what it left behind and not on the table of the engine, whose arguments it keeps. A turn
gives the names that its script wrote the values written last and keeps all others, so that in the
end each name has its last value in the order of the turns. -/
theorem run_keeps_updates (e : Engine) (calls : List (Call Nat × Nanos)) :
    (∀ t ∈ (run calls ⟨e, []⟩).1, ∀ c, t.call = .resume c →
      t.after.engine.locals.args = t.before.locals.args ∧ t.after.result ≠ .ok .cancelled ∧
      ∃ changes, (∀ name, lastValue? name changes = c.rest.write? t.before.registry name c.locals) ∧
        ∀ table, ({ t.before with locals := table } : Engine).resume c t.now =
          .ok ⟨{ t.before with locals := table.applyChanges changes }, t.after.effects,
            t.after.result⟩) ∧
    (∀ t ∈ (run calls ⟨e, []⟩).1, ∀ name,
      t.after.engine.locals.get? name = (t.write? name).getD (t.start.locals.get? name)) ∧
    ∀ name, (run calls ⟨e, []⟩).2.engine.locals.get? name =
      ((run calls ⟨e, []⟩).1.reverse.findSome? (·.last? name)).getD (e.locals.get? name) := by
  have empty : IsCurrent ⟨e, []⟩ := fun c hc => nomatch hc
  refine ⟨?_, fun t ht => (isSound_of_mem_run empty ht).get?, get?_run empty calls⟩
  intro t ht c hcall
  obtain ⟨current, performed⟩ := isSound_of_mem_run empty ht
  rw [hcall] at current performed
  have resumed (table : Locals) : ({ t.before with locals := table } : Engine).resume c t.now =
      ({ t.before with locals := table } : Engine).drive c.rest c.locals c.label t.now :=
    if_pos current
  obtain ⟨s, hs, hx, hr, -, elsewhere⟩ :=
    Engine.drive_elsewhere ((resumed t.before.locals).symm.trans performed)
  refine ⟨?_, hr, s.changes, Program.lastValue?_run hs, fun table => ?_⟩
  · rw [hx, Engine.merge, Locals.args_applyChanges]
  · rw [resumed]
    exact elsewhere table

end Scheduler

end

open Scheduler in
example : (run [(.execute "#writevar a 1\n#pause 1\n#writevar b 2".toList none [], 0),
    (.execute "#writevar a 3".toList none [], 0), (.resume 0, 1000000000)]
      ⟨.create .builtins, []⟩).2.engine.locals.vars.entries =
        [("a".toList, "3".toList), ("b".toList, "2".toList)] := by
  decide +kernel

end MudClient
