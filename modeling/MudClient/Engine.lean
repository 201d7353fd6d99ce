import MudClient.Script.Run
/-! The engine runs scripts. A script that pauses becomes a continuation with its own table; when it
goes on, only its changes come into the table of the engine, so what other scripts wrote in between
stays. A continuation of an older generation is not run any more. -/
namespace MudClient

open Script (Locals Registry Program Effect Nanos Chance)

structure Engine where
  locals : Locals
  registry : Registry
  generation : Nat
  deriving DecidableEq

structure Continuation where
  rest : Program
  locals : Locals
  label : Text
  due : Nanos
  generation : Nat
  deriving DecidableEq

inductive Outcome where
  | completed
  | aborted
  /-- A continuation of an older generation was dropped. -/
  | cancelled
  | suspended (rest : Continuation)
  deriving DecidableEq

/-- The engine after a run, with what the run asks for. -/
structure Execution where
  engine : Engine
  effects : List Effect
  result : Except ScriptError Outcome

namespace Engine

def create (registry : Registry) : Engine := ⟨.empty, registry, 0⟩

/-- All continuations become old. -/
def invalidate (e : Engine) : Engine := { e with generation := e.generation + 1 }

def applyCaptures (e : Engine) (captures : Captures) : Engine :=
  { e with locals := e.locals.applyCaptures captures }

def merge (e : Engine) (changes : List Script.Change) : Engine :=
  { e with locals := e.locals.applyChanges changes }

/-- The clock counts its seconds in 63 bits. -/
def dueTime (now delay : Nanos) : Except Crash Nanos :=
  if (now + delay) / Script.nanosPerSecond < Nat.pow 2 63 then .ok (now + delay)
  else .error .clockOverflow

variable [Lua]

/-- Runs a program on a table and takes its changes over. -/
def drive (e : Engine) (program : Program) (locals : Locals) (label : Text) (now : Nanos) :
    Except Crash Execution := do
  let s ← program.run e.registry locals
  let result ← match s.ending with
    | .finished => pure (.ok .completed)
    | .stopped => pure (.ok .aborted)
    | .failed error => pure (.error error)
    | .paused delay rest => do
      let due ← dueTime now delay
      pure (.ok (.suspended ⟨rest, s.locals, label, due, e.generation⟩))
  return ⟨e.merge s.changes, s.effects, result⟩

/-- Starts what was compiled; a script that does not compile does nothing. -/
def start (e : Engine) (program : Attempt Program) (label : Text) (now : Nanos) :
    Except Crash Execution := do
  match ← program.run with
  | .ok program => e.drive program e.locals label now
  | .error error => return ⟨e, [], .error error⟩

/-- Runs a script with substitution. The captures are those of the match that it answers. -/
def execute [Chance] (e : Engine) (source : Text) (captures : Option Captures) (label : Text)
    (now : Nanos) : Except Crash Execution :=
  let e := captures.elim e e.applyCaptures
  e.start (Script.compile e.registry (some e.locals) source) label now

def executeRaw [Chance] (e : Engine) (source label : Text) (now : Nanos) :
    Except Crash Execution :=
  e.start (Script.compile e.registry none source) label now

def resume (e : Engine) (c : Continuation) (now : Nanos) : Except Crash Execution :=
  if c.generation = e.generation then e.drive c.rest c.locals c.label now
  else .ok ⟨e, [], .ok .cancelled⟩

end Engine
end MudClient
