import MudClient.Proofs.World.Course
/-! The history of the scripts that wait. A recording is a world together with what has happened to
such scripts: each joins the queue when it is suspended, and leaves it when it is taken up again. The
world of a recording is the world without one, so nothing depends on what is recorded. -/
namespace MudClient

open Script (Effect Nanos Chance)

inductive Happening where
  | suspended (c : Continuation)
  | resumed (c : Continuation) (now : Nanos)
  deriving DecidableEq

namespace Happening

def suspended? : Happening → Option Continuation
  | suspended c => some c
  | resumed .. => none

def resumed? : Happening → Option (Continuation × Nanos)
  | suspended _ => none
  | resumed c now => some (c, now)

def ofResult : Except ScriptError Outcome → List Happening
  | .ok (.suspended c) => [suspended c]
  | _ => []

/-- The queue after a history. A script leaves it only if it is in it and due. -/
def replay? : List Continuation → List Happening → Option (List Continuation)
  | queue, [] => some queue
  | queue, suspended c :: history => replay? (queue ++ [c]) history
  | queue, resumed c now :: history =>
    if c ∈ queue ∧ c.due ≤ now then replay? (queue.erase c) history else none

end Happening

/-- The scripts that were suspended, in their order. -/
def suspensions (history : List Happening) : List Continuation :=
  history.filterMap Happening.suspended?

/-- The scripts that were taken up, in their order, and when that was. -/
def resumptions (history : List Happening) : List (Continuation × Nanos) :=
  history.filterMap Happening.resumed?

section

variable (c : Continuation) (now : Nanos) (a b : List Happening)

@[simp] theorem suspensions_suspended : suspensions (.suspended c :: a) = c :: suspensions a := rfl

@[simp] theorem suspensions_resumed : suspensions (.resumed c now :: a) = suspensions a := rfl

@[simp] theorem suspensions_append : suspensions (a ++ b) = suspensions a ++ suspensions b :=
  List.filterMap_append

@[simp] theorem resumptions_suspended : resumptions (.suspended c :: a) = resumptions a := rfl

@[simp] theorem resumptions_resumed :
    resumptions (.resumed c now :: a) = (c, now) :: resumptions a := rfl

@[simp] theorem resumptions_append : resumptions (a ++ b) = resumptions a ++ resumptions b :=
  List.filterMap_append

end

structure Recording where
  world : World
  history : List Happening

namespace Recording

def start (w : World) : Recording := ⟨w, []⟩

def settle (r : Recording) (result : Except ScriptError Outcome) : Recording :=
  ⟨r.world.settle result, r.history ++ Happening.ofResult result⟩

def applyEffect (send : Recording → Text → Except Crash Recording) (r : Recording) (e : Effect) :
    Except Crash Recording :=
  match e with
  | .send text => send r text
  | e => do return { r with world := ← World.applyEffect (fun w _ => .ok w) r.world e }

def applyEffects (send : Recording → Text → Except Crash Recording) (r : Recording)
    (effects : List Effect) : Except Crash Recording :=
  effects.foldlM (applyEffect send) r

variable [Lua] [Chance]

def expand (send : Recording → Text → Except Crash Recording) (now : Nanos) (r : Recording)
    (a : Alias) (captures : Captures) : Except Crash Recording := do
  let run ← @Alias.fire _ r.world.chance a captures r.world.engine now
  let inside : World :=
    { r.world.ran run with expanding := a.pattern.source :: r.world.expanding }
  let after ← applyEffects send { r with world := inside } run.effects
  let outside : World := { after.world with expanding := after.world.expanding.tail }
  return { after with world := outside }.settle run.result

def handleCommand (send : Recording → Text → Except Crash Recording) (now : Nanos) (r : Recording)
    (command : Text) : Except Crash Recording :=
  match r.world.aliases.answer? command r.world.expanding with
  | some (a, captures) => r.expand send now a captures
  | none => .ok { r with world := r.world.transmit command }

def send (now : Nanos) : Nat → Recording → Text → Except Crash Recording
  | 0, r, _ => .ok r
  | levels + 1, r, text =>
    (splitCommands r.world.settings.commandStacking text).foldlM
      (handleCommand (send now levels) now) r

def conclude (r : Recording) (run : Execution) (now : Nanos) : Except Crash Recording := do
  let taken : World := { r.world with engine := run.engine }
  let r ← applyEffects (send now (maxDepth + 1)) { r with world := taken } run.effects
  return r.settle run.result

def handleInput (r : Recording) (text : Text) (now : Nanos) : Except Crash Recording :=
  if Text.isAllBlank text then .ok { r with world := r.world.transmit [] }
  else send now (maxDepth + 1) r text

def handleLine (now : Nanos) (state : Recording × Reception) (line : Text) :
    Except Crash (Recording × Reception) := do
  let (r, reception) := state
  match r.world.triggers.best? line with
  | none =>
    let (w, reception) := World.showLine (r.world, reception) (some line) none
    return ({ r with world := w }, reception)
  | some (t, captures) =>
    let run ← @Trigger.fire _ r.world.chance t captures r.world.engine now
    let (line, column) := World.shownBy t captures line run
    let (w, reception) := World.showLine (r.world.ran run, reception) line column
    return (← { r with world := w }.conclude run now, reception)

def handleMessage (r : Recording) (text : Text) (now : Nanos) :
    Except Crash (Recording × Reception) :=
  (Text.lines text).foldlM (handleLine now) (r, .empty)

def handleKey (r : Recording) (shortcut : Shortcut) (now : Nanos) :
    Except Crash (Recording × Bool) := do
  match r.world.keyBindings.find? shortcut with
  | none => return (r, false)
  | some binding =>
    let run ← @KeyBinding.fire _ r.world.chance binding r.world.engine now
    return (← { r with world := r.world.ran run }.conclude run now, true)

def wake (now : Nanos) (r : Recording) (c : Continuation) : Except Crash Recording := do
  let run ← r.world.engine.resume c now
  conclude { r with history := r.history ++ [.resumed c now] } run now

def poll (r : Recording) (now : Nanos) : Except Crash (Recording × Nat) := do
  let due := World.dueAt now r.world.pending
  let waiting : World :=
    { r.world with pending := r.world.pending.filter fun c => !(c.due ≤ now) }
  return (← due.foldlM (wake now) { r with world := waiting }, due.length)

def loadConfig (r : Recording) (text : Text) (now : Nanos) :
    Except Crash (Recording × Except ScriptError Unit) := do
  let run ← @Engine.executeRaw _ r.world.chance r.world.engine text "config".toList now
  let r ← { r with world := r.world.ran run }.conclude run now
  return (r, run.result.map fun _ => ())

def step (r : Recording) : World.Step → Except Crash (Recording × World.Answer)
  | .message text now => do
    let (r, reception) ← r.handleMessage text now
    return (r, .shown reception)
  | .input text now => do return (← r.handleInput text now, .nothing)
  | .key shortcut now => do
    let (r, isBound) ← r.handleKey shortcut now
    return (r, .bound isBound)
  | .poll now => do
    let (r, count) ← r.poll now
    return (r, .woken count)
  | .load text now => do
    let (r, result) ← r.loadConfig text now
    return (r, .loaded result)
  | .reset => .ok ({ r with world := r.world.reset }, .nothing)

def play (r : Recording) : List World.Step → Except Crash (Recording × List World.Answer)
  | [] => .ok (r, [])
  | s :: steps => do
    let (r, answer) ← r.step s
    let (r, answers) ← r.play steps
    return (r, answer :: answers)

/-! ### Recording changes nothing -/

/-- The recording is one of this world. -/
def Records (r : Recording) (w : World) : Prop := r.world = w

/-- The recording is one of this world, and the rest of the answers is the same. -/
def RecordsAs {α : Type} (a : Recording × α) (b : World × α) : Prop :=
  Records a.1 b.1 ∧ a.2 = b.2

/-- How commands are sent, if that is recorded. -/
def SendRecords (record : Recording → Text → Except Crash Recording)
    (send : World → Text → Except Crash World) : Prop :=
  ∀ r t, Alike Records (record r t) (send r.world t)

variable {record : Recording → Text → Except Crash Recording}
  {send' : World → Text → Except Crash World} {now : Nanos}

omit [Lua] [Chance] in
theorem records_applyEffects (hsend : SendRecords record send') (r : Recording)
    (effects : List Effect) :
    Alike Records (r.applyEffects record effects) (r.world.applyEffects send' effects) := by
  refine Alike.foldlM (fun e r w h => ?_) effects rfl
  cases h
  cases e with
  | send text => exact hsend r text
  | _ => exact .ok rfl

theorem records_expand (hsend : SendRecords record send') (r : Recording) (a : Alias)
    (captures : Captures) :
    Alike Records (r.expand record now a captures) (r.world.expand send' now a captures) := by
  refine Alike.bind_same fun run _ => ?_
  refine (records_applyEffects hsend _ run.effects).bind fun after w h => .ok ?_
  cases h
  rfl

theorem records_send (now : Nanos) (levels : Nat) :
    SendRecords (send now levels) (World.send now levels) := by
  induction levels with
  | zero => exact fun r t => .ok rfl
  | succ levels ih =>
    intro r t
    refine Alike.foldlM (fun command r w h => ?_) _ rfl
    cases h
    unfold handleCommand World.handleCommand
    cases r.world.aliases.answer? command r.world.expanding with
    | none => exact .ok rfl
    | some found => exact records_expand ih r found.1 found.2

theorem records_conclude (r : Recording) (run : Execution) :
    Alike Records (r.conclude run now) (r.world.conclude run now) := by
  refine (records_applyEffects (records_send now _) _ run.effects).bind fun after w h => .ok ?_
  cases h
  rfl

theorem records_handleInput (r : Recording) (text : Text) :
    Alike Records (r.handleInput text now) (r.world.handleInput text now) := by
  unfold handleInput World.handleInput
  split
  · exact .ok rfl
  · exact records_send now _ r text

theorem records_handleLine (r : Recording) (reception : Reception) (line : Text) :
    Alike RecordsAs (handleLine now (r, reception) line)
      (World.handleLine now (r.world, reception) line) := by
  unfold handleLine World.handleLine
  dsimp only
  cases r.world.triggers.best? line with
  | none => exact .ok ⟨rfl, rfl⟩
  | some found =>
    refine Alike.bind_same fun run _ => ?_
    exact (records_conclude _ run).bind fun _ _ h => .ok ⟨h, rfl⟩

theorem records_handleMessage (r : Recording) (text : Text) :
    Alike RecordsAs (r.handleMessage text now) (r.world.handleMessage text now) := by
  refine Alike.foldlM (fun line a b h => ?_) _ ⟨rfl, rfl⟩
  obtain ⟨r, reception⟩ := a
  obtain ⟨w, shown⟩ := b
  obtain ⟨rfl, rfl⟩ := h
  exact records_handleLine r reception line

theorem records_handleKey (r : Recording) (shortcut : Shortcut) :
    Alike RecordsAs (r.handleKey shortcut now) (r.world.handleKey shortcut now) := by
  unfold handleKey World.handleKey
  cases r.world.keyBindings.find? shortcut with
  | none => exact .ok ⟨rfl, rfl⟩
  | some binding =>
    refine Alike.bind_same fun run _ => ?_
    exact (records_conclude _ run).bind fun _ _ h => .ok ⟨h, rfl⟩

theorem records_poll (r : Recording) :
    Alike RecordsAs (r.poll now) (r.world.poll now) := by
  refine Alike.bind (R := Records) (Alike.foldlM (fun c r w h => ?_) _ rfl) fun _ _ h => .ok ⟨h, rfl⟩
  cases h
  exact Alike.bind_same fun run _ => records_conclude _ run

theorem records_loadConfig (r : Recording) (text : Text) :
    Alike RecordsAs (r.loadConfig text now) (r.world.loadConfig text now) :=
  Alike.bind_same fun run _ => (records_conclude _ run).bind fun _ _ h => .ok ⟨h, rfl⟩

theorem records_step (r : Recording) (s : World.Step) :
    Alike RecordsAs (r.step s) (r.world.step s) := by
  cases s with
  | message text now => exact (records_handleMessage r text).bind fun _ _ h => .ok ⟨h.1, by rw [h.2]⟩
  | input text now => exact (records_handleInput r text).bind fun _ _ h => .ok ⟨h, rfl⟩
  | key shortcut now => exact (records_handleKey r shortcut).bind fun _ _ h => .ok ⟨h.1, by rw [h.2]⟩
  | poll now => exact (records_poll r).bind fun _ _ h => .ok ⟨h.1, by rw [h.2]⟩
  | load text now => exact (records_loadConfig r text).bind fun _ _ h => .ok ⟨h.1, by rw [h.2]⟩
  | reset => exact .ok ⟨rfl, rfl⟩

theorem records_play (r : Recording) (steps : List World.Step) :
    Alike RecordsAs (r.play steps) (r.world.play steps) := by
  induction steps generalizing r with
  | nil => exact .ok ⟨rfl, rfl⟩
  | cons s steps ih =>
    refine (records_step r s).bind fun a b h => ?_
    obtain ⟨r, answer⟩ := a
    obtain ⟨w, answer'⟩ := b
    obtain ⟨rfl, rfl⟩ := h
    exact (ih r).bind fun _ _ h => .ok ⟨h.1, by rw [h.2]⟩

omit [Lua] [Chance] in
/-- Whatever happens to a world can be recorded. -/
theorem RecordsAs.exists {α : Type} {x : Except Crash (Recording × α)}
    {y : Except Crash (World × α)} (h : Alike RecordsAs x y) {w : World} {a : α}
    (hy : y = .ok (w, a)) : ∃ history, x = .ok (⟨w, history⟩, a) := by
  cases h with
  | crash => cases hy
  | @ok b _ h =>
    obtain ⟨⟨v, history⟩, a'⟩ := b
    cases hy
    obtain ⟨rfl, rfl⟩ := h
    exact ⟨history, rfl⟩

end Recording
end MudClient
