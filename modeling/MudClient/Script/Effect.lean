import MudClient.Reaction.Basic
import MudClient.Script.Delay
/-! What a script does: effects, which the world carries out after the script has stopped or paused,
and changes of variables. -/
namespace MudClient.Script

inductive Effect where
  /-- A command, which aliases may still answer. -/
  | send (text : Text)
  | display (text : Text)
  /-- `interrupt` silences what is being spoken. -/
  | speak (text : Text) (interrupt : Bool)
  | play (path : Text)
  | feed (channel message : Text)
  | declareAlias (item : Alias)
  | declareTrigger (item : Trigger)
  | declareKeyBinding (item : KeyBinding)
  | declareChannel (name : Text)

inductive Change where
  | set (name value : Text)
  | delete (name : Text)
  deriving DecidableEq, Repr

namespace Change

def name : Change → Text
  | set name _ | delete name => name

def apply (l : Locals) : Change → Locals
  | set name value => l.set name value
  | delete name => l.erase name

end Change

/-- Changes take effect in their order. -/
def Locals.applyChanges (l : Locals) (changes : List Change) : Locals :=
  changes.foldl Change.apply l

namespace Locals

@[simp] theorem applyChanges_nil (l : Locals) : l.applyChanges [] = l := rfl

@[simp] theorem applyChanges_append (l : Locals) (a b : List Change) :
    l.applyChanges (a ++ b) = (l.applyChanges a).applyChanges b := List.foldl_append

@[simp] theorem args_applyChanges (l : Locals) (changes : List Change) :
    (l.applyChanges changes).args = l.args := by
  induction changes generalizing l with
  | nil => rfl
  | cons c r ih => exact (ih _).trans (by cases c <;> rfl)

end Locals

/-- Where a script goes after an instruction. -/
inductive Flow where
  | next
  /-- The script ends here, which is no error. -/
  | stop
  | pause (delay : Nanos)
  deriving DecidableEq, Repr

/-- What one instruction does. Its changes are seen from the next instruction on. -/
structure Reply where
  effects : List Effect
  changes : List Change
  flow : Except ScriptError Flow

namespace Reply

def ofFlow (flow : Flow) : Reply := ⟨[], [], .ok flow⟩

def ofError (error : ScriptError) : Reply := ⟨[], [], .error error⟩

def ofEffect (effect : Effect) : Reply := ⟨[effect], [], .ok .next⟩

def ofChange (change : Change) : Reply := ⟨[], [change], .ok .next⟩

/-- An effect of something that may be refused. -/
def declare {α : Type} (effect : α → Effect) : Except ScriptError α → Reply
  | .ok item => ofEffect (effect item)
  | .error error => ofError error

end Reply
end MudClient.Script
