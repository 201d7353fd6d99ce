import MudClient.Script.Builtin
/-! The names under which functions are called. A name is kept in lower case, so the case of a call
does not matter, and a function may have several names. -/
namespace MudClient.Script

structure Registry where
  functions : NameMap Builtin
  deriving DecidableEq

namespace Registry

def empty : Registry := ⟨∅⟩

def register (r : Registry) (name : Text) (f : Builtin) : Registry :=
  ⟨r.functions.insert (Unicode.lower name) f⟩

def find? (r : Registry) (name : Text) : Option Builtin := r.functions.get? (Unicode.lower name)

def contains (r : Registry) (name : Text) : Bool := (r.find? name).isSome

def names (r : Registry) : List Text := r.functions.names

/-- Every function under its own name; speech has a second one. -/
def builtins : Registry :=
  (([.send, .display, .play, .feed, .pause, .declareAlias, .declareTrigger, .declareKeyBinding,
    .declareChannel, .writeVar, .checkVar, .delVar, .say] : List Builtin).foldl
      (fun r f => r.register f.name.toList f) empty).register "tts".toList .say

end Registry
end MudClient.Script
