import MudClient.Reaction.Roster
import MudClient.Text
/-! Channels keep the latest messages that scripts feed them. -/
namespace MudClient

structure Channel where
  name : Text
  /-- How many messages are kept, at least one. -/
  capacity : Nat
  /-- The oldest one first. -/
  messages : List Text
  deriving DecidableEq, Repr

namespace Channel

instance : Keyed Channel Text := ⟨Channel.name⟩

def defaultCapacity : Nat := 1000

def create (name : Text) : Channel := ⟨name, defaultCapacity, []⟩

def withCapacity (c : Channel) (capacity : Nat) : Channel := { c with capacity := max capacity 1 }

/-- A message more; a full channel gives up its oldest one. -/
def push (c : Channel) (message : Text) : Channel :=
  let kept := if c.capacity ≤ c.messages.length then c.messages.tail else c.messages
  { c with messages := kept ++ [message] }

def last (c : Channel) (n : Nat) : List Text := c.messages.drop (c.messages.length - n)

def clear (c : Channel) : Channel := { c with messages := [] }

end Channel

/-- Declares a channel; one that is there already stays as it is. -/
def Roster.declare (r : Roster Channel) (name : Text) : Roster Channel :=
  if (r.find? name).isSome then r else r.put (.create name)

/-- A message for the channel of a name, if it was declared. -/
def Roster.feed (r : Roster Channel) (name message : Text) : Roster Channel :=
  r.modify name (·.push message)

end MudClient
