import MudClient.Text
/-! What goes out of the client: commands to the server, messages to the user, and sounds. -/
namespace MudClient

/-- The ways in which a message reaches the user. -/
structure OutputFlags where
  screen : Bool
  speech : Bool
  braille : Bool
  /-- Speech silences what is being spoken. -/
  interrupt : Bool
  deriving DecidableEq, Repr

namespace OutputFlags

def all : OutputFlags := ⟨true, true, true, false⟩

def speechOnly (interrupt : Bool) : OutputFlags := ⟨false, true, false, interrupt⟩

end OutputFlags

inductive Event where
  | write (command : Text)
  | message (text : Text) (flags : OutputFlags)
  | sound (path : Text)
  deriving DecidableEq, Repr

inductive Client where
  | direct
  /-- They are put into the mailbox, from which the network takes them. -/
  | mailbox
  deriving DecidableEq, Repr

end MudClient
