import MudClient.Output
/-! The console prints what is for the screen. Speech and sounds are told by a word in front. -/
namespace MudClient

structure Console where
  /-- What is for speech alone is printed too. -/
  speech : Bool
  deriving DecidableEq, Repr

namespace Console

def speechMark : Text := "[語音] ".toList

def soundMark : Text := "[音效] ".toList

def line? (c : Console) : Event → Option Text
  | .message text flags =>
    if flags.screen then some text
    else if flags.speech && c.speech then some (speechMark ++ text)
    else none
  | .sound path => some (soundMark ++ path)
  | .write _ => none

def print (c : Console) (events : List Event) : Text :=
  (events.filterMap c.line?).flatMap (· ++ ['\n'])

end Console
end MudClient
