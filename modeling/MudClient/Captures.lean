import MudClient.Text
/-! What a pattern found in a text. -/
namespace MudClient

structure Captures where
  /-- The numbered groups from the first on; a group that took no part is empty. -/
  positional : List Text
  /-- The named groups that took part. -/
  named : List (Text × Text)
  start : Nat
  matched : Text
  deriving DecidableEq, Repr

end MudClient
