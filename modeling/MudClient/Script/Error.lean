import MudClient.Text
/-! What can be wrong with a script, and what it is said to be. -/
namespace MudClient

inductive ScriptError where
  /-- An opening brace on this line, counted from one, is never closed. -/
  | unbalancedBrace (line : Nat)
  | unknownFunction (name : Text)
  /-- `max` is `none` if there may be any number of arguments. -/
  | invalidArguments (function : Text) (min : Nat) (max : Option Nat) (count : Nat)
  | invalidPattern (source : Text)
  | invalidShortcut (text : Text)
  | block
  deriving DecidableEq, Repr

namespace ScriptError

def isParseFailure : ScriptError → Bool
  | unbalancedBrace _ | unknownFunction _ | invalidArguments .. => true
  | _ => false

def expected (min : Nat) : Option Nat → String
  | none => s!"至少 {min}"
  | some max => if max = min then s!"{min}" else s!"{min} 到 {max}"

def message : ScriptError → String
  | unbalancedBrace line => s!"第 {line} 行的大括號未閉合"
  | unknownFunction name => s!"未知的函式: #{String.ofList name}"
  | invalidArguments function min max count =>
    s!"#{String.ofList function} 參數錯誤: 需要 {expected min max} 個參數，收到 {count} 個"
  | invalidPattern source => s!"無效的模式 {String.ofList source}"
  | invalidShortcut text => s!"無效的快捷鍵: {String.ofList text}"
  | block => "Lua 錯誤"

end ScriptError

/-- A stop that no script can catch: the client cannot go on with the operation. -/
inductive Crash where
  /-- A pause longer than a duration can be. -/
  | durationTooLong
  /-- A pause that ends after the end of the clock. -/
  | clockOverflow
  /-- A function was called with fewer arguments than it reads. -/
  | missingArgument
  /-- A block of code does not come to an end. -/
  | endless
  deriving DecidableEq, Repr

/-- A computation that may be refused with an error, and may crash. -/
abbrev Attempt (α : Type) := ExceptT ScriptError (Except Crash) α

end MudClient
