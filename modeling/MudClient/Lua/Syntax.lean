import MudClient.Lua.Number
/-! Syntax of the language. Expressions that may fail when they are evaluated know their line. -/
namespace MudClient.Lua

abbrev Bytes := List UInt8

abbrev Name := List Char

inductive UnaryOp where
  | neg | not | len | bnot
  deriving DecidableEq

inductive BinaryOp where
  | add | sub | mul | div | idiv | mod | pow | concat
  | eq | ne | lt | le | gt | ge
  | and | or
  | band | bor | bxor | shl | shr
  deriving DecidableEq

mutual

inductive Expr where
  | nil
  | bool (b : Bool)
  | num (n : Num)
  | str (s : Bytes)
  /-- The arguments beyond the named ones. -/
  | rest
  | function (body : Function)
  | var (name : Name)
  | index (line : Nat) (table key : Expr)
  | call (line : Nat) (callee : Expr) (args : List Expr)
  | method (line : Nat) (object : Expr) (name : Name) (args : List Expr)
  | unary (line : Nat) (op : UnaryOp) (e : Expr)
  | binary (line : Nat) (op : BinaryOp) (a b : Expr)
  | table (fields : List Field)
  /-- Parentheses cut several values down to one. -/
  | paren (e : Expr)

inductive Field where
  | item (value : Expr)
  | named (key value : Expr)

inductive Function where
  | mk (params : List Name) (hasRest : Bool) (body : List Stat)

inductive Stat where
  | call (e : Expr)
  | assign (targets : List Expr) (values : List Expr)
  | locals (names : List Name) (values : List Expr)
  | localFunction (name : Name) (body : Function)
  | block (body : List Stat)
  | while (condition : Expr) (body : List Stat)
  | repeat (body : List Stat) (condition : Expr)
  | branch (condition : Expr) (yes no : List Stat)
  | countingFor (line : Nat) (name : Name) (first last : Expr) (step : Option Expr)
      (body : List Stat)
  | iteratingFor (line : Nat) (names : List Name) (values : List Expr) (body : List Stat)
  | return (values : List Expr)
  | break

end

end MudClient.Lua
