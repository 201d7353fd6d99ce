import MudClient.Lua.Table
/-! The store that tables, variables and functions live in while a program runs. -/
namespace MudClient.Lua

/-- Where a function finds its variables: cells of its own, cells of the functions around it, and
the arguments beyond the named ones. -/
structure Env where
  own : List (Name × Nat)
  outer : List (Name × Nat)
  rest : List Value

structure Closure where
  function : Function
  env : Env

structure Heap where
  tables : Tables
  cells : Array Value
  closures : Array Closure
  /-- The line of the call that runs, and the lines from which the functions around it were
  called. -/
  line : Nat
  callers : List Nat

inductive Failure where
  | thrown (v : Value)
  /-- The run took more steps than any run may. -/
  | exhausted

abbrev Run := ExceptT Failure (StateM Heap)

namespace Run

def raise {α : Type} (message : String) : Run α := throw (.thrown (.ofString message))

/-- What stands before the message of an error on a line. -/
def position (line : Nat) : String :=
  if line = 0 then "" else s!"[string \"block\"]:{line}: "

def raiseAt {α : Type} (line : Nat) (message : String) : Run α := raise (position line ++ message)

/-- A failure in a native function is put down to the line that called it. -/
def raiseHere {α : Type} (message : String) : Run α := do raiseAt (← get).line message

def table (ref : Nat) : Run Table := return (← get).tables.table ref

def setTable (ref : Nat) (t : Table) : Run Unit :=
  modify fun h => { h with tables := h.tables.set! ref t }

def newTable (t : Table) : Run Value := do
  let h ← get
  set { h with tables := h.tables.push t }
  return .table h.tables.size

def newCell (v : Value) : Run Nat := do
  let h ← get
  set { h with cells := h.cells.push v }
  return h.cells.size

def readCell (ref : Nat) : Run Value := return ((← get).cells[ref]?).getD .nil

def writeCell (ref : Nat) (v : Value) : Run Unit :=
  modify fun h => { h with cells := h.cells.set! ref v }

def newClosure (function : Function) (env : Env) : Run Value := do
  let h ← get
  let closure : Closure := ⟨function, ⟨[], env.own ++ env.outer, []⟩⟩
  set { h with closures := h.closures.push closure }
  return .closure h.closures.size

end Run
end MudClient.Lua
