import MudClient.Lua.Library
/-! Evaluation. `fuel` goes down with every step into an expression, a statement or the next round
of a loop, so a run that would not end stops with `Failure.exhausted`. A program runs in any monad
that can do what a run does, so that a run can also be watched. -/
namespace MudClient.Lua

open Run

/-- Where programs run: they work on a heap and call native functions. -/
class Machine (m : Type → Type) extends Monad m, MonadExceptOf Failure m where
  perform {α : Type} : Run α → m α
  native : Native → List Value → m (List Value)

instance : Machine Run where
  perform x := x
  native := Library.run

instance {m : Type → Type} [Machine m] : MonadLift Run m := ⟨Machine.perform⟩

/-- How a statement ends. -/
inductive Outcome where
  | next
  | broke
  | returned (values : List Value)

inductive Place where
  | cell (ref : Nat)
  | global (name : Name)
  | entry (line : Nat) (owner : String) (table key : Value)

namespace Eval

/-- Functions may call each other this deep. -/
def maxDepth : Nat := 180

/-- The name that an expression has in the message of an error. -/
def nameOf (env : Env) : Expr → String
  | .var n =>
    let s := String.ofList n
    if (env.own.lookup n).isSome then s!" (local '{s}')"
    else if (env.outer.lookup n).isSome then s!" (upvalue '{s}')"
    else s!" (global '{s}')"
  | .index _ _ (.str k) => s!" (field '{String.ofList (Value.asciiChars k)}')"
  | .method _ _ n _ => s!" (method '{String.ofList n}')"
  | _ => ""

def cellOf? (env : Env) (n : Name) : Option Nat := env.own.lookup n <|> env.outer.lookup n

def readVar (env : Env) (n : Name) : Run Value := do
  match cellOf? env n with
  | some ref => readCell ref
  | none => return (← table Tables.globals).get (.str (Token.encode n))

/-- The value at a key. Strings have the functions of the string library. -/
def readIndex (line : Nat) (owner : String) (t key : Value) : Run Value := do
  match t with
  | .table ref => return (← table ref).get key
  | .str _ => return (← table Library.stringLibrary).get key
  | v => raiseAt line s!"attempt to index a {v.typeName} value{owner}"

def writeIndex (line : Nat) (owner : String) (t key v : Value) : Run Unit := do
  match t, key with
  | .table _, .nil => raiseAt line "index is nil"
  | .table ref, .num (.float f) =>
    if f.isNaN then raiseAt line "index is NaN" else setTable ref ((← table ref).set key v)
  | .table ref, key => setTable ref ((← table ref).set key v)
  | t, _ => raiseAt line s!"attempt to index a {t.typeName} value{owner}"

def write (p : Place) (v : Value) : Run Unit := do
  match p with
  | .cell ref => writeCell ref v
  | .global n => setTable Tables.globals ((← table Tables.globals).set (.str (Token.encode n)) v)
  | .entry line owner t key => writeIndex line owner t key v

/-! ### Operators -/

/-- The names of the operands, for messages. -/
structure Operands where
  line : Nat
  left : String
  right : String

/-- An operand that an operator cannot take. -/
def refuse {α : Type} (o : Operands) (what : String) (isFine : Value → Bool) (a b : Value) :
    Run α :=
  let (v, name) := if isFine a then (b, o.right) else (a, o.left)
  raiseAt o.line s!"attempt to {what} a {v.typeName} value{name}"

def arith (o : Operands) (f : Num → Num → Option Num) (zero : String) (a b : Value) : Run Value :=
  match a.toNum?, b.toNum? with
  | some m, some n =>
    match f m n with
    | some r => return .num r
    | none => raiseAt o.line zero
  | _, _ => refuse o "perform arithmetic on" (fun v => v.toNum?.isSome) a b

def bitwise (o : Operands) (f : Int64 → Int64 → Int64) (a b : Value) : Run Value :=
  match a.toNum?, b.toNum? with
  | some m, some n =>
    match m.toInt?, n.toInt? with
    | some i, some j => return .num (.int (f i j))
    | _, _ => raiseAt o.line "number has no integer representation"
  | _, _ => refuse o "perform bitwise operation on" (fun v => v.toNum?.isSome) a b

def compare (o : Operands) (nums : Num → Num → Bool) (strs : Bytes → Bytes → Bool) (a b : Value) :
    Run Value :=
  match a, b with
  | .num m, .num n => return .bool (nums m n)
  | .str s, .str t => return .bool (strs s t)
  | a, b =>
    if a.typeName = b.typeName then raiseAt o.line s!"attempt to compare two {a.typeName} values"
    else raiseAt o.line s!"attempt to compare {a.typeName} with {b.typeName}"

def concat (o : Operands) (a b : Value) : Run Value :=
  match a.toBytes?, b.toBytes? with
  | some s, some t => return .str (s ++ t)
  | _, _ => refuse o "concatenate" (fun v => v.toBytes?.isSome) a b

def total (f : Num → Num → Num) (m n : Num) : Option Num := some (f m n)

def binary (o : Operands) (op : BinaryOp) (a b : Value) : Run Value :=
  match op with
  | .add => arith o (total Num.add) "" a b
  | .sub => arith o (total Num.sub) "" a b
  | .mul => arith o (total Num.mul) "" a b
  | .div => arith o (total Num.div) "" a b
  | .pow => arith o (total Num.pow) "" a b
  | .idiv => arith o Num.idiv? "attempt to perform 'n//0'" a b
  | .mod => arith o Num.mod? "attempt to perform 'n%%0'" a b
  | .concat => concat o a b
  | .eq => return .bool (a.eq b)
  | .ne => return .bool !(a.eq b)
  | .lt => compare o Num.lt (fun s t => s < t) a b
  | .le => compare o Num.le (fun s t => !(t < s)) a b
  | .gt => compare o (fun m n => n.lt m) (fun s t => t < s) a b
  | .ge => compare o (fun m n => n.le m) (fun s t => !(s < t)) a b
  | .band => bitwise o (fun i j => i &&& j) a b
  | .bor => bitwise o (fun i j => i ||| j) a b
  | .bxor => bitwise o (fun i j => i ^^^ j) a b
  | .shl => bitwise o (fun i j => Num.shiftLeft i j.toInt) a b
  | .shr => bitwise o (fun i j => Num.shiftLeft i (-j.toInt)) a b
  -- these two do not always evaluate their right side and are treated before
  | .and => return if a.isTrue then b else a
  | .or => return if a.isTrue then a else b

def unary (o : Operands) (op : UnaryOp) (a : Value) : Run Value := do
  match op with
  | .not => return .bool !a.isTrue
  | .neg =>
    match a.toNum? with
    | some n => return .num n.neg
    | none => raiseAt o.line s!"attempt to perform arithmetic on a {a.typeName} value{o.left}"
  | .bnot => bitwise o (fun i _ => ~~~i) a a
  | .len =>
    match a with
    | .str s => return .int s.length
    | .table ref => return .int (← table ref).length
    | a => raiseAt o.line s!"attempt to get length of a {a.typeName} value{o.left}"

/-! ### Counting loops -/

/-- The bounds of a loop over integers: the first number, the step and how many rounds there are. -/
structure Count where
  first : Int
  step : Int
  rounds : Nat

def countRounds (first last step : Int) : Count :=
  if (0 < step ∧ last < first) ∨ (step < 0 ∧ first < last) then ⟨first, step, 0⟩
  else ⟨first, step, ((last - first).natAbs / step.natAbs) + 1⟩

def integerBound (step : Int) : Num → Option Int
  | .int i => some i.toInt
  | .float f =>
    if f.isNaN then none
    else if !f.isFinite then some (if f > 0 then Int64.maxValue.toInt else Int64.minValue.toInt)
    else if 0 < step then some (min (Num.floorInt f) Int64.maxValue.toInt)
    else some (max (-(Num.floorInt (-f))) Int64.minValue.toInt)

/-- Values for names: missing ones are `nil`, further ones are dropped. -/
def adjust (n : Nat) (vs : List Value) : List Value := (vs ++ List.replicate n Value.nil).take n

def bind (env : Env) : List Name → List Value → Run Env
  | [], _ => return env
  | n :: ns, vs => do
    let ref ← newCell (vs.headD .nil)
    bind { env with own := (n, ref) :: env.own } ns vs.tail

def loopNumber (line : Nat) (what : String) : Value → Run Num
  | .num n => return n
  | v => raiseAt line s!"'for' {what} must be a number, not {v.typeName}"

/-- Values at consecutive numbers. -/
def items (t : Value) (i : Nat) : List Value → Run Unit
  | [] => return ()
  | v :: vs => do
    writeIndex 0 "" t (.int i) v
    items t (i + 1) vs

variable {m : Type → Type} [Machine m]

mutual

def expr (env : Env) : Nat → Expr → m Value
  | 0, _ => throw .exhausted
  | fuel + 1, e => do
    match e with
    | .nil => return .nil
    | .bool b => return .bool b
    | .num n => return .num n
    | .str s => return .str s
    | .rest => return env.rest.headD .nil
    | .function body => newClosure body env
    | .var n => readVar env n
    | .index line t k =>
      let table ← expr env fuel t
      readIndex line (nameOf env t) table (← expr env fuel k)
    | .call .. | .method .. => return (← values env fuel e).headD .nil
    | .unary line op a => do unary ⟨line, nameOf env a, ""⟩ op (← expr env fuel a)
    | .binary _ .and a b => do
      let v ← expr env fuel a
      if v.isTrue then expr env fuel b else return v
    | .binary _ .or a b => do
      let v ← expr env fuel a
      if v.isTrue then return v else expr env fuel b
    | .binary line op a b => do
      let v ← expr env fuel a
      binary ⟨line, nameOf env a, nameOf env b⟩ op v (← expr env fuel b)
    | .table fs => do
      let t ← newTable ⟨#[], (fs.filter fun | .item _ => true | _ => false).length⟩
      fields env fuel t 1 fs
      return t
    | .paren a => expr env fuel a
termination_by structural fuel => fuel

/-- All values of an expression; calls and further arguments may have any number. -/
def values (env : Env) : Nat → Expr → m (List Value)
  | 0, _ => throw .exhausted
  | fuel + 1, e => do
    match e with
    | .call line f args => do
      let callee ← expr env fuel f
      let vs ← valueList env fuel args
      call fuel line (nameOf env f) callee vs
    | .method line object n args => do
      let v ← expr env fuel object
      let f ← readIndex line (nameOf env object) v (.str (Token.encode n))
      let vs ← valueList env fuel args
      call fuel line (nameOf env e) f (v :: vs)
    | .rest => return env.rest
    | e => return [← expr env fuel e]
termination_by structural fuel => fuel

/-- One value of each expression, and all values of the last. -/
def valueList (env : Env) : Nat → List Expr → m (List Value)
  | 0, _ => throw .exhausted
  | _, [] => return []
  | fuel + 1, [e] => values env fuel e
  | fuel + 1, e :: es => do
    let v ← expr env fuel e
    return v :: (← valueList env fuel es)
termination_by structural fuel => fuel

/-- Fills a table; `i` is the number of the next item. -/
def fields (env : Env) : Nat → Value → Nat → List Field → m Unit
  | 0, _, _, _ => throw .exhausted
  | _, _, _, [] => return ()
  | fuel + 1, t, i, [.item e] => do items t i (← values env fuel e)
  | fuel + 1, t, i, .item e :: fs => do
    items t i [← expr env fuel e]
    fields env fuel t (i + 1) fs
  | fuel + 1, t, i, .named k e :: fs => do
    let key ← expr env fuel k
    writeIndex 0 "" t key (← expr env fuel e)
    fields env fuel t i fs
termination_by structural fuel => fuel

def call : Nat → Nat → String → Value → List Value → m (List Value)
  | 0, _, _, _, _ => throw .exhausted
  | fuel + 1, line, name, f, args => do
    match f with
    | .closure ref =>
      let h ← (get : Run Heap)
      match h.closures[ref]? with
      | none => return []
      | some closure =>
        if maxDepth ≤ h.callers.length then raiseAt line "stack overflow"
        Machine.perform (set { h with callers := line :: h.callers })
        let .mk params hasRest body := closure.function
        let env ← bind { closure.env with rest := if hasRest then args.drop params.length else [] }
          params args
        let outcome ← block env fuel body
        Machine.perform (modify fun h' => { h' with callers := h.callers })
        match outcome with
        | .returned vs => return vs
        | _ => return []
    | .native .pcall => do
      let h ← (get : Run Heap)
      match args with
      | [] => raiseAt line "bad argument #1 to 'pcall' (value expected)"
      | g :: args =>
        try
          let vs ← call fuel 0 "" g args
          return .bool true :: vs
        catch
          | .thrown v => do
            Machine.perform (modify fun h' => { h' with callers := h.callers })
            return [.bool false, v]
          | .exhausted => throw .exhausted
    | .native g => do
      Machine.perform (modify fun h => { h with line := line })
      Machine.native g args
    | v => raiseAt line s!"attempt to call a {v.typeName} value{name}"
termination_by structural fuel => fuel

/-- What an expression on the left of an assignment stands for. -/
def place (env : Env) : Nat → Expr → m Place
  | 0, _ => throw .exhausted
  | fuel + 1, e => do
    match e with
    | .var n =>
      match cellOf? env n with
      | some ref => return .cell ref
      | none => return .global n
    | .index line t k =>
      let table ← expr env fuel t
      return .entry line (nameOf env t) table (← expr env fuel k)
    | _ => raise "cannot assign"
termination_by structural fuel => fuel

def places (env : Env) : Nat → List Expr → m (List Place)
  | 0, _ => throw .exhausted
  | _, [] => return []
  | fuel + 1, e :: es => do
    let p ← place env fuel e
    return p :: (← places env fuel es)
termination_by structural fuel => fuel

/-- Runs statements; the variables they declare are seen by those after them, and after the block by
the condition of a loop. -/
def blockIn (env : Env) : Nat → List Stat → m (Outcome × Env)
  | 0, _ => throw .exhausted
  | _, [] => return (.next, env)
  | fuel + 1, s :: rest => do
    match s with
    | .locals names es => do
      let vs ← valueList env fuel es
      blockIn (← bind env names vs) fuel rest
    | .localFunction n body => do
      let ref ← newCell .nil
      let env := { env with own := (n, ref) :: env.own }
      writeCell ref (← newClosure body env)
      blockIn env fuel rest
    | s => do
      match ← statement env fuel s with
      | .next => blockIn env fuel rest
      | outcome => return (outcome, env)
termination_by structural fuel => fuel

def block (env : Env) : Nat → List Stat → m Outcome
  | 0, _ => throw .exhausted
  | fuel + 1, body => return (← blockIn env fuel body).1
termination_by structural fuel => fuel

def statement (env : Env) : Nat → Stat → m Outcome
  | 0, _ => throw .exhausted
  | fuel + 1, s => do
    match s with
    | .call e => do
      let _ ← values env fuel e
      return .next
    | .assign targets es => do
      let ps ← places env fuel targets
      let vs ← valueList env fuel es
      -- the last target is written first
      Machine.perform (((ps.zip (adjust ps.length vs)).reverse).forM fun (p, v) => write p v)
      return .next
    | .block body => block env fuel body
    | .while condition body => whileLoop env fuel condition body
    | .repeat body condition => repeatLoop env fuel body condition
    | .branch condition yes no => do
      if (← expr env fuel condition).isTrue then block env fuel yes else block env fuel no
    | .countingFor line n first last step body => do
      let a ← expr env fuel first
      let b ← expr env fuel last
      let c ←
        match step with
        | some e => expr env fuel e
        | none => pure (.int 1)
      match a, c with
      | .num (.int i), .num (.int k) => do
        if k == 0 then raiseAt line "'for' step is zero"
        let bound ← loopNumber line "limit" b
        match integerBound k.toInt bound with
        | none => return .next
        | some j =>
          let count := countRounds i.toInt j k.toInt
          countLoop env fuel n body count.step count.first count.rounds
      | a, c => do
        let bound ← loopNumber line "limit" b
        let step ← loopNumber line "step" c
        let first ← loopNumber line "initial value" a
        if step.toFloat == 0 then raiseAt line "'for' step is zero"
        floatLoop env fuel n body step.toFloat bound.toFloat first.toFloat
    | .iteratingFor line names es body => do
      match adjust 3 (← valueList env fuel es) with
      | [f, state, control] => iterate env fuel line names body f state control
      | _ => return .next
    | .return es => return .returned (← valueList env fuel es)
    | .break => return .broke
    | s => block env fuel [s]
termination_by structural fuel => fuel

def whileLoop (env : Env) : Nat → Expr → List Stat → m Outcome
  | 0, _, _ => throw .exhausted
  | fuel + 1, condition, body => do
    if (← expr env fuel condition).isTrue then
      match ← block env fuel body with
      | .next => whileLoop env fuel condition body
      | .broke => return .next
      | outcome => return outcome
    else return .next
termination_by structural fuel => fuel

/-- The condition sees the variables of the body. -/
def repeatLoop (env : Env) : Nat → List Stat → Expr → m Outcome
  | 0, _, _ => throw .exhausted
  | fuel + 1, body, condition => do
    match ← blockIn env fuel body with
    | (.next, inner) =>
      if (← expr inner fuel condition).isTrue then return .next
      else repeatLoop env fuel body condition
    | (.broke, _) => return .next
    | (outcome, _) => return outcome
termination_by structural fuel => fuel

def countLoop (env : Env) : Nat → Name → List Stat → Int → Int → Nat → m Outcome
  | 0, _, _, _, _, _ => throw .exhausted
  | _, _, _, _, _, 0 => return .next
  | fuel + 1, n, body, step, i, rounds + 1 => do
    match ← block (← bind env [n] [.int i]) fuel body with
    | .next => countLoop env fuel n body step (i + step) rounds
    | .broke => return .next
    | outcome => return outcome
termination_by structural fuel => fuel

def floatLoop (env : Env) : Nat → Name → List Stat → Float → Float → Float → m Outcome
  | 0, _, _, _, _, _ => throw .exhausted
  | fuel + 1, n, body, step, last, x => do
    if (if 0 < step then x ≤ last else last ≤ x) then
      match ← block (← bind env [n] [.num (.float x)]) fuel body with
      | .next => floatLoop env fuel n body step last (x + step)
      | .broke => return .next
      | outcome => return outcome
    else return .next
termination_by structural fuel => fuel

def iterate (env : Env) : Nat → Nat → List Name → List Stat → Value → Value → Value → m Outcome
  | 0, _, _, _, _, _, _ => throw .exhausted
  | fuel + 1, line, names, body, f, state, control => do
    let vs ← call fuel line " (for iterator 'for iterator')" f [state, control]
    let first := vs.headD .nil
    if first.isNil then return .next
    match ← block (← bind env names vs) fuel body with
    | .next => iterate env fuel line names body f state first
    | .broke => return .next
    | outcome => return outcome
termination_by structural fuel => fuel

end

end Eval

/-- No run takes more steps in a row than this. -/
def maxFuel : Nat := 100000000

def runChunk {m : Type → Type} [Machine m] (body : List Stat) : m Unit := do
  let _ ← Eval.block ⟨[], [], []⟩ maxFuel body

end MudClient.Lua
