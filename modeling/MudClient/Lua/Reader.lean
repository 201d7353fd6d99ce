import MudClient.Lua.Token
/-! Reading a chunk: tokens into statements. Nothing is the answer for a chunk that is not well
formed; then none of it runs.

`fuel` bounds the nesting and is taken from the number of tokens. -/
namespace MudClient.Lua

abbrev Reading := StateT (List Located) Option

structure Surroundings where
  inLoop : Bool
  /-- The function takes arguments beyond the named ones. -/
  hasRest : Bool

namespace Reading

def fail {α : Type} : Reading α := fun _ => none

def peek? : Reading (Option Token) := return (← get).head?.map (·.token)

def peekSecond? : Reading (Option Token) := return (← get).tail.head?.map (·.token)

def line : Reading Nat := return ((← get).head?.map (·.line)).getD 0

def advance : Reading Unit := modify List.tail

def atSymbol (s : String) : Reading Bool := do
  match ← peek? with
  | some (.symbol t) => return t == s
  | _ => return false

def atKeyword (w : String) : Reading Bool := do
  match ← peek? with
  | some (.keyword v) => return v == w
  | _ => return false

def acceptSymbol (s : String) : Reading Bool := do
  let found ← atSymbol s
  if found then advance
  return found

def acceptKeyword (w : String) : Reading Bool := do
  let found ← atKeyword w
  if found then advance
  return found

def symbol (s : String) : Reading Unit := do
  if !(← acceptSymbol s) then fail

def keyword (w : String) : Reading Unit := do
  if !(← acceptKeyword w) then fail

def name : Reading Name := do
  match ← peek? with
  | some (.name n) => do advance; return n
  | _ => fail

def nameKey (n : Name) : Expr := .str (Token.encode n)

def moreNames : Nat → Reading (List Name)
  | 0 => fail
  | fuel + 1 => do
    if ← acceptSymbol "," then return (← name) :: (← moreNames fuel) else return []

/-- Named parameters, and whether further arguments are taken. -/
def params : Nat → Reading (List Name × Bool)
  | 0 => fail
  | fuel + 1 => do
    if ← acceptSymbol "..." then return ([], true)
    let n ← name
    if ← acceptSymbol "," then
      let (ns, hasRest) ← params fuel
      return (n :: ns, hasRest)
    return ([n], false)

def paramList (fuel : Nat) : Reading (List Name × Bool) := do
  symbol "("
  if ← acceptSymbol ")" then return ([], false)
  let ps ← params fuel
  symbol ")"
  return ps

def unaryOp? : Token → Option UnaryOp
  | .symbol "-" => some .neg
  | .symbol "#" => some .len
  | .symbol "~" => some .bnot
  | .keyword "not" => some .not
  | _ => none

def unaryBinding : Nat := 12

/-- An operator, and how tightly it binds on its left and on its right. -/
def binaryOp? : Token → Option (BinaryOp × Nat × Nat)
  | .keyword "or" => some (.or, 1, 1)
  | .keyword "and" => some (.and, 2, 2)
  | .symbol "<" => some (.lt, 3, 3)
  | .symbol ">" => some (.gt, 3, 3)
  | .symbol "<=" => some (.le, 3, 3)
  | .symbol ">=" => some (.ge, 3, 3)
  | .symbol "~=" => some (.ne, 3, 3)
  | .symbol "==" => some (.eq, 3, 3)
  | .symbol "|" => some (.bor, 4, 4)
  | .symbol "~" => some (.bxor, 5, 5)
  | .symbol "&" => some (.band, 6, 6)
  | .symbol "<<" => some (.shl, 7, 7)
  | .symbol ">>" => some (.shr, 7, 7)
  | .symbol ".." => some (.concat, 9, 8)
  | .symbol "+" => some (.add, 10, 10)
  | .symbol "-" => some (.sub, 10, 10)
  | .symbol "*" => some (.mul, 11, 11)
  | .symbol "/" => some (.div, 11, 11)
  | .symbol "//" => some (.idiv, 11, 11)
  | .symbol "%" => some (.mod, 11, 11)
  | .symbol "^" => some (.pow, 14, 13)
  | _ => none

/-- A block ends where one of these comes, or at the end. -/
def endsBlock : Option Token → Bool
  | none => true
  | some (.keyword w) => ["else", "elseif", "end", "until"].contains w
  | _ => false

def isTarget : Expr → Bool
  | .var _ | .index .. => true
  | _ => false

mutual

def expr (here : Surroundings) : Nat → Nat → Reading Expr
  | 0, _ => fail
  | fuel + 1, binding => do
    let first ←
      match (← peek?).bind unaryOp? with
      | some op => do
        let line ← line
        advance
        pure (.unary line op (← expr here fuel unaryBinding))
      | none => simple here fuel
    operators here fuel binding first

/-- Operators that bind tighter than `binding`, after a first operand. -/
def operators (here : Surroundings) : Nat → Nat → Expr → Reading Expr
  | 0, _, _ => fail
  | fuel + 1, binding, a => do
    match (← peek?).bind binaryOp? with
    | some (op, left, right) =>
      if binding < left then
        let line ← line
        advance
        let b ← expr here fuel right
        operators here fuel binding (.binary line op a b)
      else return a
    | none => return a

def exprs (here : Surroundings) : Nat → Reading (List Expr)
  | 0 => fail
  | fuel + 1 => do
    let e ← expr here fuel 0
    if ← acceptSymbol "," then return e :: (← exprs here fuel) else return [e]

def simple (here : Surroundings) : Nat → Reading Expr
  | 0 => fail
  | fuel + 1 => do
    match ← peek? with
    | some (.num n) => advance; return .num n
    | some (.str s) => advance; return .str s
    | some (.keyword "nil") => advance; return .nil
    | some (.keyword "true") => advance; return .bool true
    | some (.keyword "false") => advance; return .bool false
    | some (.symbol "...") => if here.hasRest then do advance; return .rest else fail
    | some (.symbol "\x7b") => advance; table here fuel
    | some (.keyword "function") => advance; return .function (← functionBody fuel [])
    | _ => suffixed here fuel

def suffixed (here : Surroundings) : Nat → Reading Expr
  | 0 => fail
  | fuel + 1 => do
    if ← acceptSymbol "(" then
      let e ← expr here fuel 0
      symbol ")"
      suffixes here fuel (.paren e)
    else suffixes here fuel (.var (← name))

/-- Indexing and calls after an expression. -/
def suffixes (here : Surroundings) : Nat → Expr → Reading Expr
  | 0, _ => fail
  | fuel + 1, e => do
    let line ← line
    match ← peek? with
    | some (.symbol ".") => do
      advance
      let n ← name
      suffixes here fuel (.index line e (nameKey n))
    | some (.symbol "[") => do
      advance
      let k ← expr here fuel 0
      symbol "]"
      suffixes here fuel (.index line e k)
    | some (.symbol ":") => do
      advance
      let n ← name
      let line ← Reading.line
      match ← args? here fuel with
      | some args => suffixes here fuel (.method line e n args)
      | none => fail
    | _ =>
      match ← args? here fuel with
      | some args => suffixes here fuel (.call line e args)
      | none => return e

/-- The arguments of a call, if there is one. -/
def args? (here : Surroundings) : Nat → Reading (Option (List Expr))
  | 0 => fail
  | fuel + 1 => do
    match ← peek? with
    | some (.str s) => advance; return some [.str s]
    | some (.symbol "\x7b") => do
      advance
      return some [← table here fuel]
    | some (.symbol "(") => do
      advance
      if ← acceptSymbol ")" then return some []
      let es ← exprs here fuel
      symbol ")"
      return some es
    | _ => return none

def table (here : Surroundings) : Nat → Reading Expr
  | 0 => fail
  | fuel + 1 => return .table (← fields here fuel)

def fields (here : Surroundings) : Nat → Reading (List Field)
  | 0 => fail
  | fuel + 1 => do
    if ← acceptSymbol "\x7d" then return []
    let f ← field here fuel
    if (← acceptSymbol ",") || (← acceptSymbol ";") then return f :: (← fields here fuel)
    symbol "\x7d"
    return [f]

def field (here : Surroundings) : Nat → Reading Field
  | 0 => fail
  | fuel + 1 => do
    if ← acceptSymbol "[" then
      let k ← expr here fuel 0
      symbol "]"
      symbol "="
      return .named k (← expr here fuel 0)
    match ← peek?, ← peekSecond? with
    | some (.name n), some (.symbol "=") => do
      advance
      advance
      return .named (nameKey n) (← expr here fuel 0)
    | _, _ => return .item (← expr here fuel 0)

/-- After the word that starts a function; `first` are parameters that come before the others. -/
def functionBody : Nat → List Name → Reading Function
  | 0, _ => fail
  | fuel + 1, first => do
    let (ps, hasRest) ← paramList fuel
    let body ← block ⟨false, hasRest⟩ fuel
    keyword "end"
    return .mk (first ++ ps) hasRest body

/-- Statements up to the end of their block, which is left. -/
def block (here : Surroundings) : Nat → Reading (List Stat)
  | 0 => fail
  | fuel + 1 => do
    if endsBlock (← peek?) then return []
    if ← acceptSymbol ";" then return ← block here fuel
    if ← acceptKeyword "return" then
      let values ← if endsBlock (← peek?) || (← atSymbol ";") then pure [] else exprs here fuel
      let _ ← acceptSymbol ";"
      -- nothing comes after a return
      if endsBlock (← peek?) then return [.return values] else fail
    let s ← statement here fuel
    return s :: (← block here fuel)

def loopBody (here : Surroundings) : Nat → Reading (List Stat)
  | 0 => fail
  | fuel + 1 => do
    keyword "do"
    let body ← block { here with inLoop := true } fuel
    keyword "end"
    return body

def branch (here : Surroundings) : Nat → Reading Stat
  | 0 => fail
  | fuel + 1 => do
    let condition ← expr here fuel 0
    keyword "then"
    let yes ← block here fuel
    if ← acceptKeyword "elseif" then return .branch condition yes [← branch here fuel]
    let no ← if ← acceptKeyword "else" then block here fuel else pure []
    keyword "end"
    return .branch condition yes no

def forLoop (here : Surroundings) : Nat → Nat → Reading Stat
  | 0, _ => fail
  | fuel + 1, line => do
    let n ← name
    if ← acceptSymbol "=" then
      let first ← expr here fuel 0
      symbol ","
      let last ← expr here fuel 0
      let step ← if ← acceptSymbol "," then some <$> expr here fuel 0 else pure none
      return .countingFor line n first last step (← loopBody here fuel)
    let ns ← moreNames fuel
    keyword "in"
    let values ← exprs here fuel
    return .iteratingFor line (n :: ns) values (← loopBody here fuel)

/-- After `function`: a name with fields, and perhaps a method. -/
def functionStatement (here : Surroundings) : Nat → Expr → Reading Stat
  | 0, _ => fail
  | fuel + 1, target => do
    let line ← line
    if ← acceptSymbol "." then
      let n ← name
      functionStatement here fuel (.index line target (nameKey n))
    else if ← acceptSymbol ":" then
      let n ← name
      return .assign [.index line target (nameKey n)]
        [.function (← functionBody fuel ["self".toList])]
    else return .assign [target] [.function (← functionBody fuel [])]

/-- More targets of an assignment, and its values. -/
def assignment (here : Surroundings) : Nat → List Expr → Reading Stat
  | 0, _ => fail
  | fuel + 1, targets => do
    if !(targets.getLast?.any isTarget) then fail
    if ← acceptSymbol "," then
      let e ← suffixed here fuel
      assignment here fuel (targets ++ [e])
    else
      symbol "="
      return .assign targets (← exprs here fuel)

def statement (here : Surroundings) : Nat → Reading Stat
  | 0 => fail
  | fuel + 1 => do
    let line ← line
    match ← peek? with
    | some (.keyword "if") => advance; branch here fuel
    | some (.keyword "while") => do
      advance
      let condition ← expr here fuel 0
      return .while condition (← loopBody here fuel)
    | some (.keyword "do") => do
      advance
      let body ← block here fuel
      keyword "end"
      return .block body
    | some (.keyword "for") => advance; forLoop here fuel line
    | some (.keyword "repeat") => do
      advance
      let body ← block { here with inLoop := true } fuel
      keyword "until"
      return .repeat body (← expr here fuel 0)
    | some (.keyword "function") => do
      advance
      functionStatement here fuel (.var (← name))
    | some (.keyword "local") => do
      advance
      if ← acceptKeyword "function" then
        let n ← name
        return .localFunction n (← functionBody fuel [])
      let n ← name
      let ns ← moreNames fuel
      let values ← if ← acceptSymbol "=" then exprs here fuel else pure []
      return .locals (n :: ns) values
    | some (.keyword "break") => if here.inLoop then do advance; return .break else fail
    | _ =>
      let e ← suffixed here fuel
      match e with
      | .call .. | .method .. =>
        if (← atSymbol "=") || (← atSymbol ",") then fail else return .call e
      | e => assignment here fuel [e]

end

end Reading

def chunk? (source : List Char) : Option (List Stat) := do
  let tokens ← Token.ofSource? source
  -- no token opens more than this many levels
  let (body, rest) ← (Reading.block ⟨false, true⟩ (20 * tokens.length + 20)).run tokens
  if rest.isEmpty then some body else none

end MudClient.Lua
