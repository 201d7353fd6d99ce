import MudClient.Lua.Syntax
/-! Tokens, and cutting a source text into them. Nothing is the answer for a text with something in
it that is no token. -/
namespace MudClient.Lua

inductive Token where
  | name (n : Name)
  | keyword (w : String)
  | symbol (s : String)
  | num (n : Num)
  | str (s : Bytes)

/-- A token and the line on which it ends. -/
structure Located where
  token : Token
  line : Nat

namespace Token

def keywords : List String :=
  ["and", "break", "do", "else", "elseif", "end", "false", "for", "function", "goto", "if", "in",
    "local", "nil", "not", "or", "repeat", "return", "then", "true", "until", "while"]

/-- Longer ones first. -/
def symbols : List String :=
  ["...", "<<", ">>", "//", "==", "~=", "<=", ">=", "::", "..", "+", "-", "*", "/", "%", "^", "#",
    "&", "~", "|", "<", ">", "=", "(", ")", "\x7b", "\x7d", "[", "]", ";", ":", ",", "."]

def isNameStart (c : Char) : Bool := c.isAlpha || c == '_'

def isNamePart (c : Char) : Bool := c.isAlphanum || c == '_'

def encode (t : List Char) : Bytes := t.flatMap String.utf8EncodeChar

/-- The bytes of a code up to 2 ^ 31, in as many bytes as it takes. -/
def encodeCode (n : Nat) : Bytes :=
  let tail (shift : Nat) : UInt8 := UInt8.ofNat (0x80 + n / Nat.pow 2 shift % 64)
  let head (mark shift : Nat) : UInt8 := UInt8.ofNat (mark + n / Nat.pow 2 shift)
  if n < 0x80 then [UInt8.ofNat n]
  else if n < 0x800 then [head 0xC0 6, tail 0]
  else if n < 0x10000 then [head 0xE0 12, tail 6, tail 0]
  else if n < 0x200000 then [head 0xF0 18, tail 12, tail 6, tail 0]
  else if n < 0x4000000 then [head 0xF8 24, tail 18, tail 12, tail 6, tail 0]
  else [head 0xFC 30, tail 24, tail 18, tail 12, tail 6, tail 0]

/-! ### Long brackets -/

/-- After an opening bracket: the level of a long bracket, and what follows its second bracket. -/
def longOpen? (t : List Char) : Option (Nat × List Char) :=
  match t.dropWhile (· == '=') with
  | '[' :: r => some ((t.takeWhile (· == '=')).length, r)
  | _ => none

def closing (level : Nat) : List Char := ']' :: List.replicate level '=' ++ [']']

/-- Up to the closing long bracket: what it holds and what follows. -/
def longBody? (close : List Char) : List Char → Option (List Char × List Char)
  | [] => none
  | c :: r =>
    if close.isPrefixOf (c :: r) then some ([], (c :: r).drop close.length)
    else (longBody? close r).map fun (body, rest) => (c :: body, rest)

/-- Every line end is one newline. -/
def unifyNewlines : List Char → List Char
  | '\r' :: '\n' :: r | '\n' :: '\r' :: r => '\n' :: unifyNewlines r
  | '\r' :: r => '\n' :: unifyNewlines r
  | c :: r => c :: unifyNewlines r
  | [] => []

/-- A line end right after the opening is not part of the text. -/
def dropFirstNewline : List Char → List Char
  | '\n' :: r => r
  | t => t

/-! ### Quoted strings -/

def simpleEscapes : List (Char × Nat) :=
  [('a', 7), ('b', 8), ('f', 12), ('n', 10), ('r', 13), ('t', 9), ('v', 11), ('\\', 92), ('"', 34),
    ('\'', 39), ('\n', 10)]

/-- Called after a backslash: the bytes that it stands for and what follows. -/
def escape? (t : List Char) : Option (Bytes × List Char) :=
  match t with
  | [] => none
  | 'x' :: a :: b :: r =>
    if Num.isHexDigit a && Num.isHexDigit b then
      some ([UInt8.ofNat (Num.hexDigitValue a * 16 + Num.hexDigitValue b)], r)
    else none
  | 'z' :: r => some ([], r.dropWhile Num.isSpace)
  | 'u' :: '{' :: r =>
    let ds := r.takeWhile Num.isHexDigit
    match r.dropWhile Num.isHexDigit with
    | '}' :: rest =>
      if ds.isEmpty || Nat.pow 2 31 ≤ Num.hexValue ds then none
      else some (encodeCode (Num.hexValue ds), rest)
    | _ => none
  | c :: r =>
    if c.isDigit then
      let ds := (t.take 3).takeWhile Char.isDigit
      let n := Number.natOfDigits ds
      if n < 256 then some ([UInt8.ofNat n], t.drop ds.length) else none
    else (simpleEscapes.lookup c).map fun n => ([UInt8.ofNat n], r)

/-- Up to the closing quote: the bytes and what follows. `fuel` bounds the number of characters. -/
def quoted? (quote : Char) : Nat → List Char → Option (Bytes × List Char)
  | 0, _ | _, [] => none
  | fuel + 1, c :: r =>
    if c == quote then some ([], r)
    else if c == '\n' then none
    else if c == '\\' then do
      let (bytes, rest) ← escape? r
      let (more, rest) ← quoted? quote fuel rest
      return (bytes ++ more, rest)
    else do
      let (more, rest) ← quoted? quote fuel r
      return (String.utf8EncodeChar c ++ more, rest)

/-! ### Numerals -/

/-- The characters that a numeral may be made of, whether or not they make one. `marks` are the
letters that start an exponent. -/
def numeralRun (marks : List Char) : Nat → List Char → List Char × List Char
  | 0, t => ([], t)
  | _, [] => ([], [])
  | fuel + 1, c :: r =>
    if marks.contains c then
      match r with
      | s :: r' =>
        if s == '+' || s == '-' then
          let (run, rest) := numeralRun marks fuel r'
          (c :: s :: run, rest)
        else
          let (run, rest) := numeralRun marks fuel r
          (c :: run, rest)
      | [] => ([c], [])
    else if Num.isHexDigit c || c == '.' then
      let (run, rest) := numeralRun marks fuel r
      (c :: run, rest)
    else ([], c :: r)

/-- A numeral that a letter follows is none. -/
def numeral? (t : List Char) : Option (Num × List Char) :=
  let hex := "0x".toList.isPrefixOf t || "0X".toList.isPrefixOf t
  let start := if hex then t.take 2 else []
  let (run, rest) :=
    numeralRun (if hex then ['p', 'P'] else ['e', 'E']) t.length (t.drop start.length)
  if rest.head?.any isNameStart then none
  else (Num.ofUnsigned? (start ++ run)).map fun n => (n, rest)

/-! ### A source text -/

/-- What is next: nothing to be read, or a token. -/
inductive Lexeme where
  | skip
  | token (t : Token)

/-- After two hyphens: up to the end of the comment. -/
def comment? (t : List Char) : Option (List Char) :=
  match t with
  | '[' :: r =>
    match longOpen? r with
    | some (level, r) => (longBody? (closing level) r).map (·.2)
    | none => some (t.dropWhile (· != '\n'))
  | _ => some (t.dropWhile (· != '\n'))

def symbol? (t : List Char) : Option (Lexeme × List Char) :=
  (symbols.find? fun s => s.toList.isPrefixOf t).map fun s =>
    (.token (.symbol s), t.drop s.length)

def word (t : List Char) : Lexeme × List Char :=
  let w := t.takeWhile isNamePart
  let s := String.ofList w
  (.token (if keywords.contains s then .keyword s else .name w), t.dropWhile isNamePart)

def lexeme? (t : List Char) : Option (Lexeme × List Char) :=
  match t with
  | [] => none
  | '-' :: '-' :: r => (comment? r).map fun rest => (.skip, rest)
  | c :: r =>
    if Num.isSpace c then some (.skip, r)
    else if isNameStart c then some (word t)
    else if c.isDigit || (c == '.' && r.head?.any Char.isDigit) then
      (numeral? t).map fun (n, rest) => (.token (.num n), rest)
    else if c == '"' || c == '\'' then
      (quoted? c (r.length + 1) r).map fun (bytes, rest) => (.token (.str bytes), rest)
    else if c == '[' then
      match longOpen? r with
      | some (level, r) => (longBody? (closing level) r).map fun (body, rest) =>
        (.token (.str (encode (dropFirstNewline body))), rest)
      | none => if r.head? == some '=' then none else symbol? t
    else symbol? t

/-- The tokens of a text that `total` lines make up. -/
def tokensFrom (total : Nat) : Nat → List Char → Option (List Located)
  | _, [] => some []
  | 0, _ => none
  | fuel + 1, t => do
    let (lexeme, rest) ← lexeme? t
    let more ← tokensFrom total fuel rest
    match lexeme with
    | .skip => return more
    | .token token => return ⟨token, total - rest.count '\n'⟩ :: more

def ofSource? (source : List Char) : Option (List Located) :=
  let t := unifyNewlines source
  tokensFrom (1 + t.count '\n') (t.length + 1) t

end Token
end MudClient.Lua
