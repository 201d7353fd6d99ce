import MudClient.Script.Effect
/-! The functions that scripts can call. They read variables and ask for effects and changes; none
does anything itself. -/
namespace MudClient.Script

inductive Builtin where
  | send | say | display | play | feed
  | pause
  | declareAlias | declareTrigger | declareKeyBinding | declareChannel
  | writeVar | checkVar | delVar
  deriving DecidableEq, Repr

namespace Builtin

def name : Builtin → String
  | send => "send"
  | say => "say"
  | display => "display"
  | play => "play"
  | feed => "feed"
  | pause => "pause"
  | declareAlias => "alias"
  | declareTrigger => "trigger"
  | declareKeyBinding => "macro"
  | declareChannel => "channel"
  | writeVar => "writevar"
  | checkVar => "checkvar"
  | delVar => "delvar"

def summary : Builtin → String
  | send => "送出文字到伺服器"
  | say => "以語音朗讀文字"
  | display => "在本地顯示文字"
  | play => "播放音效檔"
  | feed => "將訊息加入頻道"
  | pause => "暫停腳本一段時間"
  | declareAlias => "宣告別名"
  | declareTrigger => "宣告觸發器"
  | declareKeyBinding => "宣告快捷鍵巨集"
  | declareChannel => "宣告訊息頻道"
  | writeVar => "寫入變數"
  | checkVar => "檢查變數，不符合時中斷腳本"
  | delVar => "刪除變數"

/-- The least and the greatest number of arguments, if there is a greatest. -/
def arity : Builtin → Nat × Option Nat
  | send => (0, none)
  | say | display | writeVar => (1, none)
  | feed => (2, none)
  | play | pause | declareChannel | delVar => (1, some 1)
  | checkVar => (1, some 2)
  | declareAlias | declareKeyBinding => (2, some 2)
  | declareTrigger => (2, some 3)

def accepts (f : Builtin) (count : Nat) : Bool :=
  f.arity.1 ≤ count && f.arity.2.all (count ≤ ·)

/-- Declarations keep their arguments as they are written; variables are replaced when the action
runs. -/
def substitutes : Builtin → Bool
  | declareAlias | declareTrigger | declareKeyBinding | declareChannel => false
  | _ => true

def validate (f : Builtin) (count : Nat) : Except ScriptError Unit :=
  if f.accepts count then .ok ()
  else .error (.invalidArguments f.name.toList f.arity.1 f.arity.2 count)

/-- A pause is no call: it is compiled to the time it lasts. -/
def delay? : Builtin → List Text → Option Delay
  | pause, seconds :: _ => some (.ofText seconds)
  | _, _ => none

/-- What is said about a variable that is not as expected. -/
def notice? (name value : Text) (expected : Option Text) : Option Text :=
  let shown := String.ofList name
  if value.isEmpty then some s!"變數 {shown} 未設定".toList
  else
    match expected with
    | none => none
    | some e =>
      if value = e then none
      else some s!"變數 {shown} 為 {String.ofList value}，預期 {String.ofList e}".toList

/-- Ends the script if a variable is not set or, when a value is expected, has another one. -/
def check (locals : Locals) (flags : Flags) (name : Text) (expected : Option Text) : Reply :=
  match notice? name ((locals.get? name).getD []) expected with
  | none => .ofFlow .next
  | some notice => ⟨if flags.isOn "warn" then [.display notice] else [], [], .ok .stop⟩

/-- An empty substitution is none. -/
def declaredTrigger (pattern action : Text) (substitution : Option Text) (flags : Flags) :
    Except ScriptError Trigger :=
  Trigger.create pattern action (substitution.filter (!·.isEmpty)) (flags.isOn "mute")
    (flags.isOn "mark")

/-- A call. The number of arguments is checked when a script is compiled; a call that was compiled
for another function may still have too few. -/
def run (f : Builtin) (locals : Locals) (args : List Text) (flags : Flags) : Except Crash Reply :=
  match f, args with
  | send, _ => .ok (.ofEffect (.send (Text.unwords args)))
  | say, _ => .ok (.ofEffect (.speak (Text.unwords args) (flags.isOn "interrupt")))
  | display, _ => .ok (.ofEffect (.display (Text.unwords args)))
  | play, path :: _ => .ok (.ofEffect (.play path))
  | feed, name :: words => .ok (.ofEffect (.feed name (Text.unwords words)))
  | pause, _ => .ok (.ofFlow (.pause 0))
  | declareAlias, pattern :: action :: _ =>
    .ok (.declare .declareAlias (Alias.create pattern action))
  | declareTrigger, pattern :: action :: more =>
    .ok (.declare .declareTrigger (declaredTrigger pattern action more.head? flags))
  | declareKeyBinding, shortcut :: more =>
    match Shortcut.ofText shortcut, more with
    | .error e, _ => .ok (.ofError e)
    | .ok s, action :: _ => .ok (.ofEffect (.declareKeyBinding ⟨s, action⟩))
    | .ok _, [] => .error .missingArgument
  | declareChannel, name :: _ => .ok (.ofEffect (.declareChannel name))
  | writeVar, name :: words => .ok (.ofChange (.set name (Text.unwords words)))
  | checkVar, name :: more => .ok (check locals flags name more.head?)
  | delVar, name :: _ => .ok (.ofChange (.delete name))
  | _, [] => .error .missingArgument
  | declareAlias, [_] | declareTrigger, [_] => .error .missingArgument

end Builtin
end MudClient.Script
