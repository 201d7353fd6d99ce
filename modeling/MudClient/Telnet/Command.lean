import MudClient.Encoding.Reading
/-! The commands of the telnet protocol, each a byte after the byte 255, and the answers to offers
and requests of options. -/
namespace MudClient.Telnet

/-- Interpret as command: the byte before every command. -/
def iac : UInt8 := 255

inductive Verb where
  /-- It offers to use it. -/
  | will
  /-- It refuses to use it. -/
  | wont
  /-- It asks the other side to use it. -/
  | doIt
  /-- It asks the other side not to use it. -/
  | dont
  deriving DecidableEq, Repr

def Verb.code : Verb → UInt8
  | will => 251
  | wont => 252
  | doIt => 253
  | dont => 254

inductive Command where
  /-- Ends a prompt, as `goAhead` does. -/
  | endOfRecord
  | endSubnegotiation
  | noOperation
  | dataMark
  | breakKey
  | interruptProcess
  | abortOutput
  | areYouThere
  | eraseCharacter
  | eraseLine
  | goAhead
  | subnegotiation
  | negotiation (verb : Verb)
  deriving DecidableEq, Repr

namespace Command

def code : Command → UInt8
  | endOfRecord => 239
  | endSubnegotiation => 240
  | noOperation => 241
  | dataMark => 242
  | breakKey => 243
  | interruptProcess => 244
  | abortOutput => 245
  | areYouThere => 246
  | eraseCharacter => 247
  | eraseLine => 248
  | goAhead => 249
  | subnegotiation => 250
  | negotiation verb => verb.code

def all : List Command :=
  [endOfRecord, endSubnegotiation, noOperation, dataMark, breakKey, interruptProcess, abortOutput,
    areYouThere, eraseCharacter, eraseLine, goAhead, subnegotiation, negotiation .will,
    negotiation .wont, negotiation .doIt, negotiation .dont]

def ofCode? (byte : UInt8) : Option Command := all.find? (·.code = byte)

theorem ofCode?_code (c : Command) : ofCode? c.code = some c := by
  cases c with
  | negotiation v => cases v <;> decide
  | _ => decide

theorem code_of_ofCode? {b : UInt8} {c : Command} (h : ofCode? b = some c) : c.code = b := by
  simpa using List.find?_some h

def endsPrompt (c : Command) : Bool := c == goAhead || c == endOfRecord

end Command

def echo : UInt8 := 1

def suppressGoAhead : UInt8 := 3

/-- The server may echo and need not send prompts' ends; the client itself does the latter only.
Refusals need no answer. -/
def answer? (verb : Verb) (option : UInt8) : Option Verb :=
  match verb with
  | .will => some (if option = echo ∨ option = suppressGoAhead then .doIt else .dont)
  | .doIt => some (if option = suppressGoAhead then .will else .wont)
  | .wont | .dont => none

def negotiationBytes (verb : Verb) (option : UInt8) : Bytes := [iac, verb.code, option]

def reply? (verb : Verb) (option : UInt8) : Option Bytes :=
  (answer? verb option).map (negotiationBytes · option)

end MudClient.Telnet
