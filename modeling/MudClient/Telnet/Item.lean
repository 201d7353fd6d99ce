import MudClient.Telnet.Command
/-! A stream of bytes as items: bytes of text, and commands between them. An item that is not
complete is left until more bytes come. -/
namespace MudClient.Telnet

inductive Event where
  | negotiation (verb : Verb) (option : UInt8)
  | subnegotiation (option : UInt8) (payload : Bytes)
  | command (command : Command)
  deriving DecidableEq, Repr

inductive Item where
  | data (byte : UInt8)
  | event (event : Event)
  /-- A command that is unknown, or a subnegotiation without an option. -/
  | nothing
  deriving DecidableEq, Repr

/-- In text the byte 255 is written twice. -/
def escape (data : Bytes) : Bytes := data.flatMap fun b => if b = iac then [iac, iac] else [b]

/-- Reads a doubled byte 255 once. -/
def unescape : Bytes → Bytes
  | a :: b :: r => if a = iac ∧ b = iac then iac :: unescape r else a :: unescape (b :: r)
  | l => l

/-- The bytes up to the end of a subnegotiation, and what follows it. A byte 255 and the byte after
it belong together. -/
def subnegotiationBody? : Bytes → Option (Bytes × Bytes)
  | [] => none
  | a :: r =>
    if a = iac then
      match r with
      | [] => none
      | b :: r =>
        if b = Command.endSubnegotiation.code then some ([], r)
        else (subnegotiationBody? r).map fun (body, rest) => (a :: b :: body, rest)
    else (subnegotiationBody? r).map fun (body, rest) => (a :: body, rest)

theorem length_lt_of_subnegotiationBody? {t body rest : Bytes}
    (h : subnegotiationBody? t = some (body, rest)) : rest.length < t.length := by
  fun_induction subnegotiationBody? t generalizing body rest with
  | case1 | case2 => cases h
  | case3 => cases h; exact Nat.lt_succ_of_lt (Nat.lt_succ_self _)
  | case4 =>
    rename_i ih
    obtain ⟨⟨_, _⟩, hc, h⟩ := Option.map_eq_some_iff.1 h
    cases h
    exact Nat.lt_succ_of_lt (Nat.lt_succ_of_lt (ih hc))
  | case5 =>
    rename_i ih
    obtain ⟨⟨_, _⟩, hc, h⟩ := Option.map_eq_some_iff.1 h
    cases h
    exact Nat.lt_succ_of_lt (ih hc)

/-- The item of a subnegotiation with this body. -/
def Item.ofBody : Bytes → Item
  | [] => nothing
  | option :: payload => event (.subnegotiation option (unescape payload))

/-- The item of a command that was read, and what follows it. -/
def commandItem? (c : Command) (r : Bytes) : Option (Item × Bytes) :=
  match c with
  | .negotiation verb =>
    match r with
    | [] => none
    | option :: r => some (.event (.negotiation verb option), r)
  | .subnegotiation => (subnegotiationBody? r).map fun (body, rest) => (.ofBody body, rest)
  | c => some (.event (.command c), r)

/-- The first item and what follows it, if it is complete. -/
def item? : Bytes → Option (Item × Bytes)
  | [] => none
  | a :: r =>
    if a ≠ iac then some (.data a, r)
    else
      match r with
      | [] => none
      | b :: r =>
        if b = iac then some (.data iac, r)
        else
          match Command.ofCode? b with
          | none => some (.nothing, r)
          | some c => commandItem? c r

theorem length_le_of_commandItem? {c : Command} {r rest : Bytes} {i : Item}
    (h : commandItem? c r = some (i, rest)) : rest.length ≤ r.length := by
  unfold commandItem? at h
  split at h
  · split at h
    · cases h
    · cases h
      exact Nat.le_succ _
  · obtain ⟨⟨_, _⟩, hc, h⟩ := Option.map_eq_some_iff.1 h
    cases h
    exact Nat.le_of_lt (length_lt_of_subnegotiationBody? hc)
  · cases h
    exact Nat.le_refl _

theorem length_lt_of_item? {t rest : Bytes} {i : Item} (h : item? t = some (i, rest)) :
    rest.length < t.length := by
  unfold item? at h
  split at h
  · cases h
  · split at h
    · cases h
      exact Nat.lt_succ_self _
    · split at h
      · cases h
      · split at h
        · cases h
          exact Nat.lt_succ_of_lt (Nat.lt_succ_self _)
        · split at h
          · cases h
            exact Nat.lt_succ_of_lt (Nat.lt_succ_self _)
          · exact Nat.lt_succ_of_lt (Nat.lt_succ_of_le (length_le_of_commandItem? h))

/-- The complete items at the start of a stream, and what is left. -/
def items (t : Bytes) : List Item × Bytes :=
  match _h : item? t with
  | none => ([], t)
  | some (i, rest) =>
    let (is, left) := items rest
    (i :: is, left)
termination_by t.length
decreasing_by exact length_lt_of_item? _h

def Item.data? : Item → Option UInt8
  | data b => some b
  | _ => none

def Item.event? : Item → Option Event
  | event e => some e
  | _ => none

structure Parsed where
  data : Bytes
  events : List Event
  /-- The bytes of an item that is not complete. -/
  left : Bytes
  deriving DecidableEq, Repr

def parse (t : Bytes) : Parsed :=
  let (is, left) := items t
  ⟨is.filterMap Item.data?, is.filterMap Item.event?, left⟩

def Event.write : Event → Bytes
  | negotiation verb option => negotiationBytes verb option
  | subnegotiation option payload =>
    [iac, Command.subnegotiation.code, option] ++ escape payload ++
      [iac, Command.endSubnegotiation.code]
  | command c => [iac, c.code]

end MudClient.Telnet
