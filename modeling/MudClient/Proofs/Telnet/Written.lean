import Mathlib.Data.List.Basic
import MudClient.Proofs.Telnet.Leftover
/-! Writing a stream. Text is escaped, and each event has one written form, so whatever is written
is read back item by item: where an escaped payload ends is never in doubt. -/
namespace MudClient.Telnet

theorem escape_cons (b : UInt8) (r : Bytes) :
    escape (b :: r) = (if b = iac then [iac, iac] else [b]) ++ escape r := rfl

theorem unescape_cons {b : UInt8} (hb : b ≠ iac) (r : Bytes) :
    unescape (b :: r) = b :: unescape r := by
  cases r with
  | nil => rfl
  | cons c r => simp [unescape, hb]

@[simp] theorem unescape_escape (data : Bytes) : unescape (escape data) = data := by
  induction data with
  | nil => rfl
  | cons b r ih =>
    rw [escape_cons]
    split
    · rename_i hb
      simp [unescape, ih, hb]
    · rename_i hb
      rw [List.singleton_append, unescape_cons hb, ih]

/-- Nothing that was escaped ends a subnegotiation. -/
theorem isBody_escape (data : Bytes) : IsBody (escape data) := by
  induction data with
  | nil => exact .nil
  | cons b r ih =>
    rw [escape_cons]
    split
    · exact .pair (by decide) ih
    · rename_i hb
      exact .byte hb ih

/-- An event of its own form: the option of a subnegotiation begins no command, and the commands
that begin something longer do not stand alone. -/
def Event.IsWritable : Event → Prop
  | negotiation _ _ => True
  | subnegotiation option _ => option ≠ iac
  | command c => c ≠ .subnegotiation ∧ ∀ verb, c ≠ .negotiation verb

/-- A piece of a stream that is to be written. -/
inductive Part where
  | data (bytes : Bytes)
  | event (event : Event)

namespace Part

def write : Part → Bytes
  | data bytes => escape bytes
  | event e => e.write

def bytes : Part → Bytes
  | data bytes => bytes
  | event _ => []

def event? : Part → Option Event
  | data _ => none
  | event e => some e

def items : Part → List Item
  | data bytes => bytes.map .data
  | event e => [.event e]

end Part

theorem item?_escape (b : UInt8) (r : Bytes) :
    item? ((if b = iac then [iac, iac] else [b]) ++ r) = some (.data b, r) := by
  split
  · rename_i hb
    simp [item?, hb]
  · rename_i hb
    simp [item?, hb]

theorem items_escape (data r : Bytes) :
    items (escape data ++ r) = (data.map Item.data ++ (items r).1, (items r).2) := by
  induction data with
  | nil => rfl
  | cons b data ih =>
    rw [escape_cons, List.append_assoc, items_of_some (item?_escape b _), ih]
    rfl

theorem item?_write {e : Event} (h : e.IsWritable) (r : Bytes) :
    item? (e.write ++ r) = some (.event e, r) := by
  cases e with
  | negotiation verb option => exact item?_command (.negotiation verb) (option :: r)
  | subnegotiation option payload =>
    have body : subnegotiationBody?
        (option :: escape payload ++ iac :: Command.endSubnegotiation.code :: r) =
          some (option :: escape payload, r) :=
      subnegotiationBody?_eq_some.2 ⟨.byte h (isBody_escape payload), rfl⟩
    have text : (Event.subnegotiation option payload).write ++ r =
        iac :: Command.subnegotiation.code ::
          (option :: escape payload ++ iac :: Command.endSubnegotiation.code :: r) := by
      simp [Event.write]
    rw [text, item?_command, commandItem?, body]
    simp [Item.ofBody]
  | command c =>
    obtain ⟨hs, hn⟩ := h
    have text : (Event.command c).write ++ r = iac :: c.code :: r := rfl
    rw [text, item?_command]
    cases c with
    | subnegotiation => exact absurd rfl hs
    | negotiation verb => exact absurd rfl (hn verb)
    | _ => rfl

theorem items_write {p : Part} (h : ∀ e ∈ p.event?, e.IsWritable) (r : Bytes) :
    items (p.write ++ r) = (p.items ++ (items r).1, (items r).2) := by
  cases p with
  | data bytes => exact items_escape bytes r
  | event e => exact items_of_some (item?_write (h e rfl) r)

theorem items_writes {parts : List Part} (h : ∀ p ∈ parts, ∀ e ∈ p.event?, e.IsWritable) :
    items (parts.flatMap Part.write) = (parts.flatMap Part.items, []) := by
  induction parts with
  | nil => exact items_of_none rfl
  | cons p parts ih =>
    obtain ⟨hp, hparts⟩ := List.forall_mem_cons.1 h
    rw [List.flatMap_cons, items_write hp, ih hparts, List.flatMap_cons]

theorem Part.filterMap_items (p : Part) : p.items.filterMap Item.data? = p.bytes ∧
    p.items.filterMap Item.event? = p.event?.toList := by
  cases p with
  | data bytes =>
    simp [items, Part.bytes, event?, List.filterMap_map, Function.comp_def, Item.data?, Item.event?]
  | event e => exact ⟨rfl, rfl⟩

/-- Whatever text and events a stream is written from, they are read back, the events in their order
and with their payloads, and no byte is left. -/
theorem parse_write {parts : List Part} (h : ∀ p ∈ parts, ∀ e ∈ p.event?, e.IsWritable) :
    let stream := parts.flatMap Part.write
    parse stream = ⟨parts.flatMap Part.bytes, parts.filterMap Part.event?, []⟩ ∧
      consumed stream = stream.length := by
  intro stream
  have read : parse stream = ⟨parts.flatMap Part.bytes, parts.filterMap Part.event?, []⟩ := by
    have data (p : Part) : p.items.filterMap Item.data? = p.bytes := p.filterMap_items.1
    have events (p : Part) : p.items.filterMap Item.event? = p.event?.toList :=
      p.filterMap_items.2
    rw [parse, items_writes h, List.filterMap_eq_flatMap_toList Part.event?]
    simp [List.filterMap_flatMap, data, events]
  exact ⟨read, by rw [consumed, read, List.length_nil, Nat.sub_zero]⟩

/-- A payload and a text of the bytes 255 and 240, which also end a subnegotiation. -/
theorem parse_write_commandBytes :
    let parts : List Part := [.data [255, 240], .event (.subnegotiation 201 [255, 240, 255]),
      .event (.command .endSubnegotiation), .event (.negotiation .will 255), .data [0x21, 255]]
    (∀ p ∈ parts, ∀ e ∈ p.event?, e.IsWritable) ∧ parse (parts.flatMap Part.write) =
      ⟨[255, 240, 0x21, 255], [.subnegotiation 201 [255, 240, 255], .command .endSubnegotiation,
        .negotiation .will 255], []⟩ := by
  intro parts
  have writable : ∀ p ∈ parts, ∀ e ∈ p.event?, e.IsWritable := by
    simp [parts, Part.event?, Event.IsWritable, iac]
  exact ⟨writable, (parse_write writable).1⟩

end MudClient.Telnet
