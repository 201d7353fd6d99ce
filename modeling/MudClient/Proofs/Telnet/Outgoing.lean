import Mathlib.Data.List.Induction
import MudClient.Proofs.Telnet.Chunking
import MudClient.Proofs.Telnet.Written
/-! What goes out to the server. Whatever is done with a connection, its bytes are read back as the
lines that were sent and the answers to what the server asked and offered: one answer each, in the
order in which the server spoke, and those that are not written yet are queued. -/
namespace MudClient.Telnet

/-- The answers to the offers and requests among these events. -/
def answers (events : List Event) : List Event :=
  events.filterMap fun
    | .negotiation verb option => (answer? verb option).map (.negotiation · option)
    | _ => none

theorem answers_append (a b : List Event) : answers (a ++ b) = answers a ++ answers b :=
  List.filterMap_append

theorem isWritable_of_mem_answers {e : Event} {events : List Event} (h : e ∈ answers events) :
    e.IsWritable := by
  obtain ⟨asked, -, h⟩ := List.mem_filterMap.1 h
  cases asked with
  | negotiation verb option =>
    obtain ⟨answer, -, rfl⟩ := Option.map_eq_some_iff.1 h
    trivial
  | subnegotiation | command => cases h

theorem repliesTo_eq (events : List Event) :
    Connection.repliesTo events = (answers events).flatMap Event.write := by
  induction events with
  | nil => rfl
  | cons e events ih =>
    have first : Connection.repliesTo [e] = (answers [e]).flatMap Event.write := by
      cases e with
      | negotiation verb option =>
        cases h : answer? verb option <;> simp [Connection.repliesTo, answers, reply?, h, Event.write]
      | subnegotiation | command => rfl
    rw [← List.singleton_append, Connection.repliesTo_append, answers_append, List.flatMap_append,
      first, ih]

/-- Nothing that is written later changes what was written. -/
theorem parse_append_of_left {a : Bytes} (h : (parse a).left = []) (b : Bytes) : parse (a ++ b) =
    ⟨(parse a).data ++ (parse b).data, (parse a).events ++ (parse b).events, (parse b).left⟩ := by
  rw [parse_append, h, List.nil_append]

theorem parse_escape (data : Bytes) : parse (escape data) = ⟨data, [], []⟩ := by
  have nothing : items [] = ([], []) := items_of_none rfl
  have read := items_escape data []
  rw [List.append_nil, nothing] at read
  simp [parse, read, List.filterMap_map, Function.comp_def, Item.data?, Item.event?]

theorem parse_events {events : List Event} (h : ∀ e ∈ events, e.IsWritable) :
    parse (events.flatMap Event.write) = ⟨[], events, []⟩ := by
  have read : items (events.flatMap Event.write) = (events.map .event, []) := by
    induction events with
    | nil => exact items_of_none rfl
    | cons e events ih =>
      obtain ⟨he, hevents⟩ := List.forall_mem_cons.1 h
      rw [List.flatMap_cons, items_of_some (item?_write he _), ih hevents, List.map_cons]
  simp [parse, read, List.filterMap_map, Function.comp_def, Item.data?, Item.event?]

namespace Connection

/-- What may be done with a connection. -/
inductive Operation where
  | read
  | take
  | flush
  | send (text : Text)
  deriving DecidableEq, Repr

def perform (c : Connection) : Operation → Connection
  | .read => c.readText.2
  | .take => c.takePartial.2
  | .flush => c.flushReplies.2
  | .send text => (c.sendLine text).2

def performAll (c : Connection) (operations : List Operation) : Connection :=
  operations.foldl perform c

/-- The bytes that come in with an operation. -/
def incomingBytes (c : Connection) : Operation → Bytes
  | .read => (c.link.read c.bufferSize).1.toOption.getD []
  | _ => []

/-- The bytes that came in with all of them. -/
def receivedBytes (c : Connection) : List Operation → Bytes
  | [] => []
  | o :: rest => c.incomingBytes o ++ (c.perform o).receivedBytes rest

def Operation.writes : Operation → Bool
  | flush | send _ => true
  | read | take => false

def Operation.line? : Operation → Option Text
  | send text => some text
  | _ => none

/-- The operations up to the last one that wrote. -/
def untilWrite (operations : List Operation) : List Operation :=
  (operations.reverse.dropWhile (!·.writes)).reverse

theorem performAll_concat (c : Connection) (operations : List Operation) (o : Operation) :
    c.performAll (operations ++ [o]) = (c.performAll operations).perform o := by
  simp [performAll]

theorem receivedBytes_concat (c : Connection) (operations : List Operation) (o : Operation) :
    c.receivedBytes (operations ++ [o]) =
      c.receivedBytes operations ++ (c.performAll operations).incomingBytes o := by
  induction operations generalizing c with
  | nil => simp [receivedBytes, performAll]
  | cons first rest ih => simp [receivedBytes, performAll, ih]

theorem untilWrite_concat (operations : List Operation) (o : Operation) :
    untilWrite (operations ++ [o]) =
      bif o.writes then operations ++ [o] else untilWrite operations := by
  rw [untilWrite, List.reverse_concat, List.dropWhile_cons]
  cases o.writes <;> simp [untilWrite]

/-- A connection that took these bytes in. What it wrote is read as this data and these answers, and
these answers are queued. -/
structure Accounts (e : Encoding) (received data : Bytes) (flushed queued : List Event)
    (c : Connection) : Prop where
  encoding : c.encoding = e
  intact : c.link.broken = false
  raw : c.raw = (parse received).left
  written : parse c.link.written = ⟨data, flushed, []⟩
  replies : c.replies = queued.flatMap Event.write
  answered : flushed ++ queued = answers (parse received).events

variable {e : Encoding} {received data : Bytes} {flushed queued : List Event} {c : Connection}

theorem accounts_create (e : Encoding) (size : Nat) (incoming : List Incoming) :
    (create ⟨incoming, [], false⟩ e size).Accounts e [] [] [] [] := by
  have nothing : parse [] = ⟨[], [], []⟩ := parse_escape []
  constructor
  case encoding => rfl
  case intact => rfl
  case raw => rw [nothing]; rfl
  case written => exact nothing
  case replies => rfl
  case answered => rw [nothing]; rfl

theorem Accounts.takePartial (h : c.Accounts e received data flushed queued) :
    c.takePartial.2.Accounts e received data flushed queued := by
  unfold Connection.takePartial
  split
  · exact h
  · exact { h with }

theorem Accounts.receive (h : c.Accounts e received data flushed queued) (bytes : Bytes) :
    ∃ more, (c.receive bytes).2.Accounts e (received ++ bytes) data flushed (queued ++ more) := by
  have parsed := parse_append received bytes
  rw [receive_eq]
  refine ⟨answers (parse (c.raw ++ bytes)).events, ?_⟩
  constructor
  case encoding => exact h.encoding
  case intact => exact h.intact
  case raw => simp only [parsed, h.raw]
  case written => exact h.written
  case replies => simp only [h.replies, repliesTo_eq, List.flatMap_append]
  case answered =>
    rw [parsed, answers_append, ← h.answered, h.raw, List.append_assoc]

theorem Accounts.read (h : c.Accounts e received data flushed queued) : ∃ more,
    (c.perform .read).Accounts e (received ++ c.incomingBytes .read) data flushed (queued ++ more) := by
  have kept : (c.link.read c.bufferSize).2.written = c.link.written ∧
      (c.link.read c.bufferSize).2.broken = c.link.broken := by
    unfold Link.read
    split <;> exact ⟨rfl, rfl⟩
  rw [perform, incomingBytes, readText]
  cases hr : c.link.read c.bufferSize with
  | mk result link =>
    rw [hr] at kept
    have start : ({ c with link } : Connection).Accounts e received data flushed queued :=
      { h with intact := kept.2.trans h.intact, written := kept.1 ▸ h.written }
    cases result with
    | error error => exact ⟨[], by simpa [Except.toOption] using start⟩
    | ok bytes =>
      cases bytes with
      | nil => exact ⟨[], by simpa [Except.toOption] using start.takePartial⟩
      | cons b r => exact start.receive (b :: r)

theorem Accounts.flush (h : c.Accounts e received data flushed queued) :
    c.flushReplies.1 = .ok () ∧
      c.flushReplies.2.Accounts e received data (flushed ++ queued) [] := by
  have written : parse (c.link.written ++ c.replies) = ⟨data, flushed ++ queued, []⟩ := by
    have writable : ∀ e ∈ queued, e.IsWritable := fun e he =>
      isWritable_of_mem_answers (h.answered ▸ List.mem_append_right flushed he)
    rw [parse_append_of_left (by rw [h.written]), h.written, h.replies, parse_events writable]
    simp
  have answered : flushed ++ queued ++ [] = answers (parse received).events := by
    rw [List.append_nil]
    exact h.answered
  unfold flushReplies
  split
  · rename_i none
    rw [List.isEmpty_iff.1 none, List.append_nil] at written
    exact ⟨rfl, { h with written, answered, replies := List.isEmpty_iff.1 none }⟩
  · rw [Link.write, if_neg (by simp [h.intact])]
    exact ⟨rfl, { h with written, answered, replies := rfl }⟩

/-- A line follows the answers, and nothing is queued then. -/
theorem Accounts.send (h : c.Accounts e received data flushed queued) (text : Text) :
    (c.sendLine text).1 = .ok () ∧ (c.sendLine text).2.Accounts e received
      (data ++ (e.encode text ++ [13, 10])) (flushed ++ queued) [] := by
  obtain ⟨ok, next⟩ := h.flush
  have line : lineBytes e text = escape (e.encode text ++ [13, 10]) := by
    rw [lineBytes, escape, escape, List.flatMap_append]
    rfl
  unfold sendLine
  generalize c.flushReplies = flushed' at ok next
  obtain ⟨result, d⟩ := flushed'
  cases ok
  dsimp only at next ⊢
  rw [Link.write, if_neg (by simp [next.intact])]
  refine ⟨rfl, { next with written := ?_ }⟩
  rw [parse_append_of_left (by rw [next.written]), next.written, next.encoding, line, parse_escape]
  simp

/-- What is sent for lines. -/
def linesData (e : Encoding) (operations : List Operation) : Bytes :=
  (operations.filterMap Operation.line?).flatMap fun text => e.encode text ++ [13, 10]

theorem linesData_concat (e : Encoding) (operations : List Operation) (o : Operation) :
    linesData e (operations ++ [o]) =
      linesData e operations ++ o.line?.elim [] fun text => e.encode text ++ [13, 10] := by
  cases h : o.line? <;> simp [linesData, h]

/-- The answers to all that had come in when these operations were done. -/
def answersTo (start : Connection) (operations : List Operation) : List Event :=
  answers (parse (start.receivedBytes operations)).events

theorem receivedBytes_write (start : Connection) (operations : List Operation) {o : Operation}
    (h : o.writes) : start.receivedBytes (operations ++ [o]) = start.receivedBytes operations := by
  rw [receivedBytes_concat]
  cases o with
  | read | take => cases h
  | flush | send => exact List.append_nil _

/-- What was flushed are the answers to what had come in before the last write. -/
theorem Accounts.performAll {start : Connection} (h : start.Accounts e [] [] [] [])
    (operations : List Operation) : ∃ queued, (start.performAll operations).Accounts e
      (start.receivedBytes operations) (linesData e operations)
      (answersTo start (untilWrite operations)) queued := by
  have nothing : answersTo start [] = [] := h.answered.symm
  induction operations using List.reverseRecOn with
  | nil => exact ⟨[], nothing.symm ▸ h⟩
  | append_singleton operations o ih =>
    obtain ⟨queued, ih⟩ := ih
    rw [performAll_concat, untilWrite_concat, linesData_concat]
    cases o with
    | read =>
      obtain ⟨more, next⟩ := ih.read
      rw [← List.append_nil (linesData e operations), ← receivedBytes_concat] at next
      exact ⟨queued ++ more, next⟩
    | take =>
      have next := ih.takePartial
      rw [← List.append_nil (linesData e operations),
        ← List.append_nil (start.receivedBytes operations)] at next
      rw [receivedBytes_concat]
      exact ⟨queued, next⟩
    | flush =>
      have next := ih.flush.2
      rw [ih.answered, ← List.append_nil (linesData e operations),
        ← receivedBytes_write start operations (o := .flush) rfl] at next
      exact ⟨[], next⟩
    | send text =>
      have next := (ih.send text).2
      rw [ih.answered, ← receivedBytes_write start operations (o := .send text) rfl] at next
      exact ⟨[], next⟩

/-- What goes out is read back without a rest: as data, the lines that were sent, each with its end,
and as events the answers to what had come in before the last write, which are one for each offer and
request that is answered, in the order in which they came. The answers to what came in since then are
queued, and nothing is right after a write. -/
theorem parse_written (e : Encoding) (size : Nat) (incoming : List Incoming)
    (operations : List Operation) :
    let start := create ⟨incoming, [], false⟩ e size
    let c := start.performAll operations
    parse c.link.written =
      ⟨linesData e operations, answersTo start (untilWrite operations), []⟩ ∧
    consumed c.link.written = c.link.written.length ∧
    ∃ queued, c.replies = queued.flatMap Event.write ∧
      answersTo start (untilWrite operations) ++ queued = answersTo start operations ∧
      ∀ o ∈ operations.getLast?, o.writes → c.replies = [] := by
  intro start c
  obtain ⟨queued, h⟩ := (accounts_create e size incoming).performAll operations
  refine ⟨h.written, ?_, queued, h.replies, h.answered, ?_⟩
  · rw [consumed, h.written, List.length_nil, Nat.sub_zero]
  · intro o ho writes
    obtain ⟨before, rfl⟩ := List.getLast?_eq_some_iff.1 ho
    have answered := h.answered
    rw [untilWrite_concat, writes, cond_true] at answered
    rw [h.replies, List.append_right_eq_self.1 answered, List.flatMap_nil]

end Connection
end MudClient.Telnet
