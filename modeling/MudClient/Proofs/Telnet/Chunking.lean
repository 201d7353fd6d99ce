import MudClient.Proofs.Encoding.Stream
import MudClient.Proofs.Telnet.Escape
import MudClient.Proofs.Telnet.Stream
import MudClient.Telnet.Connection
/-! How the network cuts a stream does not matter. What a connection holds after some bytes is a
function of these bytes alone; only where the text was cut into lines and prompts depends on the
chunks. -/
namespace MudClient.Telnet.Connection

open Ansi (ShortRuns ShortSequences clean splitPending)

def decoded (e : Encoding) (bytes : Bytes) : Text :=
  (e.decode e.initialState (parse bytes).data).1

/-- A connection that took these bytes in and handed this text out. -/
structure Received (e : Encoding) (bytes : Bytes) (given : Text) (c : Connection) : Prop where
  encoding : c.encoding = e
  raw : c.raw = (parse bytes).left
  decoder : c.decoder = (e.decode e.initialState (parse bytes).data).2
  replies : c.replies = repliesTo (parse bytes).events
  pendingEscape : c.pendingEscape = (splitPending (decoded e bytes)).2
  text : given ++ c.partialLine = clean (splitPending (decoded e bytes)).1
  partialLine : '\n' ∉ c.partialLine

/-- The text of these bytes, up to a sequence that is not complete. -/
def released (e : Encoding) (bytes : Bytes) : Text := (splitPending (decoded e bytes)).1

theorem decoded_nil (e : Encoding) : decoded e [] = [] := by
  have nothing : parse [] = ⟨[], [], []⟩ := by
    rw [parse, items_of_none rfl]
    rfl
  rw [decoded, nothing, e.decode_nil]

theorem repliesTo_append (a b : List Event) : repliesTo (a ++ b) = repliesTo a ++ repliesTo b := by
  simp [repliesTo]

theorem splitLastLine_append (t : Text) : (splitLastLine t).1 ++ (splitLastLine t).2 = t := by
  have split := List.takeWhile_append_dropWhile (p := (· ≠ '\n')) (l := t.reverse)
  have ht : t = (t.reverse.dropWhile (· ≠ '\n')).reverse ++
      (t.reverse.takeWhile (· ≠ '\n')).reverse := by
    rw [← List.reverse_append, split, List.reverse_reverse]
  suffices ∀ lines rest, t = lines ++ rest → t.take (t.length - rest.length) ++ rest = t from
    this _ _ ht
  rintro lines rest rfl
  simp

theorem not_mem_splitLastLine (t : Text) : '\n' ∉ (splitLastLine t).2 := by
  intro h
  have := List.mem_takeWhile_imp (List.mem_reverse.1 h)
  simp at this

theorem decoded_append (e : Encoding) (a b : Bytes) : decoded e (a ++ b) =
    decoded e a ++ (e.decode (e.decode e.initialState (parse a).data).2
      (parse ((parse a).left ++ b)).data).1 := by
  rw [decoded, parse_append, Encoding.decode_append]
  rfl

/-- The text that more bytes release. -/
def releasedAfter (e : Encoding) (bytes more : Bytes) : Text :=
  (splitPending ((splitPending (decoded e bytes)).2 ++
    (e.decode (e.decode e.initialState (parse bytes).data).2
      (parse ((parse bytes).left ++ more)).data).1)).1

theorem released_append (e : Encoding) (a b : Bytes) :
    released e (a ++ b) = released e a ++ releasedAfter e a b := by
  rw [released, decoded_append, Ansi.splitPending_append]
  rfl

/-- The text that is handed out, and the line that is kept. -/
def cutLines (events : List Event) (t : Text) : Text × Text :=
  if endsPrompt events then (t, []) else splitLastLine t

theorem cutLines_append (events : List Event) (t : Text) :
    (cutLines events t).1 ++ (cutLines events t).2 = t := by
  unfold cutLines
  split
  · simp
  · exact splitLastLine_append t

theorem not_mem_cutLines (events : List Event) (t : Text) : '\n' ∉ (cutLines events t).2 := by
  unfold cutLines
  split
  · exact List.not_mem_nil
  · exact not_mem_splitLastLine t

theorem receive_eq (c : Connection) (chunk : Bytes) :
    let p := parse (c.raw ++ chunk)
    let d := c.encoding.decode c.decoder p.data
    let s := splitPending (c.pendingEscape ++ d.1)
    let lines := cutLines p.events (c.partialLine ++ clean s.1)
    c.receive chunk = (lines.1, { c with
      raw := p.left, decoder := d.2, pendingEscape := s.2,
      replies := c.replies ++ repliesTo p.events, partialLine := lines.2 }) := by
  unfold receive cleaned cutLines
  dsimp only
  split <;> rfl

theorem link_receive (c : Connection) (chunk : Bytes) : (c.receive chunk).2.link = c.link := by
  rw [receive_eq]

theorem bufferSize_receive (c : Connection) (chunk : Bytes) :
    (c.receive chunk).2.bufferSize = c.bufferSize := by
  rw [receive_eq]

/-- A connection that took these bytes in, whatever its texts are. -/
structure Fed (e : Encoding) (bytes : Bytes) (c : Connection) : Prop where
  encoding : c.encoding = e
  raw : c.raw = (parse bytes).left
  decoder : c.decoder = (e.decode e.initialState (parse bytes).data).2
  pendingEscape : c.pendingEscape = (splitPending (decoded e bytes)).2

theorem Received.fed {e : Encoding} {bytes : Bytes} {given : Text} {c : Connection}
    (h : c.Received e bytes given) : c.Fed e bytes :=
  ⟨h.encoding, h.raw, h.decoder, h.pendingEscape⟩

theorem Fed.receive {e : Encoding} {bytes : Bytes} {c : Connection} (h : c.Fed e bytes)
    (chunk : Bytes) : (c.receive chunk).2.Fed e (bytes ++ chunk) := by
  obtain ⟨rfl, raw, decoder, pendingEscape⟩ := h
  have parsed := parse_append bytes chunk
  rw [receive_eq]
  constructor
  case encoding => rfl
  case raw => simp only [parsed, raw]
  case decoder => simp only [parsed, raw, decoder, Encoding.decode_append]
  case pendingEscape =>
    rw [decoded_append, Ansi.splitPending_append (decoded c.encoding bytes)]
    simp only [raw, decoder, pendingEscape]

/-- The text is cut with what was kept in front of it. -/
theorem Fed.receive_texts {e : Encoding} {bytes : Bytes} {c : Connection} (h : c.Fed e bytes)
    (chunk : Bytes) : ((c.receive chunk).1, (c.receive chunk).2.partialLine) =
      cutLines (parse ((parse bytes).left ++ chunk)).events
        (c.partialLine ++ clean (releasedAfter e bytes chunk)) := by
  obtain ⟨rfl, raw, decoder, pendingEscape⟩ := h
  rw [receive_eq, releasedAfter]
  simp only [raw, decoder, pendingEscape]

theorem Received.receive {e : Encoding} {bytes : Bytes} {given : Text} {c : Connection}
    (h : c.Received e bytes given) (chunk : Bytes)
    (apart : Ansi.IsApart (released e bytes) (releasedAfter e bytes chunk)) :
    (c.receive chunk).2.Received e (bytes ++ chunk) (given ++ (c.receive chunk).1) := by
  have fed := h.fed.receive chunk
  have texts := h.fed.receive_texts chunk
  have parsed := parse_append bytes chunk
  have lines : (c.receive chunk).1 ++ (c.receive chunk).2.partialLine =
      c.partialLine ++ clean (releasedAfter e bytes chunk) := by
    have whole := cutLines_append (parse ((parse bytes).left ++ chunk)).events
      (c.partialLine ++ clean (releasedAfter e bytes chunk))
    rwa [← texts] at whole
  refine ⟨fed.encoding, fed.raw, fed.decoder, ?replies, fed.pendingEscape, ?text, ?partialLine⟩
  case replies =>
    rw [receive_eq]
    simp only [parsed, h.raw, h.replies, repliesTo_append]
  case text =>
    have text : given ++ c.partialLine = clean (released e bytes) := h.text
    rw [List.append_assoc, lines, ← List.append_assoc, text, ← apart.clean_append,
      ← released_append, released]
  case partialLine =>
    have kept := not_mem_cutLines (parse ((parse bytes).left ++ chunk)).events
      (c.partialLine ++ clean (releasedAfter e bytes chunk))
    rwa [← texts] at kept

def readTexts : Nat → Connection → List (Except LinkError (Option Text)) × Connection
  | 0, c => ([], c)
  | n + 1, c =>
    let (result, c) := c.readText
    let (results, c) := readTexts n c
    (result :: results, c)

/-- A connection to which nothing has come yet, with the chunks that will. -/
def fresh (e : Encoding) (size : Nat) (chunks : List Bytes) : Connection :=
  create ⟨chunks.map .chunk, [], false⟩ e size

/-- Chunks that each are read at once, and are not the end of the stream. -/
def Fits (size : Nat) (chunks : List Bytes) : Prop :=
  ∀ chunk ∈ chunks, chunk ≠ [] ∧ chunk.length ≤ size

theorem readText_eq {c : Connection} {chunk : Bytes} {incoming : List Incoming}
    (hl : c.link.incoming = .chunk chunk :: incoming) (hn : chunk ≠ [])
    (hs : chunk.length ≤ c.bufferSize) :
    c.readText = (.ok (some ({ c with link := { c.link with incoming } }.receive chunk).1),
      ({ c with link := { c.link with incoming } }.receive chunk).2) := by
  have hr : c.link.read c.bufferSize = (.ok chunk, { c.link with incoming }) := by
    simp [Link.read, hl, List.take_of_length_le hs, List.drop_of_length_le hs]
  unfold readText
  rw [hr]
  cases chunk with
  | nil => exact absurd rfl hn
  | cons b r => rfl

/-- Every chunk gives a text, and together they are what the whole stream gives. -/
theorem readTexts_received {e : Encoding} {size : Nat} {chunks : List Bytes} {bytes : Bytes}
    {given : Text} {c : Connection} (hc : c.Received e bytes given)
    (hl : c.link.incoming = chunks.map .chunk) (hb : c.bufferSize = size) (hf : Fits size chunks)
    (hs : ShortRuns (decoded e (bytes ++ chunks.flatten))) :
    ∃ (texts : List Text) (last : Connection),
      readTexts chunks.length c = (texts.map fun t => .ok (some t), last) ∧
      last.Received e (bytes ++ chunks.flatten) (given ++ texts.flatten) := by
  induction chunks generalizing bytes given c with
  | nil => exact ⟨[], c, rfl, by simpa using hc⟩
  | cons chunk chunks ih =>
    obtain ⟨⟨hn, hlen⟩, hf⟩ := List.forall_mem_cons.1 hf
    have hr := readText_eq hl hn (hb ▸ hlen)
    have hstart : ({ c with link := { c.link with incoming := chunks.map .chunk } } :
        Connection).Received e bytes given := ⟨hc.1, hc.2, hc.3, hc.4, hc.5, hc.6, hc.7⟩
    rw [List.flatten_cons, ← List.append_assoc] at hs ⊢
    have hshort : ShortRuns (decoded e (bytes ++ chunk)) := by
      rw [decoded_append] at hs
      exact hs.of_append
    rw [decoded_append] at hshort
    have hnext := hstart.receive chunk hshort.shortSequences.isApart
    obtain ⟨texts, last, hrun, hlast⟩ := ih hnext (by rw [link_receive])
      (by rw [bufferSize_receive, hb]) hf hs
    refine ⟨_ :: texts, last, ?_, by rwa [List.flatten_cons, ← List.append_assoc]⟩
    simp only [List.length_cons, readTexts, hr, hrun, List.map_cons]

theorem received_fresh (e : Encoding) (size : Nat) (chunks : List Bytes) :
    (fresh e size chunks).Received e [] [] := by
  have nothing : parse [] = ⟨[], [], []⟩ := by
    rw [parse, items_of_none rfl]
    rfl
  have decode : e.decode e.initialState [] = ([], e.initialState) := e.decode_nil _
  have split : splitPending [] = ([], []) := rfl
  constructor
  case encoding => rfl
  case raw => rw [nothing]; rfl
  case decoder => rw [nothing, decode]; rfl
  case replies => rw [nothing]; rfl
  case pendingEscape => rw [decoded_nil, split]; rfl
  case text => rw [decoded_nil, split]; simp [fresh, create, clean, Ansi.strip]
  case partialLine => exact List.not_mem_nil

/-- However a stream is cut, a connection hands out and keeps the same text, holds back the same
bytes and the same unfinished sequence, and has the same answers to send. -/
theorem readTexts_eq_of_flatten_eq (e : Encoding) (size : Nat) {a b : List Bytes}
    (ha : Fits size a) (hb : Fits size b) (h : a.flatten = b.flatten)
    (hs : ShortRuns (decoded e a.flatten)) :
    ∃ (texts texts' : List Text) (c c' : Connection),
      readTexts a.length (fresh e size a) = (texts.map fun t => .ok (some t), c) ∧
      readTexts b.length (fresh e size b) = (texts'.map fun t => .ok (some t), c') ∧
      texts.flatten ++ c.partialLine = texts'.flatten ++ c'.partialLine ∧
      c.pendingEscape = c'.pendingEscape ∧ c.replies = c'.replies ∧ c.raw = c'.raw ∧
      '\n' ∉ c.partialLine ∧ '\n' ∉ c'.partialLine := by
  obtain ⟨texts, c, hrun, hc⟩ := readTexts_received (received_fresh e size a) rfl rfl ha hs
  obtain ⟨texts', c', hrun', hc'⟩ := readTexts_received (received_fresh e size b) rfl rfl hb
    (h ▸ hs)
  rw [← h] at hc'
  exact ⟨texts, texts', c, c', hrun, hrun', hc.text.trans hc'.text.symm,
    hc.pendingEscape.trans hc'.pendingEscape.symm, hc.replies.trans hc'.replies.symm,
    hc.raw.trans hc'.raw.symm, hc.partialLine, hc'.partialLine⟩

/-- A character, a sequence and the end of a line are cut, and a prompt is marked between. -/
theorem readTexts_eq_of_cut : ∃ (texts texts' : List Text) (c c' : Connection),
    readTexts 4 (fresh .utf8 8 [[0xE4, 0xBD], [0xA0, 0x1B, 0x5B, 0x33, 0x31], [0x6D, 0xFF],
      [0xF9, 0x0D, 0x0A, 0x3E]]) = (texts.map fun t => .ok (some t), c) ∧
    readTexts 2 (fresh .utf8 8 [[0xE4, 0xBD, 0xA0, 0x1B, 0x5B, 0x33, 0x31, 0x6D],
      [0xFF, 0xF9, 0x0D, 0x0A, 0x3E]]) = (texts'.map fun t => .ok (some t), c') ∧
    texts.flatten ++ c.partialLine = texts'.flatten ++ c'.partialLine ∧
    c.pendingEscape = c'.pendingEscape ∧ c.replies = c'.replies ∧ c.raw = c'.raw ∧
    '\n' ∉ c.partialLine ∧ '\n' ∉ c'.partialLine := by
  have text : decoded .utf8 [0xE4, 0xBD, 0xA0, 0x1B, 0x5B, 0x33, 0x31, 0x6D, 0xFF, 0xF9, 0x0D,
      0x0A, 0x3E] = "你\x1b[31m\r\n>".toList := by
    have data : (parse [0xE4, 0xBD, 0xA0, 0x1B, 0x5B, 0x33, 0x31, 0x6D, 0xFF, 0xF9, 0x0D, 0x0A,
        0x3E]).data = [0xE4, 0xBD, 0xA0, 0x1B, 0x5B, 0x33, 0x31, 0x6D, 0x0D, 0x0A, 0x3E] := by
      decide +kernel
    rw [decoded, data]
    simp [Encoding.decode, Encoding.initialState, Encoding.reading, Encoding.Reading.run,
      Encoding.Reading.char, Encoding.Utf8.read, Encoding.Utf8.isSecond, Encoding.Utf8.isNext,
      Encoding.Utf8.low]
  exact readTexts_eq_of_flatten_eq .utf8 8
    (a := [[0xE4, 0xBD], [0xA0, 0x1B, 0x5B, 0x33, 0x31], [0x6D, 0xFF], [0xF9, 0x0D, 0x0A, 0x3E]])
    (b := [[0xE4, 0xBD, 0xA0, 0x1B, 0x5B, 0x33, 0x31, 0x6D], [0xFF, 0xF9, 0x0D, 0x0A, 0x3E]])
    (by unfold Fits; decide) (by unfold Fits; decide) rfl
    (Ansi.shortRuns_of_utf8Length (text.symm ▸ (by decide)))

end MudClient.Telnet.Connection
