import MudClient.Ansi
import MudClient.Encoding.Basic
import MudClient.Telnet.Item
import MudClient.Telnet.Link
/-! A connection to a server. Bytes are read into clean text, line by line: what is not complete, be
it a command, a character, an escape sequence or a line, waits for the next read. Answers to offers
and requests of options are queued until something is sent. -/
namespace MudClient.Telnet

structure Connection where
  link : Link
  encoding : Encoding
  bufferSize : Nat
  /-- Bytes of a command that is not complete. -/
  raw : Bytes
  decoder : Encoding.DecoderState
  pendingEscape : Text
  replies : Bytes
  partialLine : Text

namespace Connection

def defaultBufferSize : Nat := 8192

/-- How long connecting may take, in nanoseconds. -/
def connectTimeout : Nat := 30 * 1000000000

/-- What is said of a label that no encoding has. -/
def unknownEncoding (label : Text) : String := s!"不支援的編碼: {String.ofList label}"

/-- The encoding of a label with any white space around it. -/
def encodingOfLabel? (label : Text) : Option Encoding := Encoding.ofLabel? (Text.trim label)

def create (link : Link) (encoding : Encoding) (bufferSize : Nat) : Connection where
  link := link
  encoding := encoding
  bufferSize := bufferSize
  raw := []
  decoder := encoding.initialState
  pendingEscape := []
  replies := []
  partialLine := []

def hasPartial (c : Connection) : Bool := !c.partialLine.isEmpty

def hasReplies (c : Connection) : Bool := !c.replies.isEmpty

/-- The line that is not complete, if there is any of it, and the connection without it. -/
def takePartial (c : Connection) : Option Text × Connection :=
  if c.partialLine.isEmpty then (none, c)
  else (some c.partialLine, { c with partialLine := [] })

def repliesTo (events : List Event) : Bytes :=
  (events.filterMap fun
    | .negotiation verb option => reply? verb option
    | _ => none).flatten

def endsPrompt (events : List Event) : Bool :=
  events.any fun
    | .command c => c.endsPrompt
    | _ => false

/-- The clean text of decoded characters, up to a sequence that is not complete. -/
def cleaned (c : Connection) (decoded : Text) : Text × Connection :=
  let (done, pending) := Ansi.splitPending (c.pendingEscape ++ decoded)
  (Ansi.clean done, { c with pendingEscape := pending })

/-- The text up to its last newline, and what follows that. -/
def splitLastLine (t : Text) : Text × Text :=
  let rest := (t.reverse.takeWhile (· ≠ '\n')).reverse
  (t.take (t.length - rest.length), rest)

/-- Takes bytes in and hands out the lines that are complete. A prompt of which the server marked
the end is complete too. -/
def receive (c : Connection) (bytes : Bytes) : Text × Connection :=
  let p := parse (c.raw ++ bytes)
  let (decoded, decoder) := c.encoding.decode c.decoder p.data
  let c := { c with raw := p.left, decoder := decoder, replies := c.replies ++ repliesTo p.events }
  let (text, c) := c.cleaned decoded
  let text := c.partialLine ++ text
  if endsPrompt p.events then (text, { c with partialLine := [] })
  else
    let (lines, rest) := splitLastLine text
    (lines, { c with partialLine := rest })

/-- Reads once. At the end of the stream the line that is not complete comes first, and then
nothing. -/
def readText (c : Connection) : Except LinkError (Option Text) × Connection :=
  match c.link.read c.bufferSize with
  | (.error e, link) => (.error e, { c with link := link })
  | (.ok [], link) =>
    let (rest, c) := { c with link := link }.takePartial
    (.ok rest, c)
  | (.ok bytes, link) =>
    let (text, c) := { c with link := link }.receive bytes
    (.ok (some text), c)

/-- Sends the answers that are queued. They are gone even if that fails. -/
def flushReplies (c : Connection) : Except LinkError Unit × Connection :=
  if c.replies.isEmpty then (.ok (), c)
  else
    let (result, link) := c.link.write c.replies
    (result, { c with link := link, replies := [] })

def lineBytes (e : Encoding) (text : Text) : Bytes := escape (e.encode text) ++ [13, 10]

/-- Sends a line, after the answers that are queued. -/
def sendLine (c : Connection) (text : Text) : Except LinkError Unit × Connection :=
  match c.flushReplies with
  | (.error e, c) => (.error e, c)
  | (.ok (), c) =>
    let (result, link) := c.link.write (lineBytes c.encoding text)
    (result, { c with link := link })

end Connection
end MudClient.Telnet
