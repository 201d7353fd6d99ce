import MudClient.Encoding.Reading
/-! A stream in memory: what comes in is queued, and what goes out is kept. Either side may fail. -/
namespace MudClient.Telnet

inductive Incoming where
  | chunk (bytes : Bytes)
  | failure
  deriving DecidableEq, Repr

inductive LinkError where
  | connectionFailed
  deriving DecidableEq, Repr

structure Link where
  incoming : List Incoming
  /-- What was written since it was last taken. -/
  written : Bytes
  /-- Every write fails. -/
  broken : Bool
  deriving DecidableEq, Repr

namespace Link

def open_ : Link := ⟨[], [], false⟩

def queue (l : Link) (i : Incoming) : Link := { l with incoming := l.incoming ++ [i] }

/-- Reads at most `size` bytes. Of a longer chunk the rest waits; no bytes are the end of the
stream. -/
def read (l : Link) (size : Nat) : Except LinkError Bytes × Link :=
  match l.incoming with
  | [] => (.ok [], l)
  | .failure :: rest => (.error .connectionFailed, { l with incoming := rest })
  | .chunk bytes :: rest =>
    let left := bytes.drop size
    (.ok (bytes.take size),
      { l with incoming := if left.isEmpty then rest else .chunk left :: rest })

def write (l : Link) (bytes : Bytes) : Except LinkError Unit × Link :=
  if l.broken then (.error .connectionFailed, l)
  else (.ok (), { l with written := l.written ++ bytes })

/-- What was written, and the stream without it. -/
def takeWritten (l : Link) : Bytes × Link := (l.written, { l with written := [] })

end Link
end MudClient.Telnet
