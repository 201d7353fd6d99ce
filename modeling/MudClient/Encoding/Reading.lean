import MudClient.Text
/-! Reading characters from bytes as they come. Only the bytes of a character that is not complete
are kept, so it does not matter how a stream of bytes is cut. -/
namespace MudClient

abbrev Bytes := List UInt8

namespace Encoding

/-- Stands for bytes that are no character. -/
def replacementChar : Char := '\ufffd'

/-- What the bytes of a character that is being read stand for. -/
inductive Reading where
  /-- More bytes have to come. -/
  | more
  | text (t : Text)
  /-- The first byte and `spent` others are no character; the rest is read again. -/
  | bad (spent : Nat)

namespace Reading

def char (n : Nat) : Reading := .text [Char.ofNat n]

/-- Reads bytes one after the other behind those that are kept: the text, and the bytes that are
kept then. -/
def run (read : Bytes → Reading) (kept : Bytes) : Bytes → Text × Bytes
  | [] => ([], kept)
  | b :: rest =>
    match read (kept ++ [b]) with
    | .more => run read (kept ++ [b]) rest
    | .text t =>
      let (later, left) := run read [] rest
      (t ++ later, left)
    | .bad spent =>
      let (later, left) := run read [] ((kept ++ [b]).drop (spent + 1) ++ rest)
      (replacementChar :: later, left)
termination_by bytes => (kept.length + bytes.length, bytes.length)
decreasing_by
  · simp only [Prod.lex_def, List.length_append, List.length_cons, List.length_nil]
    omega
  · simp only [Prod.lex_def, List.length_cons, List.length_nil]
    omega
  · simp only [Prod.lex_def, List.length_append, List.length_cons, List.length_nil,
      List.length_drop]
    omega

end Reading
end Encoding
end MudClient
