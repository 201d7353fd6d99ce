import MudClient.Unicode.LetterCase
/-! Wildcard patterns: a star stands for any characters but newlines, as few as possible; all else
stands for itself in either case. The whole text has to match. -/
namespace MudClient.Wildcard

/-- `a` starts `t` up to case: what follows it. -/
def dropFolded? : Text → Text → Option Text
  | [], t => some t
  | _ :: _, [] => none
  | c :: a, d :: t => if Unicode.EqFold c d then dropFolded? a t else none

/-- An answer for each end of a text, the whole of it first. -/
abbrev Row := List (Option (List Text))

/-- What the stars stand for if no piece is left: the text has to be at its end. -/
def endRow : Text → Row
  | [] => [some []]
  | _ :: r => none :: endRow r

/-- A star and then `piece`, for each end of the text; `row` has the answers for what follows. The
star takes nothing if it can, and else one more character. -/
def starRow (piece : Text) (row : Row) : Text → Row
  | [] => [here []]
  | c :: r =>
    let later := starRow piece row.tail r
    let longer := if c = '\n' then none else
      match later with
      | some (w :: ws) :: _ => some ((c :: w) :: ws)
      | _ => none
    (here (c :: r) <|> longer) :: later
where
  /-- The star stands for nothing. -/
  here (t : Text) : Option (List Text) :=
    match dropFolded? piece t with
    | none => none
    | some _ => ((row.drop piece.length).head?.join).map ([] :: ·)

/-- The rows of several pieces, each after a star. -/
def rows (t : Text) : List Text → Row
  | [] => endRow t
  | piece :: pieces => starRow piece (rows t pieces) t

/-- What the stars stand for. The first piece stands at the start of the text. -/
def match? (first : Text) (pieces : List Text) (t : Text) : Option (List Text) :=
  (dropFolded? first t).bind fun rest => (rows rest pieces).head?.join

end MudClient.Wildcard
