import MudClient.Number.Binary64
import MudClient.Text
/-! How long a pause lasts: a number of seconds, or a range of which any number may be drawn. What
is not a nonnegative number counts as zero. -/
namespace MudClient.Script

/-- A span of time, or a time since the start, in nanoseconds. -/
abbrev Nanos := Nat

def nanosPerSecond : Nat := 1000000000

/-- Bounds in seconds. -/
structure Delay where
  min : Number.Binary64
  max : Number.Binary64
  ordered : min.le max
  deriving DecidableEq

/-- What chance decides. Whatever draws a number has a place of its own, which is told by a path, so
each draws for itself, even if both draw from the same range. -/
class Chance where
  draw : List Nat → Delay → Number.Binary64
  min_le : ∀ place (d : Delay), d.min.le (draw place d)
  le_max : ∀ place (d : Delay), (draw place d).le d.max

/-- Chance as it is below a place. -/
@[reducible] def Chance.part (c : Chance) (n : Nat) : Chance where
  draw place := c.draw (n :: place)
  min_le place := c.min_le (n :: place)
  le_max place := c.le_max (n :: place)

/-- The least number of each range. -/
@[reducible] def Chance.least : Chance where
  draw _ d := d.min
  min_le _ d := d.min.le_refl
  le_max _ d := d.ordered

namespace Delay

def seconds (t : Text) : Number.Binary64 :=
  let (negative, t) := Number.takeSign (Text.trim t)
  if negative then .zero
  else ((Number.Decimal.ofText? t).bind Number.Binary64.ofDecimal?).getD .zero

/-- Bounds in either order. -/
def ofBounds (a b : Number.Binary64) : Delay :=
  if h : a.le b then ⟨a, b, h⟩ else ⟨b, a, Number.Binary64.le_of_not_le h⟩

/-- `2`, or a range `1..3`. -/
def ofText (t : Text) : Delay :=
  match Text.cut? ['.', '.'] t with
  | some (a, b) => ofBounds (seconds a) (seconds b)
  | none => ofBounds (seconds t) (seconds t)

/-- There is one time only that the pause may last. -/
def isFixed (d : Delay) : Bool := d.max.le d.min

/-- Whole nanoseconds, the nearest, and the even one of two that are as near. `none` is longer than
a duration can be, which counts its seconds in 64 bits. -/
def nanos? (s : Number.Binary64) : Option Nanos :=
  let (num, den) := s.ratio
  let n := Number.roundDiv (num * nanosPerSecond) den
  if n / nanosPerSecond < Nat.pow 2 64 then some n else none

/-- The least time of the range. -/
def least? (d : Delay) : Option Nanos := nanos? d.min

/-- The time that the pause lasts here. -/
def sample? [c : Chance] (d : Delay) : Option Nanos :=
  if d.isFixed then d.least? else nanos? (c.draw [] d)

end Delay
end MudClient.Script
