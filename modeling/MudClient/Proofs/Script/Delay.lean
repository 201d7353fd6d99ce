import Mathlib.Order.Basic
import Mathlib.Tactic.Ring
import MudClient.Script.Delay
/-! What may be drawn for a pause. Of two numbers the greater one is rounded to the longer time, so
the upper bound of a range tells whether there is a duration for whatever is drawn from it. -/
namespace MudClient

namespace Number

/-- Rounding goes past a number if the quotient is beyond the middle between this number and the
next, or in the middle and the number is odd. -/
theorem lt_roundDiv {num den n : Nat} (hd : 0 < den) : n < roundDiv num den ↔
    2 * (n * den) + den < 2 * num ∨ 2 * (n * den) + den = 2 * num ∧ n % 2 = 1 := by
  have whole : num / den * den + num % den = num := Nat.div_add_mod' num den
  have small : num % den < den := Nat.mod_lt num hd
  unfold roundDiv
  generalize num / den = q at whole ⊢
  generalize num % den = r at whole small ⊢
  dsimp only
  rcases Nat.lt_trichotomy n q with below | rfl | above
  · have room : (n + 1) * den ≤ q * den := Nat.mul_le_mul_right den below
    rw [Nat.add_mul] at room
    split <;> omega
  · split <;> omega
  · have room : (q + 1) * den ≤ n * den := Nat.mul_le_mul_right den above
    rw [Nat.add_mul] at room
    split <;> omega

/-- A greater quotient is not rounded to a lesser number. -/
theorem roundDiv_mono {a b c d : Nat} (hb : 0 < b) (hd : 0 < d) (h : a * d ≤ c * b) :
    roundDiv a b ≤ roundDiv c d := by
  apply le_of_forall_lt
  intro n hn
  rw [lt_roundDiv hb] at hn
  rw [lt_roundDiv hd]
  -- the two middles, each over the product of the denominators
  have middles : (2 * (n * d) + d) * b = (2 * (n * b) + b) * d := by ring
  have greater : 2 * a * d ≤ 2 * c * b := by
    rw [Nat.mul_assoc, Nat.mul_assoc]
    exact Nat.mul_le_mul_left 2 h
  rcases hn with beyond | ⟨middle, odd⟩
  · left
    apply Nat.lt_of_mul_lt_mul_right (a := b)
    calc (2 * (n * d) + d) * b = (2 * (n * b) + b) * d := middles
      _ < 2 * a * d := Nat.mul_lt_mul_of_pos_right beyond hd
      _ ≤ 2 * c * b := greater
  · have most : (2 * (n * d) + d) * b ≤ 2 * c * b := by
      rw [middles, middle]
      exact greater
    have most := Nat.le_of_mul_le_mul_right most hb
    omega

theorem scale_pos {base : Nat} (hb : 0 < base) (e : Int) : 0 < (scale base e).2 := by
  cases e with
  | ofNat n => exact Nat.one_pos
  | negSucc n => exact Nat.pow_pos hb

end Number

namespace Script

/-- Chance that is the same but for what lies below a place. -/
@[reducible] def Chance.set (c : Chance) (place : Nat) (part : Chance) : Chance where
  draw
    | n :: path, d => if n = place then part.draw path d else c.draw (n :: path) d
    | [], d => c.draw [] d
  min_le path d := by
    cases path with
    | nil => exact c.min_le [] d
    | cons n path =>
      dsimp only
      split
      · exact part.min_le path d
      · exact c.min_le (n :: path) d
  le_max path d := by
    cases path with
    | nil => exact c.le_max [] d
    | cons n path =>
      dsimp only
      split
      · exact part.le_max path d
      · exact c.le_max (n :: path) d

theorem Chance.eq_of_draw {a b : Chance} (h : a.draw = b.draw) : a = b := by
  cases a
  cases b
  cases h
  rfl

@[simp] theorem Chance.part_set (c : Chance) (place : Nat) (part : Chance) :
    (c.set place part).part place = part := by
  apply eq_of_draw
  funext path d
  exact if_pos rfl

theorem Chance.part_set_of_ne (c : Chance) {n place : Nat} (part : Chance) (h : n ≠ place) :
    (c.set place part).part n = c.part n := by
  apply eq_of_draw
  funext path d
  exact if_neg h

namespace Delay

open Number (Binary64)

/-- A number has a duration if a greater one has. -/
theorem isSome_nanos?_of_le {x y : Binary64} (h : x.le y) (hy : (nanos? y).isSome) :
    (nanos? x).isSome := by
  have rounded : Number.roundDiv (x.ratio.1 * nanosPerSecond) x.ratio.2 ≤
      Number.roundDiv (y.ratio.1 * nanosPerSecond) y.ratio.2 := by
    apply Number.roundDiv_mono (Number.scale_pos Nat.two_pos _) (Number.scale_pos Nat.two_pos _)
    rw [Nat.mul_right_comm, Nat.mul_right_comm y.ratio.1]
    exact Nat.mul_le_mul_right _ (of_decide_eq_true h)
  have seconds := Nat.div_le_div_right (c := nanosPerSecond) rounded
  unfold nanos? at hy ⊢
  dsimp only at hy ⊢
  split at hy
  · rw [if_pos (by omega)]
    rfl
  · cases hy

/-- Whatever is drawn from a range, there is a duration that is as long, exactly if there is one for
its upper bound. -/
theorem isSome_sample?_iff (d : Delay) :
    (∀ c : Chance, (@sample? c d).isSome) ↔ (nanos? d.max).isSome := by
  constructor
  · intro drawn
    have most := drawn ⟨fun _ d => d.max, fun _ d => d.ordered, fun _ d => d.max.le_refl⟩
    unfold sample? at most
    split at most
    · rename_i fixed
      exact isSome_nanos?_of_le fixed most
    · exact most
  · intro bound c
    unfold sample?
    split
    · exact isSome_nanos?_of_le d.ordered bound
    · exact isSome_nanos?_of_le (c.le_max [] d) bound

end Delay
end Script
end MudClient
