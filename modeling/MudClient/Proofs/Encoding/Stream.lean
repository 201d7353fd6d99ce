import MudClient.Encoding.Basic
/-! Decoding a stream piece by piece. What a decoder keeps is all that it has to know of the bytes
before, so it gives the same text wherever the stream is cut. -/
namespace MudClient.Encoding

/-- Reading on with the bytes that are kept is reading the whole. -/
theorem Reading.run_append (read : Bytes → Reading) (kept a b : Bytes) :
    Reading.run read kept (a ++ b) =
      ((Reading.run read kept a).1 ++ (Reading.run read (Reading.run read kept a).2 b).1,
        (Reading.run read (Reading.run read kept a).2 b).2) := by
  fun_induction Reading.run read kept a with
  | case1 kept => rfl
  | case2 kept c rest h ih =>
    rw [List.cons_append, Reading.run, h]
    exact ih
  | case3 kept c rest t h later left hr ih =>
    rw [List.cons_append, Reading.run, h]
    simp only [ih, hr, List.append_assoc]
  | case4 kept c rest spent h later left hr ih =>
    rw [List.cons_append, Reading.run, h]
    simp only [← List.append_assoc, ih, hr, List.cons_append]

namespace Iso2022Jp

def steps (s : State) (bytes : Bytes) : Text × State :=
  bytes.foldl (fun (t, s) b => let (u, s) := step s b; (t ++ u, s)) ([], s)

theorem foldl_step (t : Text) (s : State) (bytes : Bytes) :
    bytes.foldl (fun (t, s) b => let (u, s) := step s b; (t ++ u, s)) (t, s) =
      (t ++ (steps s bytes).1, (steps s bytes).2) := by
  unfold steps
  induction bytes generalizing t s with
  | nil => simp
  | cons b rest ih =>
    simp only [List.foldl_cons, List.nil_append]
    rw [ih, ih (step s b).1]
    simp

theorem steps_append (s : State) (a b : Bytes) :
    steps s (a ++ b) = ((steps s a).1 ++ (steps (steps s a).2 b).1, (steps (steps s a).2 b).2) := by
  rw [steps, List.foldl_append]
  exact foldl_step _ _ b

end Iso2022Jp

/-- Of no bytes there is no text. -/
theorem decode_nil (e : Encoding) (s : DecoderState) : e.decode s [] = ([], s) := by
  cases s with
  | bytes kept => cases e <;> simp [decode, Reading.run]
  | escapes state => rfl
  | replaced => rfl

/-- Every decoder reads a stream in two pieces as it reads it at once. -/
theorem decode_append (e : Encoding) (s : DecoderState) (a b : Bytes) :
    e.decode s (a ++ b) =
      ((e.decode s a).1 ++ (e.decode (e.decode s a).2 b).1, (e.decode (e.decode s a).2 b).2) := by
  have read (e : Encoding) (kept : Bytes) (h : e ≠ replacement) (bytes : Bytes) :
      e.decode (.bytes kept) bytes =
        ((Reading.run e.reading kept bytes).1, .bytes (Reading.run e.reading kept bytes).2) := by
    cases e <;> first | rfl | exact absurd rfl h
  cases s with
  | replaced => rfl
  | escapes state =>
    have stepped (state : Iso2022Jp.State) (bytes : Bytes) : e.decode (.escapes state) bytes =
        ((Iso2022Jp.steps state bytes).1, .escapes (Iso2022Jp.steps state bytes).2) := rfl
    simp only [stepped, Iso2022Jp.steps_append]
  | bytes kept =>
    by_cases h : e = replacement
    · subst h
      cases a <;> rfl
    · simp only [read e _ h, Reading.run_append]

end MudClient.Encoding
