import Mathlib.Logic.Function.Iterate
import MudClient.Proofs.Script.Separator
/-! Actions on a single line. A line has a semicolon for the end of a command and two for a
semicolon of the text, so in a row of them it is lost which is which, and a backslash in front takes
the first one. Which texts come back from their line is told by what stands next to each other in
them. A text with semicolons of its own is written by doubling them, however often it is read. -/
namespace MudClient.Script.Separator

/-- What a line cannot hold: the end of a command or a lone backslash, and right behind it the end
of a command or a semicolon of the text. -/
def clashes : List Text :=
  [['\n', '\n'], ['\n', '\\', ';'], ['\\', '\n'], ['\\', '\\', ';']]

/-- The text starts with the end of a command or with a semicolon of the text. -/
def StartsSeparated (t : Text) : Prop := t.head? = some '\n' ∨ ∃ r, t = '\\' :: ';' :: r

theorem forall_clashes_cons {c : Char} {t : Text} : (∀ s ∈ clashes, ¬ s <:+: c :: t) ↔
    (c = '\n' ∨ c = '\\' → ¬ StartsSeparated t) ∧ ∀ s ∈ clashes, ¬ s <:+: t := by
  have one (d : Char) (u : Text) : [d] <+: u ↔ u.head? = some d := by
    cases u <;> simp [List.cons_prefix_cons, eq_comm]
  have two (u : Text) : ['\\', ';'] <+: u ↔ ∃ r, u = '\\' :: ';' :: r := by
    rw [List.IsPrefix]
    simp [eq_comm]
  simp only [clashes, StartsSeparated, List.forall_mem_cons, List.infix_cons_iff,
    List.cons_prefix_cons (a := '\n') (b := c), List.cons_prefix_cons (a := '\\') (b := c), one,
    two, List.not_mem_nil, false_imp_iff, implies_true, and_true]
  grind

theorem Escaped.head?_ne {t : Text} (h : Escaped t) : t.head? ≠ some ';' := by
  intro ht
  obtain ⟨r, rfl⟩ := List.head?_eq_some_iff.1 ht
  simpa using h [] r rfl

/-- The written line starts with a semicolon where the text has something to write with one. -/
theorem head?_collapse {t : Text} (he : Escaped t) (hr : '\r' ∉ t) :
    (collapse t).head? = some ';' ↔ StartsSeparated t := by
  have hs := he.head?_ne
  unfold collapse
  split <;> simp_all [StartsSeparated]

theorem return_not_mem_collapse (t : Text) : '\r' ∉ collapse t := by
  fun_induction collapse t <;> simp_all [eq_comm]

theorem expand_semicolon {t : Text} (h : t.head? ≠ some ';') :
    expand (';' :: t) = '\n' :: expand t := by
  rw [expand]
  rintro r rfl
  exact h rfl

theorem expand_other {c : Char} {t : Text} (hc : c ≠ ';') (h : c = '\\' → t.head? ≠ some ';') :
    expand (c :: t) = c :: expand t := by
  rw [expand]
  · rintro r rfl rfl
    exact h rfl rfl
  · exact fun _ hs _ => hc hs
  · exact hc

/-- Of a text that was read, only what clashes is lost on a line. -/
theorem expand_collapse_of_escaped {t : Text} (he : Escaped t) (hr : '\r' ∉ t) :
    expand (collapse t) = t ↔ ∀ s ∈ clashes, ¬ s <:+: t := by
  fun_induction collapse t with
  | case1 r ih =>
    have rest : Escaped r := he.of_append (a := ['\\', ';']) (by decide)
    have plain : ¬ StartsSeparated (';' :: r) := by simp [StartsSeparated]
    rw [forall_clashes_cons, forall_clashes_cons, ← ih rest (by simpa using hr)]
    simp [expand, plain]
  | case2 r ih => exact absurd rfl he.head?_ne
  | case3 r ih =>
    have rest : Escaped r := he.of_append (a := ['\n']) (by decide)
    have hr : '\r' ∉ r := by simpa using hr
    rw [forall_clashes_cons, ← ih rest hr]
    by_cases hs : StartsSeparated r
    · obtain ⟨u, hu⟩ := List.head?_eq_some_iff.1 ((head?_collapse rest hr).2 hs)
      simp [hu, expand, hs]
    · rw [expand_semicolon (mt (head?_collapse rest hr).1 hs)]
      simp [hs]
  | case4 r ih => simp at hr
  | case5 c r h1 h2 h3 h4 ih =>
    have head : r.head? ≠ some ';' := by
      intro hs
      obtain ⟨u, rfl⟩ := List.head?_eq_some_iff.1 hs
      exact h1 u (by simpa using he [c] u rfl) rfl
    have rest : Escaped r := (escaped_cons h2 head).1 he
    have plain : '\r' ∉ r := fun hm => hr (List.mem_cons_of_mem c hm)
    rw [forall_clashes_cons, ← ih rest plain]
    by_cases hs : c = '\\' ∧ StartsSeparated r
    · obtain ⟨rfl, hs⟩ := hs
      obtain ⟨u, hu⟩ := List.head?_eq_some_iff.1 ((head?_collapse rest plain).2 hs)
      -- The backslash takes the semicolon, which the text does not have.
      have taken : expand ('\\' :: ';' :: u) ≠ '\\' :: r := by
        rw [expand]
        rintro h
        exact head (by rw [← (List.cons.inj h).2]; rfl)
      simp [hu, taken, hs]
    · rw [expand_other h2 fun hc => mt (head?_collapse rest plain).1 fun h => hs ⟨hc, h⟩]
      have free : c = '\n' ∨ c = '\\' → ¬ StartsSeparated r := by
        rintro (rfl | rfl) h
        · exact h3 rfl
        · exact hs ⟨rfl, h⟩
      simp [iff_true_intro free]
  | case6 => simp [expand, clashes]

/-- A text comes back from its line exactly if it was read from one, has no carriage return, and
nothing in it clashes. -/
theorem expand_collapse_eq_self_iff (a : Text) : expand (collapse a) = a ↔
    (∃ t, expand t = a) ∧ '\r' ∉ a ∧ ∀ s ∈ clashes, ¬ s <:+: a := by
  constructor
  · intro h
    have he : Escaped a := h ▸ escaped_expand (collapse a)
    have hr : '\r' ∉ a := by
      rw [← h]
      intro hm
      rcases mem_expand hm with hm | hm | hm | hm
      · exact return_not_mem_collapse a hm
      all_goals exact absurd hm (by decide)
    exact ⟨⟨_, h⟩, hr, (expand_collapse_of_escaped he hr).1 h⟩
  · rintro ⟨⟨t, rfl⟩, hr, hc⟩
    exact (expand_collapse_of_escaped (escaped_expand t) hr).2 hc

/-- The line of both texts is three semicolons. -/
example : expand (collapse ['\\', ';', '\n']) = ['\\', ';', '\n'] ∧
    expand (collapse ['\n', '\\', ';']) = ['\\', ';', '\n'] := by
  decide

/-! ### Semicolons of the text -/

/-- A text as it is written on a line, if its semicolons are meant to be sent. -/
def double (t : Text) : Text := t.flatMap fun c => if c = ';' then [';', ';'] else [c]

theorem double_semicolon (t : Text) : double (';' :: t) = ';' :: ';' :: double t := rfl

theorem double_other {c : Char} (hc : c ≠ ';') (t : Text) : double (c :: t) = c :: double t := by
  simp [double, hc]

theorem head?_double (t : Text) : (double t).head? = t.head? := by
  cases t with
  | nil => rfl
  | cons c t =>
    by_cases hc : c = ';'
    · rw [hc, double_semicolon]
      rfl
    · rw [double_other hc]
      rfl

theorem unescape_other {c : Char} {t : Text} (h : c = '\\' → t.head? ≠ some ';') :
    unescape (c :: t) = c :: unescape t := by
  rw [unescape]
  rintro r rfl rfl
  exact h rfl rfl

/-- The first reading puts a backslash before every semicolon, so there is nothing left to do for
those that follow. -/
theorem expand_expand (t : Text) : expand (expand t) = expand t :=
  expand_of_escaped (escaped_expand t)

theorem iterate_expand (t : Text) (n : Nat) : expand^[n + 1] t = expand t := by
  rw [Function.iterate_succ_apply]
  exact Function.iterate_fixed (expand_expand t) n

/-- A doubled semicolon is one of the text unless a backslash stands in front of it. -/
theorem unescape_expand_double (t : Text) :
    unescape (expand (double t)) = t ↔ ¬ ['\\', ';'] <:+: t := by
  induction t with
  | nil => simp [double, expand, unescape]
  | cons c r ih =>
    have here : ['\\', ';'] <+: c :: r ↔ c = '\\' ∧ r.head? = some ';' := by
      rw [List.cons_prefix_cons, eq_comm (a := '\\')]
      cases r <;> simp [List.cons_prefix_cons, eq_comm]
    rw [List.infix_cons_iff, here, not_or, ← ih]
    by_cases hc : c = ';'
    · subst hc
      simp [double_semicolon, expand, unescape]
    · rw [double_other hc]
      by_cases hs : c = '\\' ∧ r.head? = some ';'
      · obtain ⟨rfl, hr⟩ := hs
        obtain ⟨u, rfl⟩ := List.head?_eq_some_iff.1 hr
        -- The backslash takes the first of the two semicolons.
        simp [double_semicolon, expand, unescape]
      · rw [expand_other hc fun h => head?_double r ▸ fun hr => hs ⟨h, hr⟩,
          unescape_other fun _ => head?_expand_ne _]
        simp [hs]

/-- However deep in braces a text is read, its semicolons are written by doubling them, and this
works exactly for the texts that have no semicolon behind a backslash. -/
theorem unescape_iterate_expand_double : (∀ t, expand (expand t) = expand t) ∧
    ∀ t n, unescape (expand^[n + 1] (double t)) = t ↔ ¬ ['\\', ';'] <:+: t :=
  ⟨expand_expand, fun t n => by rw [iterate_expand, unescape_expand_double]⟩

end MudClient.Script.Separator
