import Mathlib.Data.List.DropRight
import Mathlib.Data.List.Forall2
import MudClient.Proofs.Script.Template
import MudClient.World.Command
/-! Stacked commands. A text is cut into commands at newlines and at the delimiter of the settings,
wherever they come from: what a variable stood for is cut as well as what the script says. A value
stays within one command if the delimiter does not cut it, if no delimiter is made up of it and of
what stands next to it, and if it does not end with a backslash, which would keep the delimiter
after it. -/
namespace MudClient

namespace Text

variable {d t : Text} {c : Char}

theorem splitAtFrom_ne_nil (d t : Text) (skip : Nat) : splitAtFrom d skip t ≠ [] := by
  fun_induction splitAtFrom d skip t with
  | case4 c r _ ih => cases h : splitAtFrom d 0 r <;> simp [consFirst]
  | _ => simp_all

theorem exists_splitAt (d t : Text) : ∃ p ps, splitAt d t = p :: ps :=
  List.exists_cons_of_ne_nil (splitAtFrom_ne_nil d t 0)

theorem splitAtFrom_length_append (d w t : Text) :
    splitAtFrom d w.length (w ++ t) = splitAt d t := by
  induction w with
  | nil => rfl
  | cons c w ih => exact ih

/-- A text that begins with the delimiter is cut there. -/
theorem splitAt_append (hd : d ≠ []) : splitAt d (d ++ t) = [] :: splitAt d t := by
  obtain ⟨c, e, rfl⟩ := List.exists_cons_of_ne_nil hd
  have found : (c :: e).isPrefixOf (c :: (e ++ t)) := by simp
  show splitAtFrom (c :: e) 0 (c :: (e ++ t)) = _
  rw [splitAtFrom, if_pos found]
  exact congrArg _ (splitAtFrom_length_append (c :: e) e t)

theorem splitAt_cons (h : ¬ d <+: c :: t) :
    splitAt d (c :: t) = (splitAt d t).modifyHead (c :: ·) := by
  have found : ¬ d.isPrefixOf (c :: t) := by simpa using h
  unfold splitAt
  rw [splitAtFrom, if_neg found]
  obtain ⟨p, ps, hp⟩ := exists_splitAt d t
  rw [show splitAtFrom d 0 t = p :: ps from hp]
  rfl

/-- A cut in front of every character is one at a delimiter. -/
theorem prefix_of_splitAt {p : Text} {ps : List Text} (h : splitAt d t = [] :: p :: ps) :
    d <+: t := by
  cases t with
  | nil => cases h
  | cons c t =>
    by_contra hn
    rw [splitAt_cons hn] at h
    obtain ⟨q, qs, hq⟩ := exists_splitAt d t
    rw [hq] at h
    cases h

end Text

section Stacking

variable {d r v w : Text} {c : Char}

theorem rejoin_cons_ne_nil (d p : Text) (ps : List Text) : rejoin d (p :: ps) ≠ [] := by
  rw [rejoin]
  split
  · split <;> simp
  · simp

theorem rejoin_cons_cons (d p q : Text) (ps : List Text) : rejoin d (p :: q :: ps) =
    if p.getLast? = some '\\' then (rejoin d (q :: ps)).modifyHead (p ++ d ++ ·)
    else p :: rejoin d (q :: ps) := by
  obtain ⟨a, as, ha⟩ := List.exists_cons_of_ne_nil (rejoin_cons_ne_nil d q ps)
  rw [rejoin, ha]
  rfl

theorem splitStacked_of_ne_nil (hd : d ≠ []) (t : Text) :
    splitStacked d t = rejoin d (Text.splitAt d t) := by
  simp [splitStacked, hd]

theorem splitStacked_ne_nil (d t : Text) : splitStacked d t ≠ [] := by
  unfold splitStacked
  split
  · simp
  · obtain ⟨p, ps, hp⟩ := Text.exists_splitAt d t
    rw [hp]
    exact rejoin_cons_ne_nil d p ps

theorem splitStacked_nil (d : Text) : splitStacked d [] = [[]] := by
  unfold splitStacked
  split <;> rfl

/-- A delimiter at the beginning of a line ends a command. -/
theorem splitStacked_append (hd : d ≠ []) :
    splitStacked d (d ++ r) = [] :: splitStacked d r := by
  simp only [splitStacked_of_ne_nil hd, Text.splitAt_append hd]
  obtain ⟨p, ps, hp⟩ := Text.exists_splitAt d r
  rw [hp, rejoin_cons_cons]
  simp

/-- A delimiter after a backslash stays in its command. -/
theorem splitStacked_escaped (hd : d ≠ []) (h : ¬ d <+: '\\' :: (d ++ r)) :
    splitStacked d ('\\' :: (d ++ r)) = (splitStacked d r).modifyHead ('\\' :: d ++ ·) := by
  simp only [splitStacked_of_ne_nil hd, Text.splitAt_cons h, Text.splitAt_append hd]
  obtain ⟨p, ps, hp⟩ := Text.exists_splitAt d r
  rw [hp, List.modifyHead_cons, rejoin_cons_cons]
  simp

/-- Any other character belongs to the first command. -/
theorem splitStacked_cons (hd : d ≠ []) (h : ¬ d <+: c :: r) (hc : c = '\\' → ¬ d <+: r) :
    splitStacked d (c :: r) = (splitStacked d r).modifyHead (c :: ·) := by
  simp only [splitStacked_of_ne_nil hd, Text.splitAt_cons h]
  obtain ⟨p, ps, hp⟩ := Text.exists_splitAt d r
  rw [hp, List.modifyHead_cons]
  cases ps with
  | nil => rfl
  | cons q ps =>
    have same : (c :: p).getLast? = some '\\' ↔ p.getLast? = some '\\' := by
      cases p with
      | nil =>
        have hc' : c ≠ '\\' := fun e => hc e (Text.prefix_of_splitAt hp)
        simp [hc']
      | cons => simp [List.getLast?_cons_cons]
    simp only [rejoin_cons_cons, same]
    split
    · simp [List.modifyHead_modifyHead, Function.comp_def]
    · rfl

/-- How a line is read from its first character on. -/
@[elab_as_elim]
theorem splitStacked_induction (hd : d ≠ []) {motive : Text → Prop} (nil : motive [])
    (delimiter : ∀ r, motive r → motive (d ++ r))
    (escaped : ∀ r, ¬ d <+: '\\' :: (d ++ r) → motive r → motive ('\\' :: (d ++ r)))
    (cons : ∀ c r, ¬ d <+: c :: r → (c = '\\' → ¬ d <+: r) → motive r → motive (c :: r))
    (t : Text) : motive t := by
  have := List.length_pos_of_ne_nil hd
  induction hn : t.length using Nat.strong_induction_on generalizing t with
  | _ n ih =>
    subst hn
    by_cases hp : d <+: t
    · obtain ⟨r, rfl⟩ := hp
      exact delimiter r (ih r.length (by rw [List.length_append]; omega) r rfl)
    cases t with
    | nil => exact nil
    | cons c r =>
      by_cases hc : c = '\\' ∧ d <+: r
      · obtain ⟨rfl, r, rfl⟩ := hc
        have shorter : r.length < ('\\' :: (d ++ r)).length := by
          rw [List.length_cons, List.length_append]
          omega
        exact escaped r hp (ih r.length shorter r rfl)
      · exact cons c r hp (fun e hr => hc ⟨e, hr⟩) (ih r.length (by simp) r rfl)

/-- No delimiter cuts the text: each stands behind a backslash. -/
inductive IsWhole (d : Text) : Text → Prop
  | nil : IsWhole d []
  | escaped {r : Text} : ¬ d <+: '\\' :: (d ++ r) → IsWhole d r → IsWhole d ('\\' :: (d ++ r))
  | cons {c : Char} {r : Text} : ¬ d <+: c :: r → (c = '\\' → ¬ d <+: r) → IsWhole d r →
      IsWhole d (c :: r)

theorem modifyHead_append_eq_singleton {x : Text} {ps : List Text} :
    ps.modifyHead (x ++ ·) = [x ++ r] ↔ ps = [r] := by
  cases ps <;> simp

theorem isWhole_iff (hd : d ≠ []) : IsWhole d v ↔ splitStacked d v = [v] := by
  constructor
  · intro h
    induction h with
    | nil => exact splitStacked_nil d
    | escaped h _ ih => simp [splitStacked_escaped hd h, ih]
    | cons h hc _ ih => simp [splitStacked_cons hd h hc, ih]
  · intro h
    induction v using splitStacked_induction hd with
    | nil => exact .nil
    | delimiter r =>
      rw [splitStacked_append hd] at h
      exact absurd (List.cons.inj h).2 (splitStacked_ne_nil d r)
    | escaped r hp ih =>
      rw [splitStacked_escaped hd hp] at h
      exact .escaped hp (ih (modifyHead_append_eq_singleton (x := '\\' :: d).1 h))
    | cons c r hp hc ih =>
      rw [splitStacked_cons hd hp hc] at h
      exact .cons hp hc (ih (modifyHead_append_eq_singleton (x := [c]).1 h))

theorem IsWhole.uncut (hd : d ≠ []) (h : IsWhole d v) : ¬ d <+: v := by
  cases h with
  | nil => simpa using hd
  | escaped h => exact h
  | cons h => exact h

theorem isWhole_of_length_lt (h : v.length < d.length) : IsWhole d v := by
  have short {t : Text} (ht : t.length < d.length) : ¬ d <+: t :=
    fun hp => absurd hp.length_le (by omega)
  induction v with
  | nil => exact .nil
  | cons c r ih =>
    have hr : r.length < d.length := by
      simp at h
      omega
    exact .cons (short h) (fun _ => short hr) (ih hr)

/-- What is whole has no delimiter at any place where it is cut off. -/
theorem IsWhole.of_append (h : IsWhole d (v ++ w)) : IsWhole d v := by
  generalize ht : v ++ w = t at h
  induction h generalizing v with
  | nil =>
    rw [(List.append_eq_nil_iff.1 ht).1]
    exact .nil
  | @escaped r hp hr ih =>
    cases v with
    | nil => exact .nil
    | cons c v =>
      simp only [List.cons_append, List.cons.injEq] at ht
      obtain ⟨rfl, hv⟩ := ht
      have hn : ¬ d <+: '\\' :: v := by
        intro h
        refine hp (h.trans ?_)
        rw [← hv]
        exact List.prefix_append ('\\' :: v) w
      by_cases hdv : d <+: v
      · obtain ⟨u, rfl⟩ := hdv
        rw [List.append_assoc] at hv
        exact .escaped hn (ih (List.append_cancel_left hv))
      · refine .cons hn (fun _ => hdv) (isWhole_of_length_lt ?_)
        have front : v <+: d ++ r := ⟨w, hv⟩
        by_contra hlen
        exact hdv (List.prefix_of_prefix_length_le (List.prefix_append d r) front (by omega))
  | @cons c r hp hc hr ih =>
    cases v with
    | nil => exact .nil
    | cons e v =>
      obtain ⟨rfl, rfl⟩ := List.cons.inj ht
      exact .cons (fun h => hp (h.trans (List.prefix_append (e :: v) w)))
        (fun he h => hc he (h.trans (List.prefix_append v w))) (ih rfl)

/-- No delimiter that begins before the text ends within it. -/
def StartsFree (d v : Text) : Prop := ∀ p s, d = p ++ s → p ≠ [] → s ≠ [] → ¬ s <+: v

/-- No delimiter that begins within the text ends after it. -/
def EndsFree (d v : Text) : Prop := ∀ p s, d = p ++ s → p ≠ [] → s ≠ [] → ¬ p <:+ v

theorem StartsFree.mono (h : StartsFree d v) (hw : w <+: v) : StartsFree d w :=
  fun p s hd hp hs hsw => h p s hd hp hs (hsw.trans hw)

theorem EndsFree.mono (h : EndsFree d v) (hw : w <:+ v) : EndsFree d w :=
  fun p s hd hp hs hpw => h p s hd hp hs (hpw.trans hw)

theorem EndsFree.not_prefix_append (h : EndsFree d v) (hv : v ≠ []) (hd : ¬ d <+: v) :
    ¬ d <+: v ++ r := by
  intro hr
  obtain ⟨s, rfl⟩ | hdv := List.prefix_or_prefix_of_prefix (List.prefix_append v r) hr
  · refine h v s rfl hv ?_ (List.suffix_refl v)
    rintro rfl
    simp at hd
  · exact hd hdv

theorem getLast?_ne_of_append {x : Char} (h : (w ++ v).getLast? ≠ some x) :
    v.getLast? ≠ some x := by
  intro hv
  rw [List.getLast?_append, hv] at h
  exact h rfl

/-- A value is not cut, whatever follows it. -/
theorem splitStacked_value (hd : d ≠ []) (hv : IsWhole d v) (tail : EndsFree d v)
    (last : v.getLast? ≠ some '\\') (r : Text) :
    splitStacked d (v ++ r) = (splitStacked d r).modifyHead (v ++ ·) := by
  induction hv with
  | nil => cases h : splitStacked d r <;> simp [h]
  | @escaped u hp _ ih =>
    have rest := ih (tail.mono (List.suffix_append ('\\' :: d) u))
      (getLast?_ne_of_append (w := '\\' :: d) last)
    have hn := tail.not_prefix_append (r := r) (List.cons_ne_nil _ _) hp
    rw [List.cons_append, List.append_assoc] at hn ⊢
    rw [splitStacked_escaped hd hn, rest, List.modifyHead_modifyHead]
    simp [Function.comp_def]
  | @cons c u hp hc _ ih =>
    have clear := tail.mono (List.suffix_cons c u)
    have rest := ih clear (getLast?_ne_of_append (w := [c]) last)
    have hn := tail.not_prefix_append (r := r) (List.cons_ne_nil _ _) hp
    have hu : c = '\\' → ¬ d <+: u ++ r := by
      rintro rfl
      cases u with
      | nil => exact absurd rfl last
      | cons e u => exact clear.not_prefix_append (List.cons_ne_nil e u) (hc rfl)
    rw [List.cons_append] at hn ⊢
    rw [splitStacked_cons hd hn hu, rest, List.modifyHead_modifyHead]
    simp [Function.comp_def]

/-- A visible line that the delimiter does not cut, and in which none ends that began before it. -/
structure IsSolid (d v : Text) : Prop where
  visible : ¬ Text.isAllBlank v
  line : '\n' ∉ v
  whole : splitStacked d v = [v]
  head : StartsFree d v

theorem IsSolid.ne_nil (h : IsSolid d v) : v ≠ [] := by
  rintro rfl
  exact h.visible rfl

theorem IsSolid.isWhole (hd : d ≠ []) (h : IsSolid d v) : IsWhole d v := (isWhole_iff hd).2 h.whole

/-- A value that stays data in a text that is cut at the delimiter `d`: the delimiter does not cut
it, none is made up of it and of what stands next to it, and none after it is taken for escaped. -/
structure IsData (d v : Text) : Prop extends IsSolid d v where
  tail : EndsFree d v
  inner : ¬ v <:+: d
  last : d ≠ [] → v.getLast? ≠ some '\\'

/-- Without a delimiter every line that is not blank is data. -/
theorem isData_nil : IsData [] v ↔ ¬ Text.isAllBlank v ∧ '\n' ∉ v := by
  refine ⟨fun h => ⟨h.visible, h.line⟩, fun ⟨visible, line⟩ => ?_⟩
  refine ⟨⟨visible, line, rfl, ?_⟩, ?_, ?_, ?_⟩
  · exact fun p s hd hp _ _ => hp (List.append_eq_nil_iff.1 hd.symm).1
  · exact fun p s hd hp _ _ => hp (List.append_eq_nil_iff.1 hd.symm).1
  · intro hi
    rw [List.infix_nil.1 hi] at visible
    exact visible rfl
  · exact fun hd => absurd rfl hd

/-- Nothing is made up of a delimiter of one character and of what stands next to it. -/
theorem isData_singleton : IsData [c] v ↔ ¬ Text.isAllBlank v ∧ '\n' ∉ v ∧
    splitStacked [c] v = [v] ∧ v.getLast? ≠ some '\\' := by
  have undivided (p s : Text) (h : [c] = p ++ s) (hp : p ≠ []) : s = [] := by
    obtain ⟨rfl, -⟩ | ⟨-, rfl⟩ := List.append_eq_singleton_iff.1 h.symm
    · exact absurd rfl hp
    · rfl
  constructor
  · exact fun h => ⟨h.visible, h.line, h.whole, h.last (List.cons_ne_nil c [])⟩
  · rintro ⟨visible, line, whole, last⟩
    refine ⟨⟨visible, line, whole, ?_⟩, ?_, ?_, fun _ => last⟩
    · exact fun p s hd hp hs _ => hs (undivided p s hd hp)
    · exact fun p s hd hp hs _ => hs (undivided p s hd hp)
    · intro hi
      have some_delimiter : [c] ≠ [] := List.cons_ne_nil c []
      have uncut := ((isWhole_iff some_delimiter).2 whole).uncut some_delimiter
      match v, hi.length_le with
      | [], _ => exact visible rfl
      | [e], _ =>
        cases List.mem_singleton.1 (hi.subset (List.mem_singleton_self e))
        exact uncut (List.prefix_refl _)

end Stacking
end MudClient
