import MudClient.Proofs.Reaction.Roster
import MudClient.Reaction.Basic
/-! Which trigger fires. Of the triggers that match a line it is the most specific one, and among
those that are equally specific the one whose pattern came first. -/
namespace MudClient

/-- What is equal is still in its old order after sorting. -/
theorem pairwise_mergeSort_of_pairwise {α : Type} {le : α → α → Bool} {R : α → α → Prop}
    {l : List α} (trans : ∀ a b c, le a b → le b c → le a c)
    (total : ∀ a b, le a b || le b a) (h : l.Pairwise R) :
    (l.mergeSort le).Pairwise fun a b => le a b ∧ (le b a → R a b) := by
  induction l with
  | nil => simp
  | cons a l ih =>
    obtain ⟨first, others⟩ := List.pairwise_cons.1 h
    obtain ⟨l₁, l₂, all, rest, before⟩ := List.mergeSort_cons trans total a l
    have sorted := List.pairwise_mergeSort trans total (a :: l)
    have old := ih others
    rw [all] at sorted ⊢
    rw [rest] at old
    -- `a` stood in front of all others, and it still does so of those it is equal to.
    obtain ⟨-, sorted₂, sorted₁₂⟩ := List.pairwise_append.1 sorted
    obtain ⟨old₁, old₂, old₁₂⟩ := List.pairwise_append.1 old
    refine List.pairwise_append.2 ⟨old₁, List.pairwise_cons.2 ⟨fun b hb => ?_, old₂⟩, ?_⟩
    · have mem : b ∈ l := List.mem_mergeSort.1 (rest ▸ List.mem_append_right _ hb)
      exact ⟨(List.pairwise_cons.1 sorted₂).1 b hb, fun _ => first b mem⟩
    · intro b hb c hc
      rcases List.mem_cons.1 hc with rfl | hc
      · refine ⟨sorted₁₂ b hb c List.mem_cons_self, fun back => ?_⟩
        simpa [back] using before b hb
      · exact old₁₂ b hb c hc

namespace TriggerMatch

theorem precedes_iff {a b : TriggerMatch} : a.precedes b ↔ b.1.pattern.length < a.1.pattern.length ∨
    a.1.pattern.length = b.1.pattern.length ∧ a.1.pattern.wildcards ≤ b.1.pattern.wildcards := by
  simp [precedes]

theorem precedes_trans (a b c : TriggerMatch) (hab : a.precedes b) (hbc : b.precedes c) :
    a.precedes c := by
  rw [precedes_iff] at *
  omega

theorem precedes_total (a b : TriggerMatch) : a.precedes b || b.precedes a := by
  rw [Bool.or_eq_true, precedes_iff, precedes_iff]
  omega

end TriggerMatch

open Roster (arrival latest? after)

/-- What was done to the triggers. -/
abbrev Trigger.History := List (Roster.Edit Trigger Text)

/-- A trigger is preferred to another one if its pattern is longer; if it has fewer wildcards and is
as long; or if it came earlier and neither tells them apart. -/
def Trigger.Outranks (history : History) (s t : Trigger) : Prop :=
  t.pattern.length < s.pattern.length ∨ s.pattern.length = t.pattern.length ∧
    (s.pattern.wildcards < t.pattern.wildcards ∨ s.pattern.wildcards = t.pattern.wildcards ∧
      arrival s.pattern.source history < arrival t.pattern.source history)

theorem Trigger.Outranks.asymm {history : History} {s t : Trigger} (h : s.Outranks history t) :
    ¬t.Outranks history s := by
  unfold Outranks at *
  omega

/-- The triggers of a history that match a line, each with its own match, the best one first. -/
structure IsRanking (history : Trigger.History) (line : Text) (ms : List TriggerMatch) : Prop where
  mem : ∀ t captures, (t, captures) ∈ ms ↔
    latest? t.pattern.source history = some t ∧ t.pattern.captures? line = some captures
  ordered : ms.Pairwise fun a b => a.1.Outranks history b.1

namespace IsRanking

variable {history : Trigger.History} {line : Text} {ms ns : List TriggerMatch}

theorem nodup (h : IsRanking history line ms) : ms.Nodup :=
  h.ordered.imp fun above same => (same ▸ above).asymm (same ▸ above)

/-- There is one order only. -/
theorem unique (h : IsRanking history line ms) (h' : IsRanking history line ns) : ms = ns := by
  have perm : ms.Perm ns := (List.perm_ext_iff_of_nodup h.nodup h'.nodup).2 fun (t, captures) =>
    (h.mem t captures).trans (h'.mem t captures).symm
  refine perm.eq_of_pairwise (fun a b _ _ above below => ?_) h.ordered h'.ordered
  exact absurd below above.asymm

theorem head? (h : IsRanking history line ms) (m : TriggerMatch) :
    ms.head? = some m ↔ m ∈ ms ∧ ∀ o ∈ ms, o ≠ m → m.1.Outranks history o.1 := by
  have ordered := h.ordered
  cases ms with
  | nil => simp
  | cons first rest =>
    obtain ⟨above, -⟩ := List.pairwise_cons.1 ordered
    constructor
    · rintro ⟨⟩
      refine ⟨List.mem_cons_self, fun o ho other => above o ?_⟩
      exact (List.mem_cons.1 ho).resolve_left other
    · rintro ⟨hm, foremost⟩
      rcases List.mem_cons.1 hm with rfl | hm
      · rfl
      · have top := above m hm
        by_cases same : first = m
        · rw [same, List.head?_cons]
        · exact absurd top (foremost first List.mem_cons_self same).asymm

end IsRanking

namespace Roster

/-- The triggers that match, in the order of the list. -/
def matching (r : Roster Trigger) (line : Text) : List TriggerMatch :=
  r.items.filterMap fun t => (t.pattern.captures? line).map (t, ·)

theorem mem_matching {r : Roster Trigger} {line : Text} {t : Trigger} {captures : Captures} :
    (t, captures) ∈ r.matching line ↔ t ∈ r.items ∧ t.pattern.captures? line = some captures := by
  simp only [matching, List.mem_filterMap, Option.map_eq_some_iff, Prod.mk.injEq]
  constructor
  · rintro ⟨_, ht, _, hc, rfl, rfl⟩
    exact ⟨ht, hc⟩
  · rintro ⟨ht, hc⟩
    exact ⟨t, ht, captures, hc, rfl, rfl⟩

theorem perm_rank (r : Roster Trigger) (line : Text) : (r.rank line).Perm (r.matching line) :=
  List.mergeSort_perm ..

theorem placed_after (history : Trigger.History) :
    (after history).items.Pairwise fun s t =>
      arrival s.pattern.source history < arrival t.pattern.source history := by
  have ordered := (accords_after history).ordered
  rw [List.pairwise_map] at ordered
  exact ordered

theorem isRanking_rank (history : Trigger.History) (line : Text) :
    IsRanking history line ((after history).rank line) where
  mem t captures := by
    have accords := accords_after history
    rw [(perm_rank _ line).mem_iff, mem_matching, accords.mem]
    rfl
  ordered := by
    have placed := placed_after history
    have earlier : ((after history).matching line).Pairwise fun a b =>
        arrival a.1.pattern.source history < arrival b.1.pattern.source history := by
      refine List.pairwise_filterMap.2 (placed.imp fun {s t} first a ha b hb => ?_)
      obtain ⟨_, -, rfl⟩ := Option.map_eq_some_iff.1 ha
      obtain ⟨_, -, rfl⟩ := Option.map_eq_some_iff.1 hb
      exact first
    refine (pairwise_mergeSort_of_pairwise TriggerMatch.precedes_trans
      TriggerMatch.precedes_total earlier).imp fun {a b} ⟨above, tied⟩ => ?_
    rw [TriggerMatch.precedes_iff] at above tied
    unfold Trigger.Outranks
    omega

end Roster

/-- What the triggers of a history answer to a line. -/
structure PrefersMostSpecific (history : Trigger.History) : Prop where
  /-- A trigger stands where its pattern came first since it was last taken out. -/
  placed : (after history).items.Pairwise fun s t =>
    arrival s.pattern.source history < arrival t.pattern.source history
  /-- A trigger that is declared again keeps its place, and so do the others. -/
  kept : ∀ t p, (latest? p history).isSome →
    arrival p (history ++ [.put t]) = arrival p history
  perm : ∀ line, ((after history).rank line).Perm ((after history).matching line)
  ranked : ∀ line ms, (after history).rank line = ms ↔ IsRanking history line ms
  head : ∀ line, (after history).best? line = ((after history).rank line).head?
  foremost : ∀ line m, (after history).best? line = some m ↔
    m ∈ (after history).matching line ∧
      ∀ o ∈ (after history).matching line, o ≠ m → m.1.Outranks history o.1

theorem prefersMostSpecific_after (history : Trigger.History) :
    PrefersMostSpecific history where
  placed := Roster.placed_after history
  kept t p hp := Roster.arrival_append hp rfl
  perm := Roster.perm_rank _
  ranked line ms := by
    have ranking := Roster.isRanking_rank history line
    exact ⟨fun h => h ▸ ranking, ranking.unique⟩
  head _ := rfl
  foremost line m := by
    have perm := Roster.perm_rank (after history) line
    simp only [← perm.mem_iff]
    exact (Roster.isRanking_rank history line).head? m

end MudClient
