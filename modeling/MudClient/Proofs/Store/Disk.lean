import MudClient.Store.Disk
/-! Disks as trees. Whatever is written, an entry stands once and in a directory, so a way without
steps back leads to the entry that it names. -/
namespace MudClient

namespace NameMap

variable {α : Type} {k : Text}

theorem mem_names_insert (m : NameMap α) (k name : Text) (v : α) :
    name ∈ (m.insert k v).names ↔ name = k ∨ name ∈ m.names := by
  have entry (l : List (Text × α)) :
      name ∈ (insertEntry k v l).map (·.1) ↔ name = k ∨ name ∈ l.map (·.1) := by
    induction l with
    | nil => simp [insertEntry]
    | cons e r ih =>
      rw [insertEntry]
      split
      · simp
      · split
        · rename_i hk
          simp [hk]
        · simp only [List.map_cons, List.mem_cons, ih]
          exact or_left_comm
  exact entry m.entries

theorem mem_names_ofList (l : List (Text × α)) (name : Text) :
    name ∈ (ofList l).names ↔ name ∈ l.map (·.1) := by
  have fold (m : NameMap α) :
      name ∈ (l.foldl (fun m e => m.insert e.1 e.2) m).names ↔
        name ∈ m.names ∨ name ∈ l.map (·.1) := by
    induction l generalizing m with
    | nil => simp
    | cons e l ih =>
      rw [List.foldl_cons, ih, mem_names_insert, List.map_cons, List.mem_cons, or_assoc,
        or_left_comm]
  have none : name ∉ (∅ : NameMap α).names := List.not_mem_nil
  exact (fold ∅).trans (or_iff_right none)

theorem sorted_names (m : NameMap α) : m.names.Pairwise (· < ·) := List.pairwise_map.2 m.sorted

end NameMap

namespace Disk

variable {d d' : Disk} {p q x : Path} {name : Text} {names : List Text} {e : Entry}

/-- Each entry stands once, in a directory, and the root is no file. -/
structure IsTree (d : Disk) : Prop where
  keyed : (d.entries.map (·.1)).Nodup
  root : ∀ text, d.get? [] ≠ some (.file text)
  closed : ∀ p name, (d.get? (p ++ [name])).isSome → d.isDir p

theorem isTree_empty : IsTree .empty :=
  ⟨List.nodup_nil, fun _ => by simp [get?, empty], fun p name h => by simp [get?, empty] at h⟩

theorem keyed_put (h : (d.entries.map (·.1)).Nodup) (p : Path) (e : Entry) :
    ((d.put p e).entries.map (·.1)).Nodup := by
  refine List.nodup_cons.2 ⟨?_, h.sublist (List.filter_sublist.map _)⟩
  simp

theorem mem_entries (h : (d.entries.map (·.1)).Nodup) : (p, e) ∈ d.entries ↔ d.get? p = some e := by
  unfold get?
  generalize d.entries = l at h
  induction l with
  | nil => simp
  | cons f l ih =>
    obtain ⟨a, b⟩ := f
    obtain ⟨fresh, rest⟩ := List.nodup_cons.1 h
    rw [List.mem_cons, List.lookup_cons, ih rest]
    by_cases hp : p = a
    · subst hp
      have gone : l.lookup p ≠ some e := fun hl =>
        fresh (List.mem_map_of_mem (f := (·.1)) ((ih rest).2 hl))
      simp [gone, eq_comm]
    · simp [hp, beq_eq_false_iff_ne.2 hp]

/-- The directories in a directory are those that stand there. -/
theorem mem_dirNames (h : d.IsTree) : name ∈ d.dirNames p ↔ d.isDir (p ++ [name]) := by
  rw [dirNames, NameMap.mem_names_ofList, isDir, decide_eq_true_eq, ← mem_entries h.keyed]
  simp only [List.mem_map, List.mem_filterMap, Prod.exists]
  constructor
  · rintro ⟨_, ⟨⟩, ⟨q, e, he, found⟩, rfl⟩
    split at found
    · rename_i last hl
      split at found
      · rename_i inside
        obtain ⟨way, rfl⟩ := List.getLast?_eq_some_iff.1 hl
        rw [List.dropLast_concat] at inside
        obtain ⟨rfl, rfl⟩ := inside
        cases found
        exact he
      · cases found
    · cases found
  · intro he
    exact ⟨name, (), ⟨p ++ [name], .dir, he, by simp⟩, rfl⟩

/-! ### Ways -/

theorem IsTree.isDir_of_isSome (h : d.IsTree) (hn : names ≠ [])
    (hs : (d.get? (p ++ names)).isSome) : d.isDir p := by
  induction names generalizing p with
  | nil => exact absurd rfl hn
  | cons name names ih =>
    rw [List.append_cons] at hs
    cases names with
    | nil => exact h.closed p name (by simpa using hs)
    | cons next names =>
      have inner := ih (by simp) hs
      rw [isDir, decide_eq_true_eq] at inner
      exact h.closed p name (by rw [inner]; rfl)

/-- A way without steps back leads to the entry that it names. -/
theorem IsTree.resolve? (h : d.IsTree) (up : ['.', '.'] ∉ names) (p : Path) :
    d.resolve? p names = d.get? (p ++ names) := by
  induction names generalizing p with
  | nil => simp [Disk.resolve?]
  | cons name names ih =>
    simp only [List.mem_cons, not_or] at up
    obtain ⟨hn, up⟩ := up
    rw [Disk.resolve?, enter?]
    by_cases hp : d.isDir p
    · simp [hp, Ne.symm hn, ih up]
    · simp only [hp, Bool.not_false, if_true, Option.bind_none]
      cases hs : d.get? (p ++ name :: names) with
      | none => rfl
      | some e =>
        exact absurd (h.isDir_of_isSome (List.cons_ne_nil name names) (by rw [hs]; rfl)) hp

/-! ### Writing -/

theorem IsTree.put (h : d.IsTree) (hp : d.isDir p) (hf : ¬d.isDir (p ++ [name])) (e : Entry) :
    (d.put (p ++ [name]) e).IsTree := by
  refine ⟨keyed_put h.keyed _ _, fun text => ?_, fun q last hq => ?_⟩
  · rw [get?_put, if_neg (by simp)]
    exact h.root text
  · have inside : d.isDir q := by
      rw [get?_put] at hq
      split at hq
      · rename_i same
        rwa [(List.append_inj' same rfl).1]
      · exact h.closed q last hq
    have other : q ≠ p ++ [name] := fun same => hf (same ▸ inside)
    rw [isDir, get?_put, if_neg other]
    exact inside

/-- Directories stand all along a way, and nothing else was changed. -/
structure IsMade (d : Disk) (p : Path) (names : List Text) (d' : Disk) : Prop where
  tree : d'.IsTree
  dirs : ∀ s, s <+: names → d'.isDir (p ++ s)
  kept : ∀ x, (∀ s, s <+: names → x ≠ p ++ s) → d'.get? x = d.get? x

theorem IsMade.cons {m : Disk} (hp : d.isDir p) (same : ∀ x, x ≠ p ++ [name] → m.get? x = d.get? x)
    (made : IsMade m (p ++ [name]) names d') : IsMade d p (name :: names) d' := by
  refine ⟨made.tree, fun s hs => ?_, fun x hx => ?_⟩
  · rcases List.prefix_cons_iff.1 hs with rfl | ⟨t, rfl, ht⟩
    · have kept := made.kept p (by simp)
      rw [List.append_nil, isDir, kept, same p (by simp)]
      exact hp
    · rw [List.append_cons]
      exact made.dirs t ht
  · have outside (t : Path) (ht : t <+: names) : x ≠ p ++ [name] ++ t := by
      rw [← List.append_cons]
      exact hx (name :: t) (List.prefix_cons_iff.2 (.inr ⟨t, rfl, ht⟩))
    rw [made.kept x outside, same x (by simpa using outside [] List.nil_prefix)]

theorem IsTree.makeDirsFrom (h : d.IsTree) (hp : d.isDir p) (up : ['.', '.'] ∉ names)
    (made : d.makeDirsFrom p names = (d', some q)) : q = p ++ names ∧ IsMade d p names d' := by
  induction names generalizing d p with
  | nil =>
    obtain ⟨rfl, same⟩ := Prod.mk.inj made
    refine ⟨(Option.some.inj same).symm.trans (List.append_nil p).symm, h, fun s hs => ?_,
      fun _ _ => rfl⟩
    rwa [List.prefix_nil.1 hs, List.append_nil]
  | cons name names ih =>
    simp only [List.mem_cons, not_or] at up
    have entered : d.enter? p name = some (p ++ [name]) := by
      simp [enter?, hp, Ne.symm up.1]
    rw [Disk.makeDirsFrom, entered] at made
    dsimp only at made
    rw [List.append_cons]
    split at made
    · rename_i stands
      obtain ⟨rfl, more⟩ := ih h (by simp [isDir, stands]) up.2 made
      exact ⟨rfl, more.cons hp fun _ _ => rfl⟩
    · cases made
    · rename_i missing
      split at made
      · cases made
      · have free : ¬d.isDir (p ++ [name]) := by simp [isDir, missing]
        have tree := h.put hp free .dir
        obtain ⟨rfl, more⟩ := ih tree (by simp [isDir]) up.2 made
        exact ⟨rfl, more.cons hp fun x hx => by rw [get?_put, if_neg hx]⟩

theorem IsTree.withRoot (h : d.IsTree) : d.withRoot.IsTree ∧ d.withRoot.isDir [] ∧
    ∀ x, x ≠ [] → d.withRoot.get? x = d.get? x := by
  unfold Disk.withRoot
  split
  · rename_i stands
    refine ⟨h, ?_, fun _ _ => rfl⟩
    obtain ⟨e, he⟩ := Option.isSome_iff_exists.1 stands
    cases e with
    | dir => simp [isDir, he]
    | file text => exact absurd he (h.root text)
  · refine ⟨⟨keyed_put h.keyed _ _, fun text => by simp, fun p name hp => ?_⟩, by simp [isDir],
      fun x hx => by rw [get?_put, if_neg hx]⟩
    rw [get?_put, if_neg (by simp)] at hp
    rw [isDir, get?_put]
    split
    · rfl
    · exact h.closed p name hp

/-- A file stands where it was written, in directories, and nothing else was changed. -/
structure IsWritten (d : Disk) (dirs : List Text) (name : Text) (text : Option Text) (d' : Disk) :
    Prop where
  tree : d'.IsTree
  file : d'.get? (dirs ++ [name]) = some (.file text)
  inside : ∀ s, s <+: dirs → d'.isDir s
  kept : ∀ x, x ≠ dirs ++ [name] → ¬x <+: dirs → d'.get? x = d.get? x

theorem IsTree.write {dirs : List Text} {text : Option Text} (h : d.IsTree)
    (up : ['.', '.'] ∉ dirs) (written : d.write dirs name text = (d', true)) :
    IsWritten d dirs name text d' := by
  unfold Disk.write makeDirs at written
  split at written
  · cases written
  · rename_i m p hm
    split at hm
    · cases hm
    · obtain ⟨tree, root, others⟩ := h.withRoot
      obtain ⟨rfl, made⟩ := tree.makeDirsFrom root up hm
      split at written
      · cases written
      · rename_i allowed
        cases written
        simp only [Bool.or_eq_true, not_or] at allowed
        have free : ¬m.isDir (p ++ [name]) := allowed.2
        have apart (s : Path) (hs : s <+: p) : s ≠ p ++ [name] := by
          rintro rfl
          have := hs.length_le
          rw [List.length_append, List.length_singleton] at this
          omega
        refine ⟨made.tree.put (made.dirs p List.prefix_rfl) free _, by simp, fun s hs => ?_,
          fun x hx outside => ?_⟩
        · rw [isDir, get?_put, if_neg (apart s hs)]
          exact made.dirs s hs
        · have way : ∀ s, s <+: p → x ≠ [] ++ s := fun s hs same => outside (same ▸ hs)
          have below : x ≠ [] := fun same => outside (same ▸ List.nil_prefix)
          rw [get?_put, if_neg hx, made.kept x way, others x below]

/-! ### Writing goes well

A name that is too long is the only obstacle, where no file is in the way. -/

theorem IsTree.makeDirsFrom_of_short (h : d.IsTree) (hp : d.isDir p) (up : ['.', '.'] ∉ names)
    (short : ∀ name ∈ names, isTooLong name = false)
    (free : ∀ s, s <+: names → ∀ text, d.get? (p ++ s) ≠ some (.file text)) :
    (d.makeDirsFrom p names).2 = some (p ++ names) := by
  induction names generalizing d p with
  | nil => simp [Disk.makeDirsFrom]
  | cons name names ih =>
    simp only [List.mem_cons, not_or] at up
    obtain ⟨ownShort, short⟩ := List.forall_mem_cons.1 short
    have entered : d.enter? p name = some (p ++ [name]) := by
      simp [enter?, hp, Ne.symm up.1]
    have below (s : Path) (hs : s <+: names) (text : Option Text) :
        d.get? (p ++ [name] ++ s) ≠ some (.file text) := by
      rw [← List.append_cons]
      exact free (name :: s) (List.prefix_cons_iff.2 (.inr ⟨s, rfl, hs⟩)) text
    rw [Disk.makeDirsFrom, entered, List.append_cons p name names]
    dsimp only
    split
    · rename_i stands
      exact ih h (by simp [isDir, stands]) up.2 short below
    · rename_i text stands
      exact absurd stands (by simpa using below [] List.nil_prefix text)
    · rename_i missing
      rw [ownShort, if_neg Bool.false_ne_true]
      have unmade : ¬d.isDir (p ++ [name]) := by simp [isDir, missing]
      refine ih (h.put hp unmade .dir) (by simp [isDir]) up.2 short fun s hs text => ?_
      rw [get?_put]
      split
      · simp
      · exact below s hs text

theorem IsTree.write_of_short {dirs : List Text} {text : Option Text} (h : d.IsTree)
    (up : ['.', '.'] ∉ name :: dirs) (nul : ∀ n ∈ name :: dirs, '\x00' ∉ n)
    (short : ∀ n ∈ name :: dirs, isTooLong n = false)
    (free : ∀ s, s <+: dirs → ∀ text, d.get? s ≠ some (.file text))
    (file : ¬d.isDir (dirs ++ [name])) : (d.write dirs name text).2 := by
  simp only [List.mem_cons, not_or] at up
  obtain ⟨ownNul, nul⟩ := List.forall_mem_cons.1 nul
  obtain ⟨ownShort, short⟩ := List.forall_mem_cons.1 short
  obtain ⟨tree, root, others⟩ := h.withRoot
  have named : dirs.any (·.contains '\x00') = false := by
    simpa using nul
  have rootFree (s : Path) (hs : s <+: dirs) (text : Option Text) :
      d.withRoot.get? ([] ++ s) ≠ some (.file text) := by
    by_cases hn : s = []
    · subst hn
      exact tree.root text
    · rw [List.nil_append, others s hn]
      exact free s hs text
  have made := tree.makeDirsFrom_of_short root up.2 short rootFree
  obtain ⟨m, hm⟩ : ∃ m, d.withRoot.makeDirsFrom [] dirs = (m, some dirs) := ⟨_, Prod.ext rfl made⟩
  have kept := (tree.makeDirsFrom root up.2 hm).2.kept (dirs ++ [name]) fun s hs same => by
    have := hs.length_le
    rw [List.nil_append] at same
    rw [← same, List.length_append, List.length_singleton] at this
    omega
  have open_ : m.isDir (dirs ++ [name]) = false := by
    rw [others _ (by simp)] at kept
    simpa [isDir, kept] using file
  rw [Disk.write, makeDirs, named, if_neg Bool.false_ne_true, hm]
  simp [ownShort, ownNul, Ne.symm up.1, open_]

end Disk
end MudClient
