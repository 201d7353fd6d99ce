import Mathlib.Data.List.Forall2
import MudClient.Pattern.Basic
import MudClient.Proofs.Script.Written
/-! Wildcard patterns as regular expressions. The pieces of a pattern are escaped and a lazy group
stands for each star; the expression is anchored and its letters match in either case. It is read as
it was meant, whatever characters the pieces have. -/
namespace MudClient

namespace Regex

open Unicode (CodeSet)

/-- The text in which every character of `t` stands for itself. -/
def quote (t : Text) : Text := t.flatMap fun c => if Reader.isMeta c then ['\\', c] else [c]

/-- The expression in whose place a wildcard pattern stands. -/
def translate (source : Text) : Text :=
  "(?i)^".toList ++ Text.join "(.*?)".toList ((Text.splitAtChar '*' source).map quote) ++ ['$']

variable {fuel g n : Nat} {items : List Node} {r t first : Text} {pieces : List Text} {c : Char}

namespace Reader

theorem choices_ignoreCase (fuel g : Nat) (items : List Node) (r : Text) :
    (choices (fuel + 1) items).run ⟨"(?i)".toList ++ r, g, [], false⟩ =
      (choices fuel (.mode [('i', true)] :: items)).run ⟨r, g, [], false⟩ := rfl

theorem choices_lineStart (fuel g : Nat) (items : List Node) (r : Text) :
    (choices (fuel + 1) items).run ⟨'^' :: r, g, [], false⟩ =
      (choices fuel (.lineStart :: items)).run ⟨r, g, [], false⟩ := rfl

theorem choices_lineEnd (fuel g : Nat) (items : List Node) :
    (choices (fuel + 2) items).run ⟨['$'], g, [], false⟩ =
      some (sequenceOf (.lineEnd :: items), ⟨[], g, [], false⟩) := rfl

/-- What a star is read as. -/
def starNode (index : Nat) : Node := .capture index none (.repetition .dot 0 none false)

theorem choices_star (fuel g : Nat) (items : List Node) (r : Text) :
    (choices (fuel + 4) items).run ⟨"(.*?)".toList ++ r, g, [], false⟩ =
      (choices (fuel + 3) (starNode (g + 1) :: items)).run ⟨r, g + 1, [], false⟩ := rfl

theorem choices_meta (h : isMeta c) :
    (choices (fuel + 1) items).run ⟨'\\' :: c :: r, g, [], false⟩ =
      (choices fuel (.literal ⟨c, false⟩ :: items)).run ⟨r, g, [], false⟩ := by
  have known : c ∈ "\\.+*?()|[]\x7b\x7d^$#&-~".toList := by simpa [isMeta] using h
  simp only [String.reduceToList, List.mem_cons, List.not_mem_nil, or_false] at known
  rcases known with rfl | rfl | rfl | rfl | rfl | rfl | rfl | rfl | rfl | rfl | rfl | rfl | rfl |
    rfl | rfl | rfl | rfl | rfl <;> rfl

theorem primitive_plain (h : isMeta c = false) :
    (primitive c).run ⟨c :: r, g, [], false⟩ = some (.literal ⟨c, false⟩, ⟨r, g, [], false⟩) := by
  have ne {d : Char} (hd : isMeta d) : c ≠ d := by
    rintro rfl
    rw [h] at hd
    cases hd
  unfold primitive
  split
  · exact absurd rfl (ne rfl)
  · exact absurd rfl (ne rfl)
  · exact absurd rfl (ne rfl)
  · exact absurd rfl (ne rfl)
  · rfl

theorem choices_plain (h : isMeta c = false) :
    (choices (fuel + 1) items).run ⟨c :: r, g, [], false⟩ =
      (choices fuel (.literal ⟨c, false⟩ :: items)).run ⟨r, g, [], false⟩ := by
  have ne {d : Char} (hd : isMeta d) : c ≠ d := by
    rintro rfl
    rw [h] at hd
    cases hd
  have spaces : skipSpace.run ⟨c :: r, g, [], false⟩ = some ((), ⟨c :: r, g, [], false⟩) := rfl
  have peeked : peek?.run ⟨c :: r, g, [], false⟩ = some (some c, ⟨c :: r, g, [], false⟩) := rfl
  generalize hr : (choices fuel (.literal ⟨c, false⟩ :: items)).run ⟨r, g, [], false⟩ = result
  unfold choices
  simp only [StateT.run_bind, spaces, peeked, Option.bind_eq_bind, Option.bind_some]
  split
  · cases ‹some c = none›
  · exact absurd (Option.some.inj ‹_›) (ne rfl)
  · exact absurd (Option.some.inj ‹_›) (ne rfl)
  · exact absurd (Option.some.inj ‹_›) (ne rfl)
  · exact absurd (Option.some.inj ‹_›) (ne rfl)
  · rename_i same
    cases same
    split
    · exact absurd rfl (ne rfl)
    · exact absurd rfl (ne rfl)
    · exact absurd rfl (ne rfl)
    · exact absurd rfl (ne rfl)
    · rw [StateT.run_bind, primitive_plain h]
      exact hr

def literals (t : Text) : List Node := t.map fun c => .literal ⟨c, false⟩

theorem choices_quote (items : List Node) (hf : (quote t ++ r).length < fuel) : ∃ n, r.length < n ∧
    (choices fuel items).run ⟨quote t ++ r, g, [], false⟩ =
      (choices n ((literals t).reverse ++ items)).run ⟨r, g, [], false⟩ := by
  induction t generalizing fuel items with
  | nil => exact ⟨fuel, hf, rfl⟩
  | cons c t ih =>
    obtain ⟨fuel, rfl⟩ := Nat.exists_eq_succ_of_ne_zero (Nat.ne_of_gt (Nat.zero_lt_of_lt hf))
    have first : quote (c :: t) = (if isMeta c then ['\\', c] else [c]) ++ quote t :=
      List.flatMap_cons
    rw [first, List.append_assoc] at hf ⊢
    have read : (choices (fuel + 1) items).run
        ⟨(if isMeta c then ['\\', c] else [c]) ++ (quote t ++ r), g, [], false⟩ =
          (choices fuel (.literal ⟨c, false⟩ :: items)).run ⟨quote t ++ r, g, [], false⟩ := by
      split
      · exact choices_meta ‹_›
      · exact choices_plain (Bool.eq_false_iff.2 ‹_›)
    have shorter : (quote t ++ r).length < fuel := by
      rw [List.length_append] at hf
      split at hf <;> simp at hf ⊢ <;> omega
    obtain ⟨n, hn, later⟩ := ih (.literal ⟨c, false⟩ :: items) shorter
    refine ⟨n, hn, ?_⟩
    rw [read, later]
    simp [literals]

/-- The nodes of the pieces after a star, if so many groups were read before. -/
def starNodes (g : Nat) : List Text → List Node
  | [] => []
  | piece :: pieces => starNode (g + 1) :: literals piece ++ starNodes (g + 1) pieces

theorem choices_pieces (items : List Node)
    (hf : (pieces.flatMap (fun p => "(.*?)".toList ++ quote p) ++ r).length < fuel) :
    ∃ n, r.length < n ∧
      (choices fuel items).run
          ⟨pieces.flatMap (fun p => "(.*?)".toList ++ quote p) ++ r, g, [], false⟩ =
        (choices n ((starNodes g pieces).reverse ++ items)).run
          ⟨r, g + pieces.length, [], false⟩ := by
  induction pieces generalizing fuel items g with
  | nil => exact ⟨fuel, hf, rfl⟩
  | cons piece pieces ih =>
    rw [List.flatMap_cons, List.append_assoc, List.append_assoc] at hf ⊢
    obtain ⟨fuel, rfl⟩ : ∃ n, fuel = n + 4 := ⟨fuel - 4, by simp at hf; omega⟩
    have long : (quote piece ++
        (pieces.flatMap (fun p => "(.*?)".toList ++ quote p) ++ r)).length < fuel + 3 := by
      simp at hf ⊢
      omega
    obtain ⟨n, hn, read⟩ := choices_quote (g := g + 1) (starNode (g + 1) :: items) long
    obtain ⟨m, hm, later⟩ := ih (g := g + 1)
      ((literals piece).reverse ++ starNode (g + 1) :: items) hn
    refine ⟨m, hm, ?_⟩
    calc _ = _ := choices_star fuel g items _
      _ = _ := read
      _ = _ := later
      _ = _ := by
        rw [List.length_cons, Nat.add_right_comm, Nat.add_assoc g]
        simp [starNodes]

end Reader

open Reader

/-- The items of a run, the first one first. -/
def runOf : List Node → Node
  | [] => .empty
  | [n] => n
  | n :: m :: ns => .sequence n (runOf (m :: ns))

theorem foldl_sequence (n : Node) (ns after : List Node) :
    ns.foldl (fun r n => .sequence n r) (runOf (n :: after)) =
      runOf (ns.reverse ++ n :: after) := by
  induction ns generalizing n after with
  | nil => rfl
  | cons m ns ih =>
    have := ih m (n :: after)
    rw [List.foldl_cons, List.reverse_cons, List.append_assoc]
    exact this

theorem sequenceOf_reverse (ns : List Node) : sequenceOf ns = runOf ns.reverse := by
  cases ns with
  | nil => rfl
  | cons n ns => simpa [sequenceOf, runOf] using foldl_sequence n ns []

/-- What a wildcard pattern is read as. -/
def nodes (first : Text) (pieces : List Text) : List Node :=
  Node.mode [('i', true)] :: .lineStart :: literals first ++ starNodes 0 pieces ++ [Node.lineEnd]

theorem translate_eq {source : Text} (h : Text.splitAtChar '*' source = first :: pieces) :
    translate source = "(?i)".toList ++ ('^' :: (quote first ++
      (pieces.flatMap (fun p => "(.*?)".toList ++ quote p) ++ ['$']))) := by
  show "(?i)^".toList ++
    Text.join "(.*?)".toList ((Text.splitAtChar '*' source).map quote) ++ ['$'] = _
  rw [h, List.map_cons, Script.join_cons, List.flatMap_map]
  simp

theorem choices_translate {source : Text}
    (h : Text.splitAtChar '*' source = first :: pieces) :
    (choices ((translate source).length + 1) []).run ⟨translate source, 0, [], false⟩ =
      some (runOf (nodes first pieces), ⟨[], pieces.length, [], false⟩) := by
  have long : (translate source).length = 5 + (quote first ++
      (pieces.flatMap (fun p => "(.*?)".toList ++ quote p) ++ ['$'])).length := by
    rw [translate_eq h]
    simp
    omega
  obtain ⟨fuel, hf⟩ : ∃ fuel, (translate source).length + 1 = fuel + 2 ∧ (quote first ++
      (pieces.flatMap (fun p => "(.*?)".toList ++ quote p) ++ ['$'])).length < fuel :=
    ⟨(translate source).length - 1, by omega, by omega⟩
  obtain ⟨m, hm, firstRead⟩ := choices_quote (g := 0) [.lineStart, .mode [('i', true)]] hf.2
  obtain ⟨n, hn, piecesRead⟩ := choices_pieces (g := 0)
    ((literals first).reverse ++ [.lineStart, .mode [('i', true)]]) hm
  obtain ⟨n, rfl⟩ : ∃ k, n = k + 2 := ⟨n - 2, by simp at hn; omega⟩
  rw [hf.1, translate_eq h]
  calc _ = _ := choices_ignoreCase (fuel + 1) 0 [] _
    _ = _ := choices_lineStart fuel 0 [.mode [('i', true)]] _
    _ = _ := firstRead
    _ = _ := piecesRead
    _ = _ := choices_lineEnd n (0 + pieces.length) _
    _ = _ := by rw [sequenceOf_reverse]; simp [nodes]

theorem depthIn_runOf {ns : List Node} (h : ∀ n ∈ ns, n.depthIn true false ≤ 2) :
    (runOf ns).depthIn true false ≤ 2 := by
  induction ns with
  | nil => exact Nat.zero_le _
  | cons n ns ih =>
    obtain ⟨own, others⟩ := List.forall_mem_cons.1 h
    cases ns with
    | nil => exact own
    | cons m ns => exact Nat.max_le.2 ⟨own, ih others⟩

theorem depthIn_starNodes (g : Nat) (pieces : List Text) :
    ∀ n ∈ starNodes g pieces, n.depthIn true false ≤ 2 := by
  induction pieces generalizing g with
  | nil => simp [starNodes]
  | cons piece pieces ih =>
    simp only [starNodes, List.cons_append, List.mem_cons, List.mem_append]
    rintro n (rfl | hn | hn)
    · exact Nat.le_refl 2
    · obtain ⟨c, -, rfl⟩ := List.mem_map.1 hn
      exact Nat.zero_le _
    · exact ih (g + 1) n hn

theorem depth_nodes (first : Text) (pieces : List Text) :
    (runOf (nodes first pieces)).depth ≤ 3 := by
  have inner : (runOf (nodes first pieces)).depthIn true false ≤ 2 := by
    refine depthIn_runOf fun n hn => ?_
    simp only [nodes, List.cons_append, List.mem_cons, List.mem_append, List.not_mem_nil,
      or_false] at hn
    rcases hn with rfl | rfl | (hn | hn) | rfl
    · exact Nat.zero_le _
    · exact Nat.zero_le _
    · obtain ⟨c, -, rfl⟩ := List.mem_map.1 hn
      exact Nat.zero_le _
    · exact depthIn_starNodes 0 pieces n hn
    · exact Nat.zero_le _
  simp only [nodes, runOf, List.cons_append, Node.depth, Node.depthIn] at inner ⊢
  simp at inner ⊢
  omega

/-- A wildcard pattern is read as the run of its literals and groups, whatever its characters. -/
theorem ofText?_translate {source : Text}
    (h : Text.splitAtChar '*' source = first :: pieces) :
    Node.ofText? (translate source) = some (runOf (nodes first pieces)) := by
  have shallow : (runOf (nodes first pieces)).depth ≤ maxDepth :=
    Nat.le_trans (depth_nodes first pieces) (by decide)
  unfold Node.ofText?
  rw [choices_translate h]
  simp [shallow]

/-! ### The meaning -/

/-- Letters match in either case. -/
def Mode.caseless : Mode := { Mode.initial with ignoreCase := true }

/-- The expressions of a run, the first one first. -/
def chain : List Regex → Regex
  | [] => .empty
  | [r] => r
  | r :: s :: rs => .sequence r (chain (s :: rs))

theorem ofNode?_runOf {m : Mode} {ns : List Node} {rs : List Regex}
    (h : List.Forall₂ (fun n r => ofNode? m n = some (r, m)) ns rs) :
    ofNode? m (runOf ns) = some (chain rs, m) := by
  induction h with
  | nil => rfl
  | cons own others ih =>
    cases others with
    | nil => exact own
    | cons => simp [runOf, chain, ofNode?, own, ih]

/-- The character in either case. -/
def letter (c : Char) : Regex := .char (CodeSet.closeUnderFold ⟨#[(c.toNat, c.toNat)]⟩)

/-- As few characters as possible, but no newline. -/
def star (index : Nat) : Regex :=
  .capture index none (.repetition (.char (CodeSet.singleton '\n').compl) 0 none false)

/-- The pieces after a star, if so many groups precede. -/
def stars (g : Nat) : List Text → List Regex
  | [] => []
  | piece :: pieces => star (g + 1) :: piece.map letter ++ stars (g + 1) pieces

/-- What a wildcard pattern means as an expression. -/
def wildcard (first : Text) (pieces : List Text) : Regex :=
  .sequence .empty
    (chain (.look .textStart :: first.map letter ++ stars 0 pieces ++ [.look .textEnd]))

theorem ofNode?_literals (t : Text) : List.Forall₂
    (fun n r => ofNode? .caseless n = some (r, .caseless)) (literals t) (t.map letter) := by
  simp only [literals, List.forall₂_map_left_iff, List.forall₂_map_right_iff, List.forall₂_same]
  intro c _
  rfl

theorem ofNode?_starNodes (g : Nat) (pieces : List Text) : List.Forall₂
    (fun n r => ofNode? .caseless n = some (r, .caseless)) (starNodes g pieces)
      (stars g pieces) := by
  induction pieces generalizing g with
  | nil => exact .nil
  | cons piece pieces ih =>
    exact .cons rfl (List.rel_append (ofNode?_literals piece) (ih (g + 1)))

theorem ofNode?_nodes (first : Text) (pieces : List Text) :
    ofNode? .initial (runOf (nodes first pieces)) = some (wildcard first pieces, .caseless) := by
  have rest : List.Forall₂ (fun n r => ofNode? .caseless n = some (r, .caseless))
      (.lineStart :: literals first ++ starNodes 0 pieces ++ [.lineEnd])
      (.look .textStart :: first.map letter ++ stars 0 pieces ++ [.look .textEnd]) :=
    .cons rfl (List.rel_append (List.rel_append (ofNode?_literals first)
      (ofNode?_starNodes 0 pieces)) (.cons rfl .nil))
  have read := ofNode?_runOf rest
  have changed : ModeChange.apply [('i', true)] .initial = .caseless := rfl
  simp only [List.cons_append, List.append_assoc] at read
  simp [nodes, runOf, ofNode?, changed, read, wildcard]

end Regex
end MudClient
