import MudClient.Proofs.Pattern.Span
import MudClient.Proofs.Reaction.Ranking
import MudClient.Proofs.World.Course
/-! Text of the server. It is handled line by line, so what is shown of two texts one after the
other is what is shown of them together, if the first one ends with its last line. The mark of a text
is set by the first line that is shown and marked. -/
namespace MudClient

open Script (Nanos Chance)

namespace Text

variable {a : Text}

theorem linesFrom_append_newline (line a b : Text) :
    linesFrom line (a ++ '\n' :: b) = linesFrom line (a ++ ['\n']) ++ linesFrom [] b := by
  induction a generalizing line with
  | nil => rfl
  | cons c a ih =>
    rw [List.cons_append, List.cons_append, linesFrom, linesFrom]
    split
    · rw [ih, List.cons_append]
    · exact ih _

/-- No line lies across the end of a text that is empty or ends with a newline. -/
theorem lines_append (h : a = [] ∨ a.getLast? = some '\n') (b : Text) :
    lines (a ++ b) = lines a ++ lines b := by
  rcases h with rfl | h
  · rfl
  · obtain ⟨a, rfl⟩ := List.getLast?_eq_some_iff.1 h
    rw [List.append_assoc]
    exact linesFrom_append_newline [] a b

end Text

namespace Reception

/-- What was shown first and what was shown then. The first mark stays; one that came then is as
many lines further down as were shown first. -/
def append (r s : Reception) : Reception :=
  ⟨r.lines ++ s.lines, r.mark <|> s.mark.map fun m => { m with line := m.line + r.lines.length }⟩

theorem append_empty (r : Reception) : r.append empty = r := by
  obtain ⟨lines, mark⟩ := r
  simp [append, empty]

theorem append_add (r s : Reception) (line : Text) (column : Option Nat) :
    r.append (s.add line column) = (r.append s).add line column := by
  obtain ⟨lines, mark⟩ := r
  obtain ⟨lines', mark'⟩ := s
  cases mark <;> cases mark' <;> cases column <;> simp [append, add, Nat.add_comm]

theorem mark_add_none (r : Reception) (line : Text) : (r.add line none).mark = r.mark := by
  simp [add]

end Reception

namespace World

variable {w v u : World} {r s : Reception} {now : Nanos} {line : Text} {ls : List Text}

section Batches

theorem showLine_append (w : World) (r s : Reception) (shown : Option Text) (column : Option Nat) :
    showLine (w, r.append s) shown column =
      ((showLine (w, s) shown column).1, r.append (showLine (w, s) shown column).2) := by
  cases shown with
  | none => rfl
  | some shown => exact Prod.ext rfl (r.append_add s shown column).symm

section

variable [Lua] [Chance]

/-- What was shown before changes nothing for a line. -/
theorem handleLine_append (now : Nanos) (w : World) (r s : Reception) (line : Text) :
    handleLine now (w, r.append s) line =
      (fun p => (p.1, r.append p.2)) <$> handleLine now (w, s) line := by
  unfold handleLine
  dsimp only
  cases w.triggers.best? line with
  | none => exact congrArg Except.ok (showLine_append w r s (some line) none)
  | some found =>
    obtain ⟨t, captures⟩ := found
    simp only [showLine_append, map_bind, map_pure]

theorem foldlM_handleLine_append (now : Nanos) (w : World) (r s : Reception) (ls : List Text) :
    ls.foldlM (handleLine now) (w, r.append s) =
      (fun p => (p.1, r.append p.2)) <$> ls.foldlM (handleLine now) (w, s) := by
  induction ls generalizing w s with
  | nil => rfl
  | cons line ls ih =>
    rw [List.foldlM_cons, List.foldlM_cons, handleLine_append]
    cases handleLine now (w, s) line with
    | error crash => rfl
    | ok p => exact ih p.1 p.2

/-- Where a text is cut between two lines makes no difference. -/
theorem handleMessage_append {a : Text} (h : a = [] ∨ a.getLast? = some '\n') (w : World) (b : Text)
    (now : Nanos) : w.handleMessage (a ++ b) now = do
      let (v, r) ← w.handleMessage a now
      let (u, s) ← v.handleMessage b now
      return (u, r.append s) := by
  unfold handleMessage
  rw [Text.lines_append h, List.foldlM_append]
  cases (Text.lines a).foldlM (handleLine now) (w, .empty) with
  | error crash => rfl
  | ok p =>
    obtain ⟨v, r⟩ := p
    have rest := foldlM_handleLine_append now v r .empty (Text.lines b)
    rw [r.append_empty] at rest
    exact rest.trans (map_eq_pure_bind _ _)

end

/-- Triggers that mute, write, declare another one, cannot be read, and mark. -/
def counting : Text := Text.join ['\n']
  ["#trigger \x7bgold *\x7d \x7b#writevar gold $1;count\x7d +mute +mark".toList,
    "#trigger stop \x7b#trigger \x7bAn *\x7d run \x7b$1 \x7d\x7d \x7b$gold coins\x7d".toList,
    "#trigger \x7bAn *\x7d #nosuch +mark".toList, "#trigger ^orc|dragon \x7b\x7d +mark".toList]

def counted : Text := "gold 5\r\nAn elf\nstop\n".toList

def metThen : Text := "An elf\na dragon\norc".toList

/-- The second text needs the variable and the trigger of the first one, and is marked further down
behind it. -/
theorem handleMessage_append_counting : ∃ w v u r s, loaded? counting = some w ∧
    counted.getLast? = some '\n' ∧ (w.bind .direct).handleMessage counted 0 = .ok (v, r) ∧
    v.handleMessage metThen 0 = .ok (u, s) ∧ s.mark = some ⟨1, 2⟩ ∧
    (w.bind .direct).handleMessage (counted ++ metThen) 0 = .ok (u, r.append s) ∧
    r.append s = ⟨["An elf".toList, "5 coins".toList, "elf ".toList, "a dragon".toList,
      "orc".toList], some ⟨3, 2⟩⟩ ∧
    u.output.filter (· matches .write _) = [.write "count".toList, .write "run".toList] := by
  have runs : (loaded? counting).any (fun w =>
      ((w.bind .direct).handleMessage counted 0).toOption.any fun first =>
        (first.1.handleMessage metThen 0).toOption.any fun second =>
          decide (second.2.mark = some ⟨1, 2⟩ ∧ first.2.append second.2 =
            ⟨["An elf".toList, "5 coins".toList, "elf ".toList, "a dragon".toList, "orc".toList],
              some ⟨3, 2⟩⟩ ∧ second.1.output.filter (· matches .write _) =
                [.write "count".toList, .write "run".toList])) = true := by
    decide +kernel
  obtain ⟨w, hl, runs⟩ := (Option.any_eq_true _ _).1 runs
  obtain ⟨⟨v, r⟩, first, runs⟩ := (Option.any_eq_true _ _).1 runs
  obtain ⟨⟨u, s⟩, second, runs⟩ := (Option.any_eq_true _ _).1 runs
  obtain ⟨mark, together, writes⟩ := of_decide_eq_true runs
  have first := toOption_eq_some.1 first
  have second := toOption_eq_some.1 second
  have newline : counted.getLast? = some '\n' := by decide
  have both := handleMessage_append (.inr newline) (w.bind .direct) metThen 0
  refine ⟨w, v, u, r, s, hl, newline, first, second, mark, ?_, together, writes⟩
  rw [both, first]
  exact congrArg (· >>= fun q => pure (q.1, r.append q.2)) second

end Batches

section Marks

variable [Lua] [Chance] {t : Trigger} {captures : Captures} {shown : Text} {m : Mark}

/-- The trigger that fires on a line marks it: its action can be read, and it shows the line, or
another text in its place. -/
structure IsMarked (now : Nanos) (w : World) (line : Text) (t : Trigger) (captures : Captures)
    (shown : Text) : Prop where
  best : w.triggers.best? line = some (t, captures)
  marks : t.mark
  displays : ∃ run, @Trigger.fire _ w.chance t captures w.engine now = .ok run ∧
    (∀ e, run.result = .error e → e.isParseFailure = false) ∧
    t.displayText line run.engine.locals = some shown

omit [Lua] [Chance] in
theorem shownBy_eq {run : Execution} {column : Nat} :
    shownBy t captures line run = (some shown, some column) ↔ t.mark ∧
      (∀ e, run.result = .error e → e.isParseFailure = false) ∧
      t.displayText line run.engine.locals = some shown ∧ captures.start = column := by
  have marked : shownBy.shown t captures line run = (some shown, some column) ↔ t.mark ∧
      t.displayText line run.engine.locals = some shown ∧ captures.start = column := by
    unfold shownBy.shown
    rw [Prod.mk.injEq]
    by_cases hm : t.mark <;> simp [hm, and_comm]
  unfold shownBy
  split
  · rename_i e he
    by_cases hp : e.isParseFailure <;> simp [he, hp, marked]
  · rename_i he
    simp [he, marked]

theorem IsMarked.captures?_eq (h : IsMarked now w line t captures shown) :
    t.pattern.captures? line = some captures := by
  have first := List.mem_of_head? h.best
  exact (Roster.mem_matching.1 ((Roster.perm_rank w.triggers line).mem_iff.1 first)).2

/-- What a line adds to what was shown. Only a marked line has a column. -/
theorem handleLine_adds (h : handleLine now (w, r) line = .ok (v, s)) :
    (∃ t captures shown, IsMarked now w line t captures shown ∧
      s = r.add shown (some captures.start)) ∨
      (∀ t captures shown, ¬ IsMarked now w line t captures shown) ∧ s.mark = r.mark ∧
        r.lines <+: s.lines := by
  unfold handleLine at h
  dsimp only at h
  split at h
  · rename_i none
    cases h
    refine .inr ⟨fun t captures shown marked => ?_, r.mark_add_none _, List.prefix_append _ _⟩
    cases none.symm.trans marked.best
  · rename_i t captures best
    obtain ⟨run, fired, h⟩ := bind_eq_ok.1 h
    obtain ⟨u, -, h⟩ := bind_eq_ok.1 h
    cases h
    -- Whoever marks this line is the trigger that has fired.
    have only {t' : Trigger} {captures' : Captures} {shown : Text}
        (marked : IsMarked now w line t' captures' shown) :
        shownBy t captures line run = (some shown, some captures.start) := by
      cases best.symm.trans marked.best
      obtain ⟨run', fired', readable, display⟩ := marked.displays
      cases fired.symm.trans fired'
      exact shownBy_eq.2 ⟨marked.marks, readable, display, rfl⟩
    rcases hs : shownBy t captures line run with ⟨_ | shown, column⟩
    · refine .inr ⟨fun t' captures' shown marked => ?_, rfl, List.prefix_rfl⟩
      cases hs.symm.trans (only marked)
    · cases column with
      | none =>
        refine .inr ⟨fun t' captures' shown marked => ?_, r.mark_add_none _, List.prefix_append _ _⟩
        cases hs.symm.trans (only marked)
      | some column =>
        obtain ⟨marks, readable, display, rfl⟩ := shownBy_eq.1 hs
        exact .inl ⟨t, captures, shown, ⟨best, marks, run, fired, readable, display⟩, rfl⟩

/-- Some line is marked in the state in which it is handled. -/
def ComesToMark (now : Nanos) (w : World) (ls : List Text) : Prop :=
  ∃ u s line t captures shown, ComesTo (handleLine now) (w, .empty) ls (u, s) line ∧
    IsMarked now u line t captures shown

theorem comesToMark_concat (h : ls.foldlM (handleLine now) (w, .empty) = .ok (u, s)) :
    ComesToMark now w (ls ++ [line]) ↔
      ComesToMark now w ls ∨ ∃ t captures shown, IsMarked now u line t captures shown := by
  constructor
  · rintro ⟨u', s', line', t, captures, shown, comes, marked⟩
    rcases comesTo_concat.1 comes with comes | ⟨rfl, h'⟩
    · exact .inl ⟨u', s', line', t, captures, shown, comes, marked⟩
    · cases h.symm.trans h'
      exact .inr ⟨t, captures, shown, marked⟩
  · rintro (⟨u', s', line', t, captures, shown, comes, marked⟩ | ⟨t, captures, shown, marked⟩)
    · exact ⟨u', s', line', t, captures, shown, comesTo_concat.2 (.inl comes), marked⟩
    · exact ⟨u, s, line, t, captures, shown, comesTo_concat.2 (.inr ⟨rfl, h⟩), marked⟩

/-- The first line that is marked, with the lines that were shown before it. -/
def IsFirstMarked (now : Nanos) (w : World) (ls earlier : List Text) (line : Text) (t : Trigger)
    (captures : Captures) (shown : Text) : Prop :=
  ∃ before after u mark, ls = before ++ line :: after ∧
    before.foldlM (handleLine now) (w, .empty) = .ok (u, ⟨earlier, mark⟩) ∧
    IsMarked now u line t captures shown ∧ ¬ ComesToMark now w before

/-- The mark stands in the first marked line, and what comes later leaves it there. -/
structure IsSetBy (now : Nanos) (w : World) (ls : List Text) (r : Reception) (m : Mark)
    (earlier : List Text) (line : Text) (t : Trigger) (captures : Captures) (shown : Text) :
    Prop where
  first : IsFirstMarked now w ls earlier line t captures shown
  line : m.line = earlier.length
  shown : earlier ++ [shown] <+: r.lines
  column : m.column = captures.start

theorem IsSetBy.concat {earlier : List Text} {line next : Text}
    (h : IsSetBy now w ls r m earlier line t captures shown) (hl : r.lines <+: s.lines) :
    IsSetBy now w (ls ++ [next]) s m earlier line t captures shown where
  first := by
    obtain ⟨before, after, u, mark, rfl, first⟩ := h.first
    exact ⟨before, after ++ [next], u, mark, by simp, first⟩
  line := h.line
  shown := h.shown.trans hl
  column := h.column

/-- There is a mark exactly if a line is marked, and it is set by the first one. -/
structure MarksFirst (now : Nanos) (w : World) (ls : List Text) (r : Reception) : Prop where
  isSome_iff : r.mark.isSome ↔ ComesToMark now w ls
  exists_isSetBy : ∀ m, r.mark = some m →
    ∃ earlier line t captures shown, IsSetBy now w ls r m earlier line t captures shown

theorem marksFirst_nil (now : Nanos) (w : World) : MarksFirst now w [] .empty where
  isSome_iff := by
    refine ⟨fun h => (nomatch h), ?_⟩
    rintro ⟨u, s, line, t, captures, shown, comes, -⟩
    exact absurd comes.mem List.not_mem_nil
  exists_isSetBy m hm := nomatch hm

/-- A line that is not marked leaves the mark where it is. -/
theorem MarksFirst.concat_plain (h : MarksFirst now w ls s)
    (hs : ls.foldlM (handleLine now) (w, .empty) = .ok (u, s))
    (plain : ∀ t captures shown, ¬ IsMarked now u line t captures shown)
    (mark : r.mark = s.mark) (lines : s.lines <+: r.lines) :
    MarksFirst now w (ls ++ [line]) r where
  isSome_iff := by
    rw [mark, h.isSome_iff, comesToMark_concat hs]
    refine ⟨.inl, fun comes => comes.resolve_right ?_⟩
    rintro ⟨t, captures, shown, marked⟩
    exact plain t captures shown marked
  exists_isSetBy m hm := by
    obtain ⟨earlier, line', t, captures, shown, old⟩ := h.exists_isSetBy m (mark ▸ hm)
    exact ⟨earlier, line', t, captures, shown, old.concat lines⟩

/-- A line that is marked sets the mark if no line has set it before. -/
theorem MarksFirst.concat_marked (h : MarksFirst now w ls s)
    (hs : ls.foldlM (handleLine now) (w, .empty) = .ok (u, s))
    (marked : IsMarked now u line t captures shown) :
    MarksFirst now w (ls ++ [line]) (s.add shown (some captures.start)) where
  isSome_iff := by
    rw [comesToMark_concat hs]
    refine ⟨fun _ => .inr ⟨t, captures, shown, marked⟩, fun _ => ?_⟩
    cases hm : s.mark <;> simp [Reception.add, hm]
  exists_isSetBy m hm := by
    cases set : s.mark with
    | some m' =>
      obtain rfl : m' = m := by simpa [Reception.add, set] using hm
      obtain ⟨earlier, line', t', captures', shown', old⟩ := h.exists_isSetBy m' set
      exact ⟨earlier, line', t', captures', shown', old.concat (List.prefix_append _ _)⟩
    | none =>
      obtain rfl : (⟨s.lines.length, captures.start⟩ : Mark) = m := by
        simpa [Reception.add, set] using hm
      have first : ¬ ComesToMark now w ls := by simp [← h.isSome_iff, set]
      exact ⟨s.lines, line, t, captures, shown, ⟨ls, [], u, s.mark, rfl, hs, marked, first⟩, rfl,
        List.prefix_rfl, rfl⟩

theorem marksFirst_of_foldlM (h : ls.foldlM (handleLine now) (w, .empty) = .ok (v, r)) :
    MarksFirst now w ls r := by
  induction ls using List.reverseRecOn generalizing v r with
  | nil =>
    cases h
    exact marksFirst_nil now w
  | append_singleton ls line ih =>
    rw [List.foldlM_append] at h
    obtain ⟨⟨u, s⟩, hs, h⟩ := bind_eq_ok.1 h
    have last : handleLine now (u, s) line = .ok (v, r) := by
      obtain ⟨p, hp, h⟩ := bind_eq_ok.1 h
      cases h
      exact hp
    rcases handleLine_adds last with ⟨t, captures, shown, marked, rfl⟩ | ⟨plain, mark, lines⟩
    · exact (ih hs).concat_marked hs marked
    · exact (ih hs).concat_plain hs plain mark lines

/-- What is shown of a marked line is the line itself, unless the trigger has another text. -/
theorem IsMarked.shown_eq (h : IsMarked now w line t captures shown) (plain : t.substitution = none) :
    shown = line := by
  obtain ⟨run, -, -, display⟩ := h.displays
  have unmuted : t.mute = false := by
    by_contra mute
    simp [Trigger.displayText, mute] at display
  simpa [Trigger.displayText, unmuted, plain, eq_comm] using display

/-- There is a mark exactly if a line is marked. It stands in the first one, among the lines that
are shown, and its column is where the match starts in the line that was received; so it lies in what
is shown, unless a regular expression matched further behind than what is shown in its place is
long. -/
theorem isFirstMarked_of_mark {text : Text} (h : w.handleMessage text now = .ok (v, r)) :
    (r.mark.isSome ↔ ComesToMark now w (Text.lines text)) ∧
      ∀ m, r.mark = some m → ∃ earlier line t captures shown,
        IsFirstMarked now w (Text.lines text) earlier line t captures shown ∧
        m.line = earlier.length ∧ r.lines[m.line]? = some shown ∧
        m.column = captures.start ∧ captures.IsFoundIn line ∧
        (t.substitution = none ∨ t.pattern.source.head? ≠ some '^' → m.column ≤ shown.length) := by
  have first := marksFirst_of_foldlM h
  refine ⟨first.isSome_iff, fun m hm => ?_⟩
  obtain ⟨earlier, line, t, captures, shown, first, hl, hs, hc⟩ := first.exists_isSetBy m hm
  obtain ⟨-, -, u, -, -, -, marked, -⟩ := id first
  have found := Pattern.isFoundIn_of_captures? marked.captures?_eq
  refine ⟨earlier, line, t, captures, shown, first, hl, ?_, hc, found, ?_⟩
  · obtain ⟨later, hlater⟩ := hs
    simp [hl, ← hlater]
  · rintro (plain | literal)
    · obtain ⟨front, back, whole, hf⟩ := found
      rw [marked.shown_eq plain, whole, hc, ← hf, List.append_assoc, List.length_append]
      exact Nat.le_add_right _ _
    · rw [hc, Pattern.start_of_captures? literal marked.captures?_eq]
      exact Nat.zero_le _

end Marks

/-- A line that is not marked first is the muted one, and then one whose action cannot be read. -/
theorem isFirstMarked_of_mark_counting : ∃ w v r, loaded? counting = some w ∧
    w.handleMessage (counted ++ metThen) 0 = .ok (v, r) ∧ r.mark = some ⟨3, 2⟩ ∧
    ComesToMark 0 w (Text.lines (counted ++ metThen)) ∧ ∃ earlier line t captures shown,
      IsFirstMarked 0 w (Text.lines (counted ++ metThen)) earlier line t captures shown ∧
      earlier.length = 3 ∧ r.lines[3]? = some shown ∧ captures.start = 2 ∧
      captures.IsFoundIn line := by
  have runs : (loaded? counting).any (fun w =>
      (w.handleMessage (counted ++ metThen) 0).toOption.any fun p =>
        decide (p.2.mark = some ⟨3, 2⟩)) = true := by
    decide +kernel
  obtain ⟨w, hl, runs⟩ := (Option.any_eq_true _ _).1 runs
  obtain ⟨⟨v, r⟩, handled, runs⟩ := (Option.any_eq_true _ _).1 runs
  have handled := toOption_eq_some.1 handled
  have mark : r.mark = some ⟨3, 2⟩ := of_decide_eq_true runs
  obtain ⟨some_iff, set⟩ := isFirstMarked_of_mark handled
  obtain ⟨earlier, line, t, captures, shown, first, length, place, column, found, -⟩ := set _ mark
  exact ⟨w, v, r, hl, handled, mark, some_iff.1 (by rw [mark]; rfl), earlier, line, t, captures,
    shown, first, length.symm, place, column.symm, found⟩

/-- The dragon is two characters from the start of its line, and nothing is shown in its place. -/
theorem not_column_le_of_substitution : ¬ ∀ w text now v r m shown, Reachable w →
    w.handleMessage text now = .ok (v, r) → r.mark = some m → r.lines[m.line]? = some shown →
      m.column ≤ shown.length := by
  intro valid
  have marks : (loaded? "#trigger \x7b^orc|dragon\x7d \x7b\x7d \x7b$foe\x7d +mark".toList).any
      (fun w => (w.handleMessage "a dragon".toList 0).toOption.any fun p =>
        decide (p.2 = ⟨[[]], some ⟨0, 2⟩⟩)) = true := by
    decide +kernel
  obtain ⟨w, hl, marks⟩ := (Option.any_eq_true _ _).1 marks
  obtain ⟨⟨v, r⟩, handled, marks⟩ := (Option.any_eq_true _ _).1 marks
  obtain rfl : r = ⟨[[]], some ⟨0, 2⟩⟩ := of_decide_eq_true marks
  have place := valid w _ 0 v _ ⟨0, 2⟩ [] (reachable_of_loaded? hl) (toOption_eq_some.1 handled) rfl
    rfl
  exact absurd place (by decide)

end World
end MudClient
