import MudClient.Unicode.LetterCase
/-! Closing a set of characters under simple case folding. -/
namespace MudClient.Unicode

/-- The code points of a run with their images. -/
def CaseRun.pairs (run : CaseRun) : List (Nat × Nat) :=
  (List.range ((run.last - run.first) / run.step + 1)).map fun i =>
    (run.first + i * run.step, run.image + i * run.step)

/-- Every character that simple case folding changes, with its folding. -/
def foldPairs : List (Nat × Nat) := foldRuns.toList.flatMap CaseRun.pairs

/-- With each of its characters, all that differ from it in case alone. -/
def CodeSet.closeUnderFold (s : CodeSet) : CodeSet :=
  let foldings := CodeSet.ofRanges <| foldPairs.filterMap fun (c, f) =>
    if s.contains c || s.contains f then some (f, f) else none
  let variants := foldPairs.filterMap fun (c, f) =>
    if foldings.contains f then some (c, c) else none
  .ofRanges (s.ranges.toList ++ foldings.ranges.toList ++ variants)

end MudClient.Unicode
