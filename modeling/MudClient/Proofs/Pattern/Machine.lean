import MudClient.Pattern.Regex.Search
/-! The machine and backtracking. A machine that goes all ways at once, and keeps only the preferred
way to each instruction, finds what trying the ways one after another finds: from an instruction that
was reached before, the ways that are left fail if the preferred one has failed. -/
namespace MudClient.Regex

def Place.between (done rest : Text) : Place := ⟨done.length, done.getLast?, rest⟩

theorem Place.between_concat (done rest : Text) (c : Char) :
    Place.between (done ++ [c]) rest = ⟨done.length + 1, some c, rest⟩ := by
  simp [between]

section Backtracking

variable (code : Array Inst)

/-- What the preferred way from an instruction leads to; `wait?` tells this for the ways that wait
for a character or are at their end. -/
def way? (p : Place) (wait? : Thread → Option Slots) : Nat → Nat → Slots → Option Slots
  | 0, _, _ => none
  | fuel + 1, pc, slots =>
    match code[pc]? with
    | none => none
    | some (.jump target) => way? p wait? fuel target slots
    | some (.split first second) =>
      (way? p wait? fuel first slots).or (way? p wait? fuel second slots)
    | some (.save slot) => way? p wait? fuel (pc + 1) (slots.set! slot (some p.index))
    | some (.look l) => if l.holds p then way? p wait? fuel (pc + 1) slots else none
    | some (.char _) | some .accept => wait? ⟨pc, slots⟩

/-- What a thread comes to that waits between two texts. -/
def thread? : Text → Text → Thread → Option Slots
  | done, [], t =>
    match code[t.pc]? with
    | some .accept => some (t.slots.set! 1 (some done.length))
    | _ => none
  | done, c :: r, t =>
    match code[t.pc]? with
    | some .accept => some (t.slots.set! 1 (some done.length))
    | some (.char set) =>
      if set.mem c then
        way? code (.between (done ++ [c]) r) (thread? (done ++ [c]) r) (code.size + 1) (t.pc + 1)
          t.slots
      else none
    | _ => none

/-- What an instruction leads to between two texts. -/
def run? (done rest : Text) (pc : Nat) (slots : Slots) : Option Slots :=
  way? code (.between done rest) (thread? code done rest) (code.size + 1) pc slots

/-- A match may start anywhere, the earlier the better. -/
def starts? (blank : Slots) : Text → Text → Option Slots
  | done, [] => run? code done [] 0 (blank.set! 0 (some done.length))
  | done, c :: r =>
    (run? code done (c :: r) 0 (blank.set! 0 (some done.length))).or (starts? blank (done ++ [c]) r)

end Backtracking

/-- Steps that read nothing come to an end: each leads to an instruction of lower rank. -/
structure IsRanked (code : Array Inst) (rank : Nat → Nat) : Prop where
  jump : ∀ {pc target}, code[pc]? = some (.jump target) → rank target < rank pc
  split : ∀ {pc first second}, code[pc]? = some (.split first second) →
    rank first < rank pc ∧ rank second < rank pc
  save : ∀ {pc slot}, code[pc]? = some (.save slot) → rank (pc + 1) < rank pc
  look : ∀ {pc l}, code[pc]? = some (.look l) → rank (pc + 1) < rank pc
  le : ∀ pc, rank pc ≤ code.size

section

variable {code : Array Inst} {rank : Nat → Nat} {p : Place} {wait? : Thread → Option Slots}
variable {ways ways' ways'' : Ways} {more more' : Option Slots} {pc fuel k : Nat} {slots : Slots}

theorem way?_fuel (hr : IsRanked code rank) {m n : Nat} (hm : rank pc < m) (hn : rank pc < n)
    (slots : Slots) : way? code p wait? m pc slots = way? code p wait? n pc slots := by
  induction m generalizing n pc slots with
  | zero => omega
  | succ m ih =>
    obtain ⟨n, rfl⟩ := Nat.exists_eq_succ_of_ne_zero (Nat.ne_of_gt (Nat.zero_lt_of_lt hn))
    have same {target : Nat} (lower : rank target < rank pc) (slots : Slots) :
        way? code p wait? m target slots = way? code p wait? n target slots :=
      ih (by omega) (by omega) slots
    unfold way?
    split
    · rfl
    · exact same (hr.jump ‹_›) slots
    · rw [same (hr.split ‹_›).1, same (hr.split ‹_›).2]
    · exact same (hr.save ‹_›) _
    · rw [same (hr.look ‹_›)]
    · rfl
    · rfl

/-- The slots do not tell whether a way fails. -/
def IsBlind (wait? : Thread → Option Slots) : Prop :=
  ∀ {pc slots} slots', wait? ⟨pc, slots⟩ = none → wait? ⟨pc, slots'⟩ = none

theorem IsBlind.way? (hw : IsBlind wait?) (slots' : Slots)
    (h : way? code p wait? fuel pc slots = none) : way? code p wait? fuel pc slots' = none := by
  induction fuel generalizing pc slots slots' with
  | zero => rfl
  | succ fuel ih =>
    unfold Regex.way? at h ⊢
    split at h
    · rfl
    · exact ih slots' h
    · obtain ⟨first, second⟩ := Option.or_eq_none_iff.1 h
      rw [ih slots' first, ih slots' second]
      rfl
    · exact ih _ h
    · split at h
      · rw [if_pos ‹_›]
        exact ih slots' h
      · rw [if_neg ‹_›]
    · exact hw slots' h
    · exact hw slots' h

theorem isBlind_thread? (code : Array Inst) (done rest : Text) :
    IsBlind (thread? code done rest) := by
  induction rest generalizing done with
  | nil =>
    intro pc slots slots' h
    unfold thread? at h ⊢
    dsimp only at h ⊢
    split at h
    · cases h
    · rfl
  | cons c r ih =>
    intro pc slots slots' h
    unfold thread? at h ⊢
    dsimp only at h ⊢
    split at h
    · cases h
    · split at h
      · rw [if_pos ‹_›]
        exact IsBlind.way? (ih (done ++ [c])) slots' h
      · rw [if_neg ‹_›]
    · rfl

/-! ### All ways at once -/

namespace Ways

/-- What the threads lead to that wait at a place, the preferred ones first. -/
def answer (wait? : Thread → Option Slots) (ways : Ways) : Option Slots :=
  ways.threads.reverse.findSome? wait?

def HasSeen (ways : Ways) (pc : Nat) : Prop := ways.seen[pc]?.getD true = true

def mark (ways : Ways) (pc : Nat) : Ways := { ways with seen := ways.seen.set! pc true }

def add (ways : Ways) (t : Thread) : Ways := { ways with threads := t :: ways.threads }

theorem hasSeen_mark {q : Nat} (h : (ways.mark pc).HasSeen q) : q = pc ∨ ways.HasSeen q := by
  by_cases hq : q = pc
  · exact .inl hq
  · refine .inr ?_
    simpa [HasSeen, mark, Array.getElem?_setIfInBounds, Ne.symm hq] using h

theorem answer_add (ways : Ways) (t : Thread) :
    (ways.add t).answer wait? = (ways.answer wait?).or (wait? t) := by
  simp only [answer, add, List.reverse_cons, List.findSome?_append, List.findSome?_cons,
    List.findSome?_nil]
  cases wait? t <;> rfl

end Ways

/-- Nothing comes of an instruction, whatever the slots. -/
def Fails (code : Array Inst) (p : Place) (wait? : Thread → Option Slots) (pc : Nat) : Prop :=
  ∀ slots, way? code p wait? (code.size + 1) pc slots = none

/-- Of the instructions of low rank that were reached nothing comes but what the threads lead to. -/
def IsDoneBelow (code : Array Inst) (rank : Nat → Nat) (p : Place)
    (wait? : Thread → Option Slots) (k : Nat) (ways : Ways) : Prop :=
  ∀ q, rank q < k → ways.HasSeen q → ways.answer wait? = none → Fails code p wait? q

/-- Threads that lead to `more` were added, and nothing else comes of what was reached meanwhile. -/
structure Gains (code : Array Inst) (p : Place) (wait? : Thread → Option Slots)
    (ways : Ways) (more : Option Slots) (ways' : Ways) : Prop where
  size : ways'.seen.size = ways.seen.size
  answer : ways'.answer wait? = (ways.answer wait?).or more
  seen : ∀ q, ways'.HasSeen q →
    ways.HasSeen q ∨ (ways'.answer wait? = none → Fails code p wait? q)

theorem Gains.of_answer (h : Gains code p wait? ways more ways')
    (hn : ways'.answer wait? = none) : ways.answer wait? = none ∧ more = none := by
  rw [h.answer] at hn
  exact Option.or_eq_none_iff.1 hn

theorem Gains.refl (ways : Ways) : Gains code p wait? ways none ways :=
  ⟨rfl, by simp, fun _ => .inl⟩

theorem Gains.trans (h : Gains code p wait? ways more ways')
    (h' : Gains code p wait? ways' more' ways'') :
    Gains code p wait? ways (more.or more') ways'' where
  size := h'.size.trans h.size
  answer := by rw [h'.answer, h.answer, Option.or_assoc]
  seen q hq := by
    rcases h'.seen q hq with hq | hq
    · exact (h.seen q hq).imp id fun fails hn => fails (h'.of_answer hn).1
    · exact .inr hq

theorem Gains.add (ways : Ways) (t : Thread) : Gains code p wait? ways (wait? t) (ways.add t) where
  size := rfl
  answer := ways.answer_add t
  seen _ := .inl

theorem Gains.isDoneBelow (h : Gains code p wait? ways more ways')
    (hd : IsDoneBelow code rank p wait? k ways) : IsDoneBelow code rank p wait? k ways' :=
  fun q hk hq hn =>
    (h.seen q hq).elim (fun hq => hd q hk hq (h.of_answer hn).1) (· hn)

theorem IsDoneBelow.mono {j : Nat} (h : IsDoneBelow code rank p wait? k ways) (hj : j ≤ k) :
    IsDoneBelow code rank p wait? j ways :=
  fun q hq => h q (Nat.lt_of_lt_of_le hq hj)

theorem IsDoneBelow.mark (h : IsDoneBelow code rank p wait? (rank pc + 1) ways) :
    IsDoneBelow code rank p wait? (rank pc) (ways.mark pc) := by
  intro q hk hq hn
  rcases Ways.hasSeen_mark hq with rfl | hq
  · omega
  · exact h q (by omega) hq hn

/-- An instruction that was marked is done when all that comes of it was added. -/
theorem Gains.unmark (hw : IsBlind wait?)
    (h : Gains code p wait? (ways.mark pc) (way? code p wait? (code.size + 1) pc slots) ways') :
    Gains code p wait? ways (way? code p wait? (code.size + 1) pc slots) ways' where
  size := by simpa [Ways.mark] using h.size
  answer := h.answer
  seen q hq := by
    rcases h.seen q hq with hq | hq
    · rcases Ways.hasSeen_mark hq with rfl | hq
      · exact .inr fun hn slots' => hw.way? slots' (h.of_answer hn).2
      · exact .inl hq
    · exact .inr hq

/-- Following a way adds the threads that it leads to. -/
theorem gains_follow (hr : IsRanked code rank) (hw : IsBlind wait?) (hf : rank pc < fuel)
    (hd : IsDoneBelow code rank p wait? (rank pc + 1) ways) (slots : Slots) :
    Gains code p wait? ways (way? code p wait? (code.size + 1) pc slots)
      (follow code p fuel pc slots ways) := by
  induction fuel generalizing pc slots ways with
  | zero => omega
  | succ fuel ih =>
    unfold follow
    split
    · rename_i seen
      cases ha : ways.answer wait? with
      | none =>
        rw [hd pc (Nat.lt_succ_self _) seen ha slots]
        exact .refl ways
      | some found =>
        exact ⟨rfl, by simp [ha], fun _ => .inl⟩
    · refine Gains.unmark hw ?_
      have low := hd.mark
      have further {target : Nat} (lower : rank target < rank pc) {ways : Ways}
          (hd : IsDoneBelow code rank p wait? (rank pc) ways) (slots : Slots) :
          Gains code p wait? ways (way? code p wait? code.size target slots)
            (follow code p fuel target slots ways) := by
        have := hr.le pc
        rw [way?_fuel hr (by omega) (by omega) (n := code.size + 1)]
        exact ih (by omega) (hd.mono (by omega)) slots
      change Gains code p wait? (ways.mark pc) _ (match code[pc]? with
        | none => ways.mark pc
        | some (.jump target) => follow code p fuel target slots (ways.mark pc)
        | some (.split first second) =>
          follow code p fuel second slots (follow code p fuel first slots (ways.mark pc))
        | some (.save slot) =>
          follow code p fuel (pc + 1) (slots.set! slot (some p.index)) (ways.mark pc)
        | some (.look l) =>
          if l.holds p then follow code p fuel (pc + 1) slots (ways.mark pc) else ways.mark pc
        | some (.char _) | some .accept => (ways.mark pc).add ⟨pc, slots⟩)
      unfold way?
      cases hi : code[pc]? with
      | none => exact .refl _
      | some inst =>
        cases inst with
        | char | accept => exact .add _ _
        | jump target => exact further (hr.jump hi) low slots
        | save slot => exact further (hr.save hi) low _
        | split first second =>
          have gained := further (hr.split hi).1 low slots
          exact gained.trans (further (hr.split hi).2 (gained.isDoneBelow low) slots)
        | look l =>
          dsimp only
          split
          · exact further (hr.look hi) low slots
          · exact .refl _

/-- All instructions that were reached are done. -/
structure IsDone (code : Array Inst) (p : Place) (wait? : Thread → Option Slots) (ways : Ways) :
    Prop where
  size : ways.seen.size = code.size
  seen : ∀ q, ways.HasSeen q → ways.answer wait? = none → Fails code p wait? q

theorem isDone_none (code : Array Inst) (p : Place) (wait? : Thread → Option Slots) :
    IsDone code p wait? (.none code) where
  size := by simp [Ways.none]
  seen q hq _ slots := by
    have outside : code[q]? = none := by
      rw [Array.getElem?_eq_none_iff]
      refine Nat.le_of_not_lt fun inside => ?_
      simp [Ways.HasSeen, Ways.none, inside] at hq
    rw [way?, outside]

theorem IsDone.enter (hr : IsRanked code rank) (hw : IsBlind wait?) (h : IsDone code p wait? ways)
    (pc : Nat) (slots : Slots) : IsDone code p wait? (enter code p pc slots ways) ∧
      (enter code p pc slots ways).answer wait? =
        (ways.answer wait?).or (way? code p wait? (code.size + 1) pc slots) := by
  have gained := gains_follow hr hw (Nat.lt_succ_of_le (hr.le pc)) (fun q _ => h.seen q) slots
  refine ⟨⟨gained.size.trans h.size, fun q hq hn => ?_⟩, gained.answer⟩
  exact (gained.seen q hq).elim (fun hq => h.seen q hq (gained.of_answer hn).1 ) (· hn)

/-- What is left after a character: threads at the next place, and a match that is preferred to
nothing but theirs. Both together lead to `all`. -/
structure Leaves (code : Array Inst) (c : Char) (done rest : Text) (r : Ways × Option Slots)
    (all : Option Slots) : Prop where
  isDone : IsDone code (.between (done ++ [c]) rest) (thread? code (done ++ [c]) rest) r.1
  answer : (r.1.answer (thread? code (done ++ [c]) rest)).or
    (r.2.map fun s => s.set! 1 (some done.length)) = all

/-- The threads at the next place lead to what those at this one lead to. -/
theorem leaves_step (hr : IsRanked code rank) {done rest : Text} {c : Char} (ts : List Thread)
    (h : IsDone code (.between (done ++ [c]) rest) (thread? code (done ++ [c]) rest) ways) :
    Leaves code c done rest (step code (some c) (.between (done ++ [c]) rest) ts ways)
      ((ways.answer (thread? code (done ++ [c]) rest)).or
        (ts.findSome? (thread? code done (c :: rest)))) := by
  induction ts generalizing ways with
  | nil => exact ⟨h, rfl⟩
  | cons t ts ih =>
    have skip (own : thread? code done (c :: rest) t = none) :
        (t :: ts).findSome? (thread? code done (c :: rest)) =
          ts.findSome? (thread? code done (c :: rest)) := by
      rw [List.findSome?_cons, own]
    cases hi : code[t.pc]? with
    | none =>
      rw [skip (by simp [thread?, hi])]
      simpa only [step, hi] using ih h
    | some inst =>
      cases inst with
      | accept =>
        have own : thread? code done (c :: rest) t = some (t.slots.set! 1 (some done.length)) := by
          simp [thread?, hi]
        rw [List.findSome?_cons, own]
        simp only [step, hi]
        exact ⟨h, rfl⟩
      | char set =>
        simp only [step, hi]
        by_cases hc : set.mem c
        · have own : thread? code done (c :: rest) t =
              run? code (done ++ [c]) rest (t.pc + 1) t.slots := by
            simp [thread?, hi, hc, run?]
          obtain ⟨entered, answer⟩ :=
            h.enter hr (isBlind_thread? code (done ++ [c]) rest) (t.pc + 1) t.slots
          rw [if_pos hc, List.findSome?_cons, own]
          have more := ih entered
          rw [answer, Option.or_assoc] at more
          unfold run?
          cases hw : way? code (.between (done ++ [c]) rest) (thread? code (done ++ [c]) rest)
              (code.size + 1) (t.pc + 1) t.slots with
          | none => simpa [hw] using more
          | some found => simpa [hw] using more
        · rw [skip (by simp [thread?, hi, hc]), if_neg hc]
          exact ih h
      | _ =>
        rw [skip (by simp [thread?, hi])]
        simpa only [step, hi] using ih h

theorem step_none (code : Array Inst) (ts : List Thread) (p : Place) (ways : Ways) (done : Text) :
    (step code none p ts ways).2.map (fun s => s.set! 1 (some done.length)) =
      ts.findSome? (thread? code done []) := by
  induction ts with
  | nil => rfl
  | cons t ts ih =>
    rw [List.findSome?_cons]
    cases hi : code[t.pc]? with
    | none => simpa [step, thread?, hi] using ih
    | some inst =>
      cases inst with
      | accept => simp [step, thread?, hi]
      | _ => simpa [step, thread?, hi] using ih

/-- As long as there is no match, one may also start here. -/
def begun (code : Array Inst) (blank : Slots) (best : Option Slots) (done rest : Text)
    (ways : Ways) : Ways :=
  if best.isNone then enter code (.between done rest) 0 (blank.set! 0 (some done.length)) ways
  else ways

theorem answer_begun (hr : IsRanked code rank) (blank : Slots) (best : Option Slots)
    {done rest : Text}
    (h : IsDone code (.between done rest) (thread? code done rest) ways) :
    ((begun code blank best done rest ways).answer (thread? code done rest)).or best =
      (ways.answer (thread? code done rest)).or
        (best.or (run? code done rest 0 (blank.set! 0 (some done.length)))) := by
  cases best with
  | some best => simp [begun]
  | none =>
    have entered := (h.enter hr (isBlind_thread? code done rest) 0
      (blank.set! 0 (some done.length))).2
    rw [begun, Option.isNone_none, if_pos rfl, Option.or_none, entered]
    rfl

/-- The machine goes on to what its threads lead to, then to the best match so far, and if there is
none to a match that starts later. -/
theorem searchFrom_eq (hr : IsRanked code rank) (blank : Slots) (best : Option Slots)
    (done rest : Text) (h : IsDone code (.between done rest) (thread? code done rest) ways) :
    searchFrom code blank done.length done.getLast? ways best rest =
      (ways.answer (thread? code done rest)).or (best.or (starts? code blank done rest)) := by
  induction rest generalizing done ways best with
  | nil =>
    have ends := step_none code (begun code blank best done [] ways).threads.reverse
      (.between done []) (.none code) done
    calc searchFrom code blank done.length done.getLast? ways best []
      _ = ((step code none (.between done []) (begun code blank best done [] ways).threads.reverse
            (.none code)).2.map fun s => s.set! 1 (some done.length)).or best :=
          Option.orElse_eq_or
      _ = ((begun code blank best done [] ways).answer (thread? code done [])).or best := by
          rw [ends, Ways.answer]
      _ = _ := answer_begun hr blank best h
  | cons c r ih =>
    have left := leaves_step hr (begun code blank best done (c :: r) ways).threads.reverse
      (isDone_none code (.between (done ++ [c]) r) (thread? code (done ++ [c]) r))
    have answer : _ = (begun code blank best done (c :: r) ways).answer _ := left.answer
    generalize hs : step code (some c) (.between (done ++ [c]) r)
      (begun code blank best done (c :: r) ways).threads.reverse (.none code) = s at left answer
    have next : searchFrom code blank done.length done.getLast? ways best (c :: r) =
        searchFrom code blank (done ++ [c]).length (done ++ [c]).getLast? s.1
          ((s.2.map fun s => s.set! 1 (some done.length)).or best) r := by
      have either (a b : Option Slots) : a.or b = (a <|> b) := by cases a <;> rfl
      rw [List.getLast?_concat, List.length_append, ← hs, either, Place.between_concat]
      rfl
    calc searchFrom code blank done.length done.getLast? ways best (c :: r)
      _ = (s.1.answer (thread? code (done ++ [c]) r)).or
            (((s.2.map fun s => s.set! 1 (some done.length)).or best).or
              (starts? code blank (done ++ [c]) r)) := next.trans (ih _ _ left.isDone)
      _ = (((begun code blank best done (c :: r) ways).answer
            (thread? code done (c :: r))).or best).or (starts? code blank (done ++ [c]) r) := by
          rw [← answer, Option.or_assoc, Option.or_assoc, Option.or_assoc]
      _ = _ := by rw [answer_begun hr blank best h, Option.or_assoc, Option.or_assoc]; rfl

theorem search?_eq {program : Program} (hr : IsRanked program.code rank) (t : Text) :
    program.search? t =
      starts? program.code (Array.replicate (2 * program.names.length + 2) none) [] t := by
  have start := searchFrom_eq hr (Array.replicate (2 * program.names.length + 2) none) none [] t
    (isDone_none program.code (.between [] t) (thread? program.code [] t))
  exact start

end

end MudClient.Regex
