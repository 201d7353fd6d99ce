import MudClient.Proofs.World.Configuration
/-! What a reset leaves behind. The scripts that waited before it stay in their list, but they are of
an older generation: when they are due nothing comes of them, and no new script is ever of their
generation. So the world goes on as one in which they were dropped at once. -/
namespace MudClient

open Script (Effect Nanos Chance)

section

variable {α : Type} {le : α → α → Bool}

/-- What stands before an element of a sorted list, and what stands behind it. -/
theorem eq_filter_of_pairwise {a : α} {l₁ l₂ : List α} (before : ∀ b ∈ l₁, !le a b)
    (sorted : (l₁ ++ a :: l₂).Pairwise fun a b => le a b) :
    l₁ = (l₁ ++ l₂).filter (!le a ·) ∧ l₂ = (l₁ ++ l₂).filter (le a ·) := by
  have behind : ∀ b ∈ l₂, le a b := (List.pairwise_cons.1 (List.pairwise_append.1 sorted).2.1).1
  have none₁ : l₁.filter (le a ·) = [] :=
    List.filter_eq_nil_iff.2 fun b hb => by simpa using before b hb
  have none₂ : l₂.filter (!le a ·) = [] :=
    List.filter_eq_nil_iff.2 fun b hb => by simpa using behind b hb
  rw [List.filter_append, List.filter_append, none₁, none₂, List.filter_eq_self.2 before,
    List.filter_eq_self.2 behind]
  simp

/-- Sorting keeps the order of what is equal, so elements may be dropped before it or after it. -/
theorem filter_mergeSort (trans : ∀ a b c, le a b → le b c → le a c)
    (total : ∀ a b, le a b || le b a) (p : α → Bool) (l : List α) :
    (l.mergeSort le).filter p = (l.filter p).mergeSort le := by
  induction l with
  | nil => simp
  | cons a l ih =>
    obtain ⟨l₁, l₂, hall, hrest, hbefore⟩ := List.mergeSort_cons trans total a l
    have sorted := List.pairwise_mergeSort trans total (a :: l)
    rw [hrest, List.filter_append] at ih
    rw [hall] at sorted ⊢
    by_cases hp : p a
    · obtain ⟨m₁, m₂, hall', hrest', hbefore'⟩ := List.mergeSort_cons trans total a (l.filter p)
      have sorted' := List.pairwise_mergeSort trans total (a :: l.filter p)
      have kept : (l₁.filter p ++ a :: l₂.filter p).Pairwise fun a b => le a b := by
        have := sorted.filter p
        rwa [List.filter_append, List.filter_cons_of_pos hp] at this
      rw [hall'] at sorted'
      -- Both lists are what comes before and behind `a` in the same sorted list.
      obtain ⟨e₁, e₂⟩ := eq_filter_of_pairwise hbefore' sorted'
      obtain ⟨f₁, f₂⟩ := eq_filter_of_pairwise (fun b hb => hbefore b (List.mem_filter.1 hb).1) kept
      rw [← hrest', ← ih] at e₁ e₂
      rw [List.filter_cons_of_pos hp, hall', List.filter_append, List.filter_cons_of_pos hp,
        e₁.trans f₁.symm, e₂.trans f₂.symm]
    · rw [List.filter_append, List.filter_cons_of_neg hp, List.filter_cons_of_neg hp, ← ih]

end

/-- Both crash in the same way, or both give results that are related. -/
inductive Alike {α β : Type} (R : α → β → Prop) : Except Crash α → Except Crash β → Prop
  | ok {a : α} {b : β} : R a b → Alike R (.ok a) (.ok b)
  | crash (c : Crash) : Alike R (.error c) (.error c)

namespace Alike

variable {α β γ δ ι : Type} {R : α → β → Prop} {S : γ → δ → Prop}

theorem imp {R' : α → β → Prop} {x : Except Crash α} {y : Except Crash β} (h : Alike R x y)
    (hr : ∀ a b, R a b → R' a b) : Alike R' x y := by
  cases h with
  | ok h => exact .ok (hr _ _ h)
  | crash c => exact .crash c

theorem bind {x : Except Crash α} {y : Except Crash β} {f : α → Except Crash γ}
    {g : β → Except Crash δ} (h : Alike R x y) (hf : ∀ a b, R a b → Alike S (f a) (g b)) :
    Alike S (x >>= f) (y >>= g) := by
  cases h with
  | ok h => exact hf _ _ h
  | crash c => exact .crash c

/-- Both do the same first. -/
theorem bind_same {x : Except Crash α} {f : α → Except Crash γ} {g : α → Except Crash δ}
    (hf : ∀ a, x = .ok a → Alike S (f a) (g a)) : Alike S (x >>= f) (x >>= g) := by
  cases x with
  | ok a => exact hf a rfl
  | error c => exact .crash c

theorem foldlM {f : α → ι → Except Crash α} {g : β → ι → Except Crash β}
    (hf : ∀ i a b, R a b → Alike R (f a i) (g b i)) (is : List ι) {a : α} {b : β} (h : R a b) :
    Alike R (is.foldlM f a) (is.foldlM g b) := by
  induction is generalizing a b with
  | nil => exact .ok h
  | cons i is ih => exact (hf i a b h).bind fun _ _ h => ih h

end Alike

namespace Execution

/-- A run leaves the generation as it is, and a script that waits is of this generation. -/
structure Stays (x : Execution) (n : Nat) : Prop where
  engine : x.engine.generation = n
  waiting : ∀ c, x.result = .ok (.suspended c) → c.generation = n

end Execution

namespace Engine

variable [Lua] {e : Engine} {label : Text} {now : Nanos} {x : Execution}

theorem stays_drive {program : Script.Program} {locals : Script.Locals}
    (h : e.drive program locals label now = .ok x) : x.Stays e.generation := by
  unfold drive at h
  obtain ⟨s, -, h⟩ := bind_eq_ok.1 h
  dsimp only at h
  split at h
  case h_4 delay rest _ =>
    obtain ⟨due, -, h⟩ := bind_eq_ok.1 h
    cases h
    refine ⟨rfl, fun c hc => ?_⟩
    cases hc
    rfl
  all_goals
    cases h
    exact ⟨rfl, fun _ hc => nomatch hc⟩

theorem stays_start {program : Attempt Script.Program}
    (h : e.start program label now = .ok x) : x.Stays e.generation := by
  unfold start at h
  obtain ⟨r, -, h⟩ := bind_eq_ok.1 h
  cases r with
  | ok p => exact stays_drive h
  | error error =>
    cases h
    exact ⟨rfl, fun _ hc => nomatch hc⟩

theorem stays_execute {_ : Chance} {source : Text} {captures : Option Captures}
    (h : e.execute source captures label now = .ok x) : x.Stays e.generation := by
  cases captures with
  | none => exact stays_start h
  | some captures => exact stays_start (e := e.applyCaptures captures) h

/-- A script of an older generation does nothing. -/
theorem resume_of_lt {c : Continuation} (h : c.generation < e.generation) :
    e.resume c now = .ok ⟨e, [], .ok .cancelled⟩ :=
  if_neg (Nat.ne_of_lt h)

theorem stays_resume {c : Continuation} (h : e.resume c now = .ok x) : x.Stays e.generation := by
  unfold resume at h
  split at h
  · exact stays_drive h
  · cases h
    exact ⟨rfl, fun _ hc => nomatch hc⟩

end Engine

theorem Trigger.stays_fire [Lua] {_ : Chance} {t : Trigger} {captures : Captures} {e : Engine}
    {now : Nanos} {x : Execution} (h : t.fire captures e now = .ok x) : x.Stays e.generation := by
  unfold Trigger.fire at h
  split at h
  · cases h
    exact ⟨rfl, fun _ hc => nomatch hc⟩
  · exact Engine.stays_execute h

namespace World

/-- Drops the scripts that wait since before a generation. -/
def forget (g : Nat) (w : World) : World :=
  { w with pending := w.pending.filter (g ≤ ·.generation) }

/-- In generation `n`, the second world is the first one without what waits since before generation
`g`, which was there at the start. -/
structure Tracks (g n : Nat) (start : List Continuation) (w v : World) : Prop where
  eq : v = w.forget g
  generation : w.engine.generation = n
  le : g ≤ n
  pending : ∀ c ∈ w.pending, c.generation ≤ n
  old : (w.pending.filter (·.generation < g)).Sublist start

variable {g n : Nat} {start : List Continuation} {w v : World} {now : Nanos}
  {send : World → Text → Except Crash World}

/-- A change of something else. -/
theorem Tracks.congr (h : Tracks g n start w v) {w' v' : World} (eq : v' = w'.forget g)
    (pending : w'.pending = w.pending) (generation : w'.engine.generation = n) :
    Tracks g n start w' v' :=
  ⟨eq, generation, h.le, pending ▸ h.pending, pending ▸ h.old⟩

/-- A script that is suspended now is not forgotten. -/
theorem Tracks.settle (h : Tracks g n start w v) {result : Except ScriptError Outcome}
    (hr : ∀ c, result = .ok (.suspended c) → c.generation = n) :
    Tracks g n start (w.settle result) (v.settle result) := by
  obtain rfl := h.eq
  unfold World.settle
  split
  · rename_i c
    have hc : c.generation = n := hr c rfl
    have new : g ≤ c.generation := hc ▸ h.le
    refine ⟨?_, h.generation, h.le, ?_, ?_⟩
    · simp [forget, List.filter_append, new]
    · intro d hd
      rcases List.mem_append.1 hd with hd | hd
      · exact h.pending d hd
      · rw [List.mem_singleton.1 hd, hc]
    · simpa [List.filter_append, new] using h.old
  · exact h

/-- How commands are sent, if that is the same in both worlds. -/
def SendTracks (g n : Nat) (start : List Continuation) (send : World → Text → Except Crash World) :
    Prop :=
  ∀ w v t, Tracks g n start w v → Alike (Tracks g n start) (send w t) (send v t)

theorem Tracks.applyEffects (hsend : SendTracks g n start send) (h : Tracks g n start w v)
    (effects : List Effect) :
    Alike (Tracks g n start) (applyEffects send w effects) (applyEffects send v effects) := by
  refine Alike.foldlM (fun e w v h => ?_) effects h
  cases e with
  | send text => exact hsend w v text h
  | _ =>
    obtain rfl := h.eq
    exact .ok (h.congr rfl rfl h.generation)

theorem Tracks.ran (h : Tracks g n start w v) {x : Execution} (hx : x.Stays n) :
    Tracks g n start (w.ran x) (v.ran x) := by
  obtain rfl := h.eq
  exact h.congr rfl rfl hx.engine

section

variable [Lua] [Chance]

theorem Tracks.expand (hsend : SendTracks g n start send) (h : Tracks g n start w v) (a : Alias)
    (captures : Captures) :
    Alike (Tracks g n start) (w.expand send now a captures) (v.expand send now a captures) := by
  obtain rfl := h.eq
  refine Alike.bind_same fun run hrun => ?_
  have x := h.generation ▸ Engine.stays_execute hrun
  have inside : Tracks g n start
      { w.ran run with expanding := a.pattern.source :: w.expanding }
      { (w.forget g).ran run with expanding := a.pattern.source :: w.expanding } :=
    h.congr rfl rfl x.engine
  refine (inside.applyEffects hsend run.effects).bind fun after after' done => ?_
  obtain rfl := done.eq
  have out : Tracks g n start { after with expanding := after.expanding.tail }
      { after.forget g with expanding := after.expanding.tail } :=
    done.congr rfl rfl done.generation
  exact .ok (out.settle x.waiting)

omit [Lua] [Chance] in
theorem Tracks.transmit (h : Tracks g n start w v) (command : Text) :
    Tracks g n start (w.transmit command) (v.transmit command) := by
  obtain rfl := h.eq
  have client : (w.forget g).client = w.client := rfl
  unfold World.transmit
  rw [client]
  split
  · exact h.congr rfl rfl h.generation
  · exact h.congr rfl rfl h.generation
  · exact h

theorem sendTracks (now : Nanos) (levels : Nat) : SendTracks g n start (World.send now levels) := by
  induction levels with
  | zero => exact fun w v t h => .ok h
  | succ levels ih =>
    intro w v t h
    obtain rfl := h.eq
    refine Alike.foldlM (fun command w v h => ?_) _ h
    obtain rfl := h.eq
    have same : (w.forget g).aliases.answer? command (w.forget g).expanding =
        w.aliases.answer? command w.expanding := rfl
    unfold handleCommand
    rw [same]
    cases w.aliases.answer? command w.expanding with
    | none => exact .ok (h.transmit command)
    | some found => exact h.expand ih found.1 found.2

theorem Tracks.conclude (h : Tracks g n start w v) {x : Execution} (hx : x.Stays n) :
    Alike (Tracks g n start) (w.conclude x now) (v.conclude x now) := by
  obtain rfl := h.eq
  have taken : Tracks g n start { w with engine := x.engine }
      { w.forget g with engine := x.engine } := h.congr rfl rfl hx.engine
  refine (taken.applyEffects (sendTracks now _) x.effects).bind fun _ _ done => ?_
  exact .ok (done.settle hx.waiting)

/-- Two results, the worlds of which are related and which are the same otherwise. -/
def Same {α : Type} (R : World → World → Prop) (a b : World × α) : Prop := R a.1 b.1 ∧ a.2 = b.2

theorem Tracks.handleInput (h : Tracks g n start w v) (text : Text) :
    Alike (Tracks g n start) (w.handleInput text now) (v.handleInput text now) := by
  unfold World.handleInput
  split
  · exact .ok (h.transmit [])
  · exact sendTracks now _ w v text h

omit [Lua] [Chance] in
theorem Tracks.showLine (h : Tracks g n start w v) (r : Reception) (line : Option Text)
    (column : Option Nat) : Same (Tracks g n start) (showLine (w, r) line column)
      (World.showLine (v, r) line column) := by
  obtain rfl := h.eq
  cases line with
  | none => exact ⟨h, rfl⟩
  | some line => exact ⟨h.congr rfl rfl h.generation, rfl⟩

theorem Tracks.handleLine (h : Tracks g n start w v) (r : Reception) (line : Text) :
    Alike (Same (Tracks g n start)) (handleLine now (w, r) line)
      (World.handleLine now (v, r) line) := by
  obtain rfl := h.eq
  have same : (w.forget g).triggers.best? line = w.triggers.best? line := rfl
  unfold World.handleLine
  dsimp only
  rw [same]
  cases w.triggers.best? line with
  | none => exact .ok (h.showLine r (some line) none)
  | some found =>
    obtain ⟨t, captures⟩ := found
    refine Alike.bind_same fun run hrun => ?_
    have x := h.generation ▸ Trigger.stays_fire hrun
    obtain ⟨shown, answer⟩ := (h.ran x).showLine r (shownBy t captures line run).1
      (shownBy t captures line run).2
    rw [answer]
    exact (shown.conclude x).bind fun _ _ done => .ok ⟨done, rfl⟩

theorem Tracks.handleMessage (h : Tracks g n start w v) (text : Text) :
    Alike (Same (Tracks g n start)) (w.handleMessage text now) (v.handleMessage text now) := by
  refine Alike.foldlM (fun line a b hab => ?_) _ ⟨h, rfl⟩
  obtain ⟨w, r⟩ := a
  obtain ⟨v, s⟩ := b
  obtain ⟨h, rfl⟩ := hab
  exact h.handleLine r line

theorem Tracks.handleKey (h : Tracks g n start w v) (shortcut : Shortcut) :
    Alike (Same (Tracks g n start)) (w.handleKey shortcut now) (v.handleKey shortcut now) := by
  obtain rfl := h.eq
  have same : (w.forget g).keyBindings.find? shortcut = w.keyBindings.find? shortcut := rfl
  unfold World.handleKey
  rw [same]
  cases w.keyBindings.find? shortcut with
  | none => exact .ok ⟨h, rfl⟩
  | some binding =>
    refine Alike.bind_same fun run hrun => ?_
    have x := h.generation ▸ Engine.stays_execute hrun
    exact ((h.ran x).conclude x).bind fun _ _ done => .ok ⟨done, rfl⟩

theorem Tracks.loadConfig (h : Tracks g n start w v) (text : Text) :
    Alike (Same (Tracks g n start)) (w.loadConfig text now) (v.loadConfig text now) := by
  obtain rfl := h.eq
  refine Alike.bind_same fun run hrun => ?_
  have x := h.generation ▸ Engine.stays_start hrun
  exact ((h.ran x).conclude x).bind fun _ _ done => .ok ⟨done, rfl⟩

omit [Lua] [Chance] in
theorem dueAt_filter (now : Nanos) (p : Continuation → Bool) (pending : List Continuation) :
    dueAt now (pending.filter p) = (dueAt now pending).filter p := by
  have trans : ∀ a b c : Continuation, a.due ≤ b.due → b.due ≤ c.due → a.due ≤ c.due :=
    fun a b c => Nat.le_trans
  have total : ∀ a b : Continuation, a.due ≤ b.due ∨ b.due ≤ a.due :=
    fun a b => Nat.le_total a.due b.due
  rw [dueAt, dueAt, filter_mergeSort (by simpa using trans) (by simpa using total),
    List.filter_comm]

theorem Tracks.wake (h : Tracks g n start w v) (c : Continuation) :
    Alike (Tracks g n start) (wake now w c) (World.wake now v c) := by
  obtain rfl := h.eq
  refine Alike.bind_same fun run hrun => ?_
  have x := h.generation ▸ Engine.stays_resume hrun
  exact h.conclude x

theorem Tracks.wake_old (h : Tracks g n start w v) {c : Continuation} (hc : c.generation < g) :
    World.wake now w c = .ok w := by
  have old : c.generation < w.engine.generation :=
    Nat.lt_of_lt_of_le hc (h.generation ▸ h.le)
  rw [World.wake, Engine.resume_of_lt old]
  rfl

/-- Of the scripts that are due, those that are forgotten do nothing. -/
theorem Tracks.wakes (h : Tracks g n start w v) (due : List Continuation) :
    Alike (Tracks g n start) (due.foldlM (World.wake now) w)
      ((due.filter (g ≤ ·.generation)).foldlM (World.wake now) v) := by
  induction due generalizing w v with
  | nil => exact .ok h
  | cons c due ih =>
    by_cases hc : g ≤ c.generation
    · rw [List.filter_cons_of_pos (by simpa using hc)]
      exact (h.wake c).bind fun _ _ h => ih h
    · rw [List.filter_cons_of_neg (by simpa using hc), List.foldlM_cons,
        h.wake_old (Nat.lt_of_not_le hc)]
      exact ih h

theorem Tracks.poll (h : Tracks g n start w v) :
    Alike (fun a b => Tracks g n start a.1 b.1) (w.poll now) (v.poll now) := by
  obtain rfl := h.eq
  have due : dueAt now (w.forget g).pending = (dueAt now w.pending).filter (g ≤ ·.generation) :=
    dueAt_filter now _ w.pending
  have waiting : Tracks g n start
      { w with pending := w.pending.filter fun c => !(c.due ≤ now) }
      { w.forget g with pending := (w.forget g).pending.filter fun c => !(c.due ≤ now) } := by
    refine ⟨?_, h.generation, h.le, fun c hc => h.pending c (List.mem_filter.1 hc).1, ?_⟩
    · simp only [forget]
      rw [List.filter_comm]
    · rw [List.filter_comm]
      exact List.filter_sublist.trans h.old
  unfold World.poll
  rw [due]
  exact (waiting.wakes (dueAt now w.pending)).bind fun _ _ done => .ok done

omit [Lua] [Chance] in
theorem Tracks.reset (h : Tracks g n start w v) : Tracks g (n + 1) start w.reset v.reset := by
  obtain rfl := h.eq
  exact ⟨rfl, congrArg Nat.succ h.generation, Nat.le_succ_of_le h.le,
    fun c hc => Nat.le_succ_of_le (h.pending c hc), h.old⟩

/-- What may happen to a world. -/
inductive Step where
  | message (text : Text) (now : Nanos)
  | input (text : Text) (now : Nanos)
  | key (shortcut : Shortcut) (now : Nanos)
  | poll (now : Nanos)
  | load (text : Text) (now : Nanos)
  | reset

inductive Answer where
  | nothing
  | shown (reception : Reception)
  | bound (isBound : Bool)
  | woken (count : Nat)
  | loaded (result : Except ScriptError Unit)

/-- The answer, but for the number of scripts that were due. -/
def Answer.uncounted : Answer → Answer
  | woken _ => woken 0
  | a => a

def step (w : World) : Step → Except Crash (World × Answer)
  | .message text now => do
    let (w, reception) ← w.handleMessage text now
    return (w, .shown reception)
  | .input text now => do return (← w.handleInput text now, .nothing)
  | .key shortcut now => do
    let (w, isBound) ← w.handleKey shortcut now
    return (w, .bound isBound)
  | .poll now => do
    let (w, count) ← w.poll now
    return (w, .woken count)
  | .load text now => do
    let (w, result) ← w.loadConfig text now
    return (w, .loaded result)
  | .reset => .ok (w.reset, .nothing)

/-- Everything that happens, with the answers to it. -/
def play (w : World) : List Step → Except Crash (World × List Answer)
  | [] => .ok (w, [])
  | s :: steps => do
    let (w, answer) ← w.step s
    let (w, answers) ← w.play steps
    return (w, answer :: answers)

/-- What happens now leaves the worlds related, and the answers are the same. -/
theorem Tracks.step (h : Tracks g n start w v) (s : Step) :
    Alike (fun a b => (∃ m, Tracks g m start a.1 b.1) ∧ a.2.uncounted = b.2.uncounted)
      (w.step s) (v.step s) := by
  cases s with
  | message text now =>
    refine (h.handleMessage text).bind fun a b hab => .ok ⟨⟨n, hab.1⟩, ?_⟩
    rw [hab.2]
  | input text now => exact (h.handleInput text).bind fun _ _ done => .ok ⟨⟨n, done⟩, rfl⟩
  | key shortcut now =>
    refine (h.handleKey shortcut).bind fun a b hab => .ok ⟨⟨n, hab.1⟩, ?_⟩
    rw [hab.2]
  | poll now => exact h.poll.bind fun _ _ done => .ok ⟨⟨n, done⟩, rfl⟩
  | load text now =>
    refine (h.loadConfig text).bind fun a b hab => .ok ⟨⟨n, hab.1⟩, ?_⟩
    rw [hab.2]
  | reset => exact .ok ⟨⟨n + 1, h.reset⟩, rfl⟩

theorem Tracks.play (h : Tracks g n start w v) (steps : List Step) :
    Alike (fun a b => (∃ m, Tracks g m start a.1 b.1) ∧
      a.2.map Answer.uncounted = b.2.map Answer.uncounted) (w.play steps) (v.play steps) := by
  induction steps generalizing n w v with
  | nil => exact .ok ⟨⟨n, h⟩, rfl⟩
  | cons s steps ih =>
    refine (h.step s).bind fun a b hab => ?_
    obtain ⟨⟨m, h⟩, answer⟩ := hab
    refine (ih h).bind fun a' b' hab' => .ok ⟨hab'.1, ?_⟩
    rw [List.map_cons, List.map_cons, answer, hab'.2]

/-- The worlds that come about when everything but the scripts that wait may be changed in between:
a client is bound, the mailbox is emptied, settings and variables are set. -/
inductive Arises : World → Prop
  | create (settings : Settings) : Arises (create settings)
  | step {w v : World} {s : Step} {answer : Answer} : Arises w → w.step s = .ok (v, answer) → Arises v
  | change {w v : World} : Arises w → v.pending = w.pending →
      w.engine.generation ≤ v.engine.generation → Arises v

omit [Lua] [Chance] in
/-- A world follows itself, and nothing is forgotten. -/
theorem tracks_self (h : ∀ c ∈ w.pending, c.generation ≤ w.engine.generation) :
    Tracks 0 w.engine.generation [] w w := by
  refine ⟨?_, rfl, Nat.zero_le _, h, ?_⟩
  · simp [forget]
  · simp

/-- Nothing that waits is of a generation that is still to come. -/
theorem Arises.pending (h : w.Arises) : ∀ c ∈ w.pending, c.generation ≤ w.engine.generation := by
  induction h with
  | create settings => exact fun _ hc => absurd hc List.not_mem_nil
  | @step w v s answer _ hs ih =>
    have next := (tracks_self ih).step s
    rw [hs] at next
    cases next with
    | ok done =>
      obtain ⟨⟨m, done⟩, -⟩ := done
      exact done.generation ▸ done.pending
  | change _ hp hg ih => exact fun c hc => Nat.le_trans (ih c (hp ▸ hc)) hg

/-- What holds of new worlds, and of a world after whatever happens to it, holds of all that come
about. -/
theorem Reachable.induction {p : World → Prop} (fresh : ∀ w : World, w.IsFresh → p w)
    (step : ∀ (w v : World) (s : Step) (answer : Answer), p w → w.step s = .ok (v, answer) → p v)
    (h : w.Reachable) : p w := by
  induction h with
  | fresh h => exact fresh _ h
  | @loadConfig w v text now result _ h ih =>
    exact step w v (.load text now) (.loaded result) ih (by simp [World.step, h])
  | @handleInput w v text now _ h ih =>
    exact step w v (.input text now) .nothing ih (by simp [World.step, h])
  | @handleMessage w v text now shown _ h ih =>
    exact step w v (.message text now) (.shown shown) ih (by simp [World.step, h])
  | @handleKey w v shortcut now bound _ h ih =>
    exact step w v (.key shortcut now) (.bound bound) ih (by simp [World.step, h])
  | @poll w v now count _ h ih =>
    exact step w v (.poll now) (.woken count) ih (by simp [World.step, h])
  | @reset w _ ih => exact step w w.reset .reset .nothing ih rfl

theorem Reachable.arises (h : w.Reachable) : w.Arises :=
  h.induction (fun _ h => .change (.create default) h.pending (Nat.zero_le _))
    fun _ _ _ _ ih next => .step ih next

/-- The second result is the first one but for scripts that waited at the start, before generation
`g`: they may still wait in the first world, and they are counted there when they are due. -/
structure Agrees (g : Nat) (start : List Continuation) (a b : World × List Answer) : Prop where
  world : b.1 = a.1.forget g
  old : (a.1.pending.filter (·.generation < g)).Sublist start
  answers : a.2.map Answer.uncounted = b.2.map Answer.uncounted

/-- Behind a reset everything happens as if the scripts that waited had been dropped, and no script
that is suspended from then on is taken for one of them. -/
theorem play_reset (h : w.Arises) (steps : List Step) :
    Alike (Agrees w.reset.engine.generation w.pending) (w.reset.play steps)
      (({ w.reset with pending := [] } : World).play steps) := by
  have old : ∀ c ∈ w.pending, c.generation < w.reset.engine.generation :=
    fun c hc => Nat.lt_succ_of_le (h.pending c hc)
  have dropped : w.reset.pending.filter (w.reset.engine.generation ≤ ·.generation) = [] :=
    List.filter_eq_nil_iff.2 fun c hc => by simpa using old c hc
  have tracks : Tracks w.reset.engine.generation w.reset.engine.generation w.pending w.reset
      { w.reset with pending := [] } := by
    refine ⟨?_, rfl, Nat.le_refl _, fun c hc => Nat.le_of_lt (old c hc), List.filter_sublist⟩
    rw [forget, dropped]
  refine (tracks.play steps).imp ?_
  rintro a b ⟨⟨m, done⟩, answers⟩
  exact ⟨done.eq, done.old, answers⟩

end

/-- A script waits at the reset, and one that came after it is due at the same time. -/
theorem play_reset_paused : ∃ w, loaded? "#pause 5\n#display late".toList = some w ∧
    w.Arises ∧ w.pending.length = 1 ∧
    let steps : List Step := [.load "#pause 5\n#display early".toList 0, .poll 5000000000]
    Alike (Agrees w.reset.engine.generation w.pending) (w.reset.play steps)
      (({ w.reset with pending := [] } : World).play steps) := by
  have waits : (loaded? "#pause 5\n#display late".toList).elim false
      (fun w => decide (w.pending.length = 1)) = true := by
    decide +kernel
  generalize hl : loaded? "#pause 5\n#display late".toList = found at waits ⊢
  cases found with
  | none => cases waits
  | some w =>
    have arises := (reachable_of_loaded? hl).arises
    exact ⟨w, rfl, arises, of_decide_eq_true waits, play_reset arises _⟩

end World
end MudClient
