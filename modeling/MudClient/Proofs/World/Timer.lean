import MudClient.Proofs.World.History
import MudClient.Proofs.World.Return
/-! The queue of the scripts that wait. A look at the clock takes up each script that is due, the
earliest first, and no script that is suspended meanwhile. So over any course of events each script
is taken up once, when it is due, or is still in the queue, unless a script comes to what stops the
client: then the scripts that were due with it are not taken up. -/
namespace MudClient

open Script (Effect Nanos Chance)

namespace Happening

variable {q : List Continuation} {a b h : List Happening}

theorem replay?_append (q : List Continuation) (a b : List Happening) :
    replay? q (a ++ b) = (replay? q a).bind (replay? · b) := by
  induction a generalizing q with
  | nil => rfl
  | cons x a ih =>
    cases x with
    | suspended c => exact ih _
    | resumed c now =>
      rw [List.cons_append, replay?, replay?]
      split
      · exact ih _
      · rfl

theorem replay?_of_resumptions (hn : resumptions h = []) (q : List Continuation) :
    replay? q h = some (q ++ suspensions h) := by
  induction h generalizing q with
  | nil => simp [replay?, suspensions]
  | cons x h ih =>
    cases x with
    | suspended c => simpa [replay?] using ih hn (q ++ [c])
    | resumed c now => cases hn

/-- Nothing gets lost in the queue, and nothing is taken out of it twice. -/
theorem perm_of_replay? {q' : List Continuation} (hr : replay? q h = some q') :
    (q ++ suspensions h).Perm ((resumptions h).map (·.1) ++ q') := by
  induction h generalizing q with
  | nil =>
    cases hr
    simp [suspensions, resumptions]
  | cons x h ih =>
    cases x with
    | suspended c => simpa using ih hr
    | resumed c now =>
      rw [replay?] at hr
      split at hr
      · rename_i hc
        exact ((List.perm_cons_erase hc.1).append_right _).trans ((ih hr).cons c)
      · cases hr

theorem due_le_of_replay? {q' : List Continuation} {c : Continuation} {now : Nanos}
    (hr : replay? q h = some q') (hc : (c, now) ∈ resumptions h) : c.due ≤ now := by
  induction h generalizing q with
  | nil => cases hc
  | cons x h ih =>
    cases x with
    | suspended d => exact ih hr hc
    | resumed d time =>
      rw [replay?] at hr
      split at hr
      · rename_i hd
        rcases List.mem_cons.1 hc with hc | hc
        · cases hc
          exact hd.2
        · exact ih hr hc
      · cases hr

end Happening

namespace Recording

variable {r r' r'' : Recording} {now : Nanos}

/-- Scripts have joined the queue, each at its end, and none has left it. -/
structure Suspends (r r' : Recording) : Prop where
  exists_more : ∃ more, resumptions more = [] ∧ r'.history = r.history ++ more ∧
    r'.world.pending = r.world.pending ++ suspensions more

theorem suspends_of_eq (history : r'.history = r.history)
    (pending : r'.world.pending = r.world.pending) : Suspends r r' :=
  ⟨[], rfl, by simp [history], by simp [pending, suspensions]⟩

theorem Suspends.refl (r : Recording) : Suspends r r := suspends_of_eq rfl rfl

theorem suspends_ran (r : Recording) (x : Execution) :
    Suspends r { r with world := r.world.ran x } := suspends_of_eq rfl rfl

theorem Suspends.trans (h : Suspends r r') (h' : Suspends r' r'') : Suspends r r'' := by
  obtain ⟨a, ha, hah, hap⟩ := h
  obtain ⟨b, hb, hbh, hbp⟩ := h'
  refine ⟨a ++ b, ?_, ?_, ?_⟩
  · rw [resumptions_append, ha, hb, List.append_nil]
  · rw [hbh, hah, List.append_assoc]
  · rw [hbp, hap, suspensions_append, List.append_assoc]

theorem Suspends.settle (h : Suspends r r') (result : Except ScriptError Outcome) :
    Suspends r (r'.settle result) := by
  refine h.trans ⟨Happening.ofResult result, ?_, rfl, ?_⟩
  · unfold Happening.ofResult
    split <;> rfl
  · unfold Recording.settle World.settle Happening.ofResult
    dsimp only
    split
    · rfl
    · simp [suspensions]

/-- How commands are sent, if scripts may join the queue only. -/
def SendSuspends (send : Recording → Text → Except Crash Recording) : Prop :=
  ∀ r t r', send r t = .ok r' → Suspends r r'

variable {send' : Recording → Text → Except Crash Recording}

theorem suspends_foldlM {α : Type} {f : Recording → α → Except Crash Recording} {as : List α}
    (step : ∀ a ∈ as, ∀ r r', f r a = .ok r' → Suspends r r') (h : as.foldlM f r = .ok r') :
    Suspends r r' :=
  foldlM_keeps (p := Suspends r) (fun a ha _ _ hr hf => hr.trans (step a ha _ _ hf)) (.refl r) h

theorem suspends_applyEffects (hsend : SendSuspends send') {effects : List Effect}
    (h : r.applyEffects send' effects = .ok r') : Suspends r r' := by
  refine suspends_foldlM (fun e _ r r' h => ?_) h
  cases e with
  | send text => exact hsend r text r' h
  | _ =>
    cases h
    exact suspends_of_eq rfl rfl

theorem pending_transmit (w : World) (command : Text) :
    (w.transmit command).pending = w.pending := by
  unfold World.transmit
  split <;> rfl

section

variable [Lua] [Chance]

theorem suspends_expand (hsend : SendSuspends send') {a : Alias} {captures : Captures}
    (h : r.expand send' now a captures = .ok r') : Suspends r r' := by
  unfold Recording.expand at h
  obtain ⟨run, -, h⟩ := bind_eq_ok.1 h
  obtain ⟨after, ha, h⟩ := bind_eq_ok.1 h
  cases h
  have done := suspends_applyEffects hsend ha
  refine Suspends.settle (.trans (.trans ?_ done) ?_) run.result
  · exact suspends_of_eq rfl rfl
  · exact suspends_of_eq rfl rfl

theorem suspends_send (now : Nanos) (levels : Nat) : SendSuspends (Recording.send now levels) := by
  induction levels with
  | zero =>
    intro r t r' h
    cases h
    exact .refl r
  | succ levels ih =>
    intro r t r' h
    refine suspends_foldlM (fun command _ r r' h => ?_) h
    unfold Recording.handleCommand at h
    split at h
    · exact suspends_expand ih h
    · cases h
      exact suspends_of_eq rfl (pending_transmit r.world command)

theorem suspends_conclude {run : Execution} (h : r.conclude run now = .ok r') : Suspends r r' := by
  unfold Recording.conclude at h
  obtain ⟨after, ha, h⟩ := bind_eq_ok.1 h
  cases h
  have done := suspends_applyEffects (suspends_send now _) ha
  refine Suspends.settle (.trans ?_ done) run.result
  exact suspends_of_eq rfl rfl

theorem suspends_handleInput {text : Text} (h : r.handleInput text now = .ok r') :
    Suspends r r' := by
  unfold Recording.handleInput at h
  split at h
  · cases h
    exact suspends_of_eq rfl (pending_transmit r.world [])
  · exact suspends_send now _ r text r' h

theorem suspends_handleLine {a b : Reception} {line : Text}
    (h : handleLine now (r, a) line = .ok (r', b)) : Suspends r r' := by
  unfold Recording.handleLine at h
  dsimp only at h
  split at h
  · cases h
    exact suspends_of_eq rfl rfl
  · rename_i t captures _
    obtain ⟨run, -, h⟩ := bind_eq_ok.1 h
    obtain ⟨done, hd, h⟩ := bind_eq_ok.1 h
    cases h
    refine Suspends.trans ?_ (suspends_conclude hd)
    refine suspends_of_eq rfl ?_
    cases (World.shownBy t captures line run).1 <;> rfl

theorem suspends_handleMessage {text : Text} {shown : Reception}
    (h : r.handleMessage text now = .ok (r', shown)) : Suspends r r' :=
  foldlM_keeps (p := fun state : Recording × Reception => Suspends r state.1)
    (fun _ _ _ _ hs hl => hs.trans (suspends_handleLine hl)) (b := (r, Reception.empty))
    (.refl r) h

theorem suspends_handleKey {shortcut : Shortcut} {isBound : Bool}
    (h : r.handleKey shortcut now = .ok (r', isBound)) : Suspends r r' := by
  unfold Recording.handleKey at h
  split at h
  · cases h
    exact .refl r
  · obtain ⟨run, -, h⟩ := bind_eq_ok.1 h
    obtain ⟨done, hd, h⟩ := bind_eq_ok.1 h
    cases h
    exact (suspends_ran r run).trans (suspends_conclude hd)

theorem suspends_loadConfig {text : Text} {result : Except ScriptError Unit}
    (h : r.loadConfig text now = .ok (r', result)) : Suspends r r' := by
  unfold Recording.loadConfig at h
  obtain ⟨run, -, h⟩ := bind_eq_ok.1 h
  obtain ⟨done, hd, h⟩ := bind_eq_ok.1 h
  cases h
  exact (suspends_ran r run).trans (suspends_conclude hd)

/-- A script that is due is taken up, and then others may join the queue. -/
theorem suspends_wake {c : Continuation} (h : wake now r c = .ok r') :
    Suspends { r with history := r.history ++ [.resumed c now] } r' := by
  unfold Recording.wake at h
  obtain ⟨run, -, h⟩ := bind_eq_ok.1 h
  exact suspends_conclude h

/-- The scripts that are due are taken up one after another, and those that join the queue meanwhile
are not. -/
theorem exists_wakes {due : List Continuation} (h : due.foldlM (wake now) r = .ok r') :
    ∃ more, r'.history = r.history ++ more ∧ resumptions more = due.map (·, now) ∧
      r'.world.pending = r.world.pending ++ suspensions more := by
  induction due generalizing r with
  | nil =>
    cases h
    exact ⟨[], by simp, rfl, by simp [suspensions]⟩
  | cons c due ih =>
    rw [List.foldlM_cons] at h
    obtain ⟨next, hw, h⟩ := bind_eq_ok.1 h
    obtain ⟨first, hn, hh, hp⟩ := suspends_wake hw
    obtain ⟨more, hh', hr, hp'⟩ := ih h
    refine ⟨.resumed c now :: first ++ more, ?_, ?_, ?_⟩
    · simp [hh', hh]
    · simp [hr, hn]
    · simp [hp', hp]

end

/-- What has happened led from one queue to the other. -/
def Follows (start : List Continuation) (r : Recording) : Prop :=
  Happening.replay? start r.history = some r.world.pending

variable {start : List Continuation}

theorem Follows.suspends (h : Follows start r) (hs : Suspends r r') : Follows start r' := by
  obtain ⟨more, hn, hh, hp⟩ := hs
  rw [Follows, hh, Happening.replay?_append, h, Option.bind_some,
    Happening.replay?_of_resumptions hn, hp]

variable [Lua] [Chance]

/-- `old` is what is left of the queue that the clock was held against, and `new` has joined it. -/
theorem follows_wakes {due old new : List Continuation} (h : due.foldlM (wake now) r = .ok r')
    (replayed : Happening.replay? start r.history = some (old ++ new))
    (pending : r.world.pending = (old.filter fun c => !(c.due ≤ now)) ++ new)
    (hd : (old.filter (·.due ≤ now)).Perm due) : Follows start r' := by
  induction due generalizing r old new with
  | nil =>
    cases h
    have waiting : ∀ c ∈ old, (!(c.due ≤ now : Bool)) = true := by
      simpa [List.filter_eq_nil_iff] using hd.eq_nil
    rw [Follows, replayed, pending, List.filter_eq_self.2 waiting]
  | cons c due ih =>
    rw [List.foldlM_cons] at h
    obtain ⟨next, hw, h⟩ := bind_eq_ok.1 h
    obtain ⟨first, hn, hh, hp⟩ := suspends_wake hw
    obtain ⟨hc, hdue⟩ := List.mem_filter.1 (hd.mem_iff.2 List.mem_cons_self)
    have hdue : c.due ≤ now := of_decide_eq_true hdue
    have taken : c ∈ old ++ new ∧ c.due ≤ now := ⟨List.mem_append_left _ hc, hdue⟩
    have replayed' : Happening.replay? start next.history =
        some (old.erase c ++ (new ++ suspensions first)) := by
      rw [hh, List.append_assoc, Happening.replay?_append, replayed, Option.bind_some,
        List.singleton_append, Happening.replay?, if_pos taken, List.erase_append_left _ hc,
        Happening.replay?_of_resumptions hn, List.append_assoc]
    have pending' : next.world.pending =
        ((old.erase c).filter fun c => !(c.due ≤ now)) ++ (new ++ suspensions first) := by
      rw [hp, pending, ← List.erase_filter, List.erase_of_not_mem, List.append_assoc]
      simp [hdue]
    have rest : ((old.erase c).filter (·.due ≤ now)).Perm due := by
      rw [← List.erase_filter]
      simpa using hd.erase c
    exact ih h replayed' pending' rest

theorem follows_poll {count : Nat} (h : Follows start r) (hp : r.poll now = .ok (r', count)) :
    Follows start r' := by
  unfold Recording.poll at hp
  obtain ⟨woken, hw, hp⟩ := bind_eq_ok.1 hp
  cases hp
  have due : (r.world.pending.filter (·.due ≤ now)).Perm (World.dueAt now r.world.pending) :=
    (List.mergeSort_perm _ _).symm
  have replayed : Happening.replay? start r.history = some (r.world.pending ++ []) := by
    rw [List.append_nil]
    exact h
  exact follows_wakes hw replayed (List.append_nil _).symm due

theorem Follows.step {s : World.Step} {answer : World.Answer} (h : Follows start r)
    (hs : r.step s = .ok (r', answer)) : Follows start r' := by
  cases s with
  | message text now =>
    obtain ⟨⟨done, shown⟩, hd, hs⟩ := bind_eq_ok.1 hs
    cases hs
    exact h.suspends (suspends_handleMessage hd)
  | input text now =>
    obtain ⟨done, hd, hs⟩ := bind_eq_ok.1 hs
    cases hs
    exact h.suspends (suspends_handleInput hd)
  | key shortcut now =>
    obtain ⟨⟨done, isBound⟩, hd, hs⟩ := bind_eq_ok.1 hs
    cases hs
    exact h.suspends (suspends_handleKey hd)
  | poll now =>
    obtain ⟨⟨done, count⟩, hd, hs⟩ := bind_eq_ok.1 hs
    cases hs
    exact follows_poll h hd
  | load text now =>
    obtain ⟨⟨done, result⟩, hd, hs⟩ := bind_eq_ok.1 hs
    cases hs
    exact h.suspends (suspends_loadConfig hd)
  | reset =>
    cases hs
    exact h

theorem Follows.play {steps : List World.Step} {answers : List World.Answer} (h : Follows start r)
    (hp : r.play steps = .ok (r', answers)) : Follows start r' := by
  induction steps generalizing r answers with
  | nil =>
    cases hp
    exact h
  | cons s steps ih =>
    obtain ⟨⟨next, answer⟩, hs, hp⟩ := bind_eq_ok.1 hp
    obtain ⟨⟨done, rest⟩, hd, hp⟩ := bind_eq_ok.1 hp
    cases hp
    exact ih (h.step hs) hd

end Recording

namespace World

variable {w : World} {now : Nanos}

/-- Those of a queue that are due, by the times at which they are; scripts that are due at the same
time keep their order. -/
structure IsInDueOrder (now : Nanos) (queue due : List Continuation) : Prop where
  perm : due.Perm (queue.filter (·.due ≤ now))
  sorted : due.Pairwise (·.due ≤ ·.due)
  ties : ∀ time ≤ now, due.filter (·.due = time) = queue.filter (·.due = time)

theorem isInDueOrder_dueAt (now : Nanos) (queue : List Continuation) :
    IsInDueOrder now queue (dueAt now queue) where
  perm := List.mergeSort_perm _ _
  sorted := by
    have trans : ∀ a b c : Continuation, a.due ≤ b.due → b.due ≤ c.due → a.due ≤ c.due :=
      fun _ _ _ => Nat.le_trans
    have total : ∀ a b : Continuation, a.due ≤ b.due ∨ b.due ≤ a.due :=
      fun _ _ => Nat.le_total _ _
    exact (List.pairwise_mergeSort (by simpa using trans) (by simpa using total) _).imp
      of_decide_eq_true
  ties time hle := by
    rw [← dueAt_filter]
    have all : ∀ c ∈ queue.filter (·.due = time), c.due = time := by simp
    have due : (queue.filter (·.due = time)).filter (·.due ≤ now) = queue.filter (·.due = time) :=
      List.filter_eq_self.2 fun c hc => decide_eq_true (all c hc ▸ hle)
    rw [dueAt, due]
    refine List.mergeSort_of_pairwise (List.pairwise_of_forall_mem_list fun a ha b hb => ?_)
    simp [all a ha, all b hb]

section

variable [Lua] [Chance]

/-- What the clock does to the scripts that wait, and what becomes of them in the end. -/
structure ResumesOnTime (w : World) : Prop where
  /-- A look at the clock comes to its end exactly if nothing that a script comes to on its way
  stops the client: a pause that is too long, or a block of code without an end. -/
  returns : ∀ now, (∃ r, w.poll now = .ok r) ↔ ∀ levels v job,
    Makes w (.poll now) (.script levels v job) → job.Fits v now
  /-- The scripts that are due are taken up, each once and in their order. The others stay, and
  those that are suspended meanwhile come behind them. -/
  poll : ∀ now v count, w.poll now = .ok (v, count) → ∃ history due,
    (Recording.start w).poll now = .ok (⟨v, history⟩, count) ∧
    IsInDueOrder now w.pending due ∧ resumptions history = due.map (·, now) ∧
    count = due.length ∧
    v.pending = (w.pending.filter fun c => now < c.due) ++ suspensions history
  /-- Over any course of events each script that was suspended is taken up when it is due, or it
  still waits. -/
  play : ∀ steps v answers, w.play steps = .ok (v, answers) → ∃ history,
    (Recording.start w).play steps = .ok (⟨v, history⟩, answers) ∧
    Happening.replay? w.pending history = some v.pending ∧
    (w.pending ++ suspensions history).Perm ((resumptions history).map (·.1) ++ v.pending) ∧
    ∀ c now, (c, now) ∈ resumptions history → c.due ≤ now

theorem exists_poll_of_poll {v : World} {count : Nat} (h : w.poll now = .ok (v, count)) :
    ∃ history due, (Recording.start w).poll now = .ok (⟨v, history⟩, count) ∧
      IsInDueOrder now w.pending due ∧ resumptions history = due.map (·, now) ∧
      count = due.length ∧
      v.pending = (w.pending.filter fun c => now < c.due) ++ suspensions history := by
  obtain ⟨history, hr⟩ :=
    Recording.RecordsAs.exists (Recording.records_poll (.start w)) h
  have hp := hr
  unfold Recording.poll at hp
  obtain ⟨woken, hw, hp⟩ := bind_eq_ok.1 hp
  cases hp
  obtain ⟨more, hh, resumed, pending⟩ := Recording.exists_wakes hw
  obtain rfl : history = more := hh
  have waiting : (w.pending.filter fun c => !(c.due ≤ now)) =
      w.pending.filter fun c => now < c.due := by
    refine List.filter_congr fun c _ => ?_
    rw [← decide_not, decide_eq_decide, Nat.not_le]
  refine ⟨history, _, hr, isInDueOrder_dueAt now w.pending, resumed, rfl, ?_⟩
  rw [← waiting]
  exact pending

theorem resumesOnTime_of_reachable (hw : w.Reachable) : w.ResumesOnTime where
  returns now :=
    (returns_bind_iff_of_total fun _ => ⟨_, rfl⟩).symm.trans
      (hw.isCompiled.returns_step (.poll now))
  poll now v count h := exists_poll_of_poll h
  play steps v answers h := by
    obtain ⟨history, hr⟩ :=
      Recording.RecordsAs.exists (Recording.records_play (.start w) steps) h
    have follows : Recording.Follows w.pending (.start w) := rfl
    have replayed : Happening.replay? w.pending history = some v.pending := follows.play hr
    exact ⟨history, hr, replayed, Happening.perm_of_replay? replayed,
      fun c now => Happening.due_le_of_replay? replayed⟩

end

/-- A script that pauses again, for no time at all, while it is taken up. -/
theorem resumesOnTime_pausing : ∃ w,
    loaded? "#pause 1\n#pause 0\n#display late".toList = some w ∧ w.Reachable ∧
      (∃ v, w.poll 1000000000 = .ok (v, 1) ∧ v.pending.length = 1) ∧ w.ResumesOnTime := by
  have runs : (loaded? "#pause 1\n#pause 0\n#display late".toList).elim false (fun w =>
      match w.poll 1000000000 with
      | .ok (v, count) => decide (count = 1 ∧ v.pending.length = 1)
      | .error _ => false) = true := by
    decide +kernel
  generalize hl : loaded? "#pause 1\n#pause 0\n#display late".toList = found at runs ⊢
  cases found with
  | none => cases runs
  | some w =>
    dsimp only [Option.elim] at runs
    split at runs
    · rename_i v count hp
      obtain ⟨rfl, waits⟩ := of_decide_eq_true runs
      have reachable := reachable_of_loaded? hl
      exact ⟨w, rfl, reachable, ⟨v, hp, waits⟩, resumesOnTime_of_reachable reachable⟩
    · cases runs

/-- The pause after the one that is over ends beyond the clock. -/
theorem not_poll_of_overflow : ¬ ∀ w now, Reachable w →
    ∃ v, w.poll now = .ok (v, (dueAt now w.pending).length) := by
  intro returns
  have crashes : (loaded? "#pause 0\n#pause 10000000000000000000\n#send ok".toList).elim false
      (fun w => !(w.poll 0).isOk) = true := by
    decide +kernel
  generalize hl : loaded? "#pause 0\n#pause 10000000000000000000\n#send ok".toList = found
    at crashes
  cases found with
  | none => cases crashes
  | some w =>
    obtain ⟨v, hv⟩ := returns w 0 (reachable_of_loaded? hl)
    dsimp only [Option.elim] at crashes
    rw [hv] at crashes
    cases crashes

end World
end MudClient
