import MudClient.Proofs.Engine.Return
import MudClient.Proofs.World.Course
/-! Where a world stops the client. Whatever happens to a world has a result exactly if every script
that is run on the way has one, and of the scripts of a world that came about only a pause that is
too long or a block of code without an end stops the client: every call that waits was compiled for
the functions that there are. -/
namespace MudClient

open Script (Effect Registry Nanos Chance)

section

variable {α β ε : Type} {x : Except ε α} {f : α → Except ε β}

theorem returns_bind_iff :
    (∃ b, x >>= f = .ok b) ↔ ∃ a, x = .ok a ∧ ∃ b, f a = .ok b := by
  simp only [bind_eq_ok]
  exact ⟨fun ⟨b, a, h⟩ => ⟨a, h.1, b, h.2⟩, fun ⟨a, h, b, hb⟩ => ⟨b, a, h, hb⟩⟩

/-- What always has a result takes none away. -/
theorem returns_bind_iff_of_total (hf : ∀ a, ∃ b, f a = .ok b) :
    (∃ b, x >>= f = .ok b) ↔ ∃ a, x = .ok a :=
  returns_bind_iff.trans (exists_congr fun a => and_iff_left (hf a))

end

namespace Job

/-- What is left of a script that waits was compiled. -/
def InRange (registry : Registry) : Job → Prop
  | ofContinuation c => ∀ i ∈ c.rest, i.InRange registry
  | _ => True

variable [Lua] [Chance]

/-- Nothing that the script comes to stops the client. The blank action of a trigger and a script of
an older generation are not run. -/
def Fits (w : World) (now : Nanos) : Job → Prop
  | ofAlias a captures => @Engine.Fits _ w.chance (w.engine.applyCaptures captures)
      (some (w.engine.applyCaptures captures).locals) a.action now
  | ofTrigger t captures _ => Text.isAllBlank t.action = false →
      @Engine.Fits _ w.chance (w.engine.applyCaptures captures)
        (some (w.engine.applyCaptures captures).locals) t.action now
  | ofKeyBinding b => @Engine.Fits _ w.chance w.engine (some w.engine.locals) b.action now
  | ofContinuation c => c.generation = w.engine.generation →
      ∀ i table, c.rest.ComesTo w.engine.registry c.locals i table → i.Fits now table
  | ofConfiguration text => @Engine.Fits _ w.chance w.engine none text now

variable {w : World} {now : Nanos} {job : Job} {x : Execution}

theorem returns_run (hj : job.InRange w.engine.registry) :
    (∃ x, job.run w now = .ok x) ↔ job.Fits w now := by
  cases job with
  | ofAlias a captures => exact @Engine.returns_execute _ _ _ _ _ w.chance (some captures)
  | ofTrigger t captures line =>
    simp only [run, Trigger.fire, Fits]
    cases Text.isAllBlank t.action with
    | true => simp
    | false => simpa using @Engine.returns_execute _ _ _ _ _ w.chance (some captures)
  | ofKeyBinding b => exact @Engine.returns_execute _ _ _ _ _ w.chance none
  | ofContinuation c => exact Engine.returns_resume hj
  | ofConfiguration text => exact @Engine.returns_executeRaw _ _ _ _ _ w.chance

theorem isCompiled_of_run (job : Job) (hj : job.InRange w.engine.registry)
    (h : job.run w now = .ok x) : x.IsCompiled w.engine.registry := by
  cases job with
  | ofAlias a captures => exact Engine.isCompiled_of_start (e := w.engine.applyCaptures captures) h
  | ofTrigger t captures line =>
    simp only [run, Trigger.fire] at h
    split at h
    · cases h
      exact ⟨rfl, fun _ hc => nomatch hc⟩
    · exact Engine.isCompiled_of_start (e := w.engine.applyCaptures captures) h
  | ofKeyBinding b => exact Engine.isCompiled_of_start h
  | ofContinuation c => exact Engine.isCompiled_of_resume hj h
  | ofConfiguration text => exact Engine.isCompiled_of_start h

end Job

namespace World

variable {w v : World} {now : Nanos}

/-- The engine knows the builtins, and every script that waits was compiled for them. -/
structure IsCompiled (w : World) : Prop where
  registry : w.engine.registry = .builtins
  pending : ∀ c ∈ w.pending, ∀ i ∈ c.rest, i.InRange .builtins

theorem IsCompiled.ran (h : w.IsCompiled) {x : Execution} (hx : x.IsCompiled .builtins)
    (job : Job) : (job.ran w x).IsCompiled := by
  cases job <;> exact ⟨hx.registry, h.pending⟩

theorem IsCompiled.settle (h : w.IsCompiled) {x : Execution} (hx : x.IsCompiled .builtins) :
    (w.settle x.result).IsCompiled := by
  unfold World.settle
  split
  · rename_i c hc
    refine ⟨h.registry, fun d hd => ?_⟩
    rcases List.mem_append.1 hd with hd | hd
    · exact h.pending d hd
    · rw [List.mem_singleton.1 hd]
      exact hx.waiting c hc
  · exact h

section

variable [Lua] [Chance]

theorem respects_isCompiled :
    Respects (·.InRange .builtins) fun w v => w.IsCompiled → v.IsCompiled where
  refl _ h := h
  trans h h' hw := h' (h hw)
  transmit w command h := by
    unfold World.transmit
    split <;> exact ⟨h.registry, h.pending⟩
  display _ _ _ h := ⟨h.registry, h.pending⟩
  wait _ _ h := ⟨h.registry, fun c hc => h.pending c (List.mem_filter.1 hc).1⟩
  reset _ h := ⟨h.registry, h.pending⟩
  effect {w v send e} hn he h := by
    cases e with
    | send text => exact absurd rfl (hn text)
    | _ =>
      cases he
      exact ⟨h.registry, h.pending⟩
  run {w v now job x} hj hx hv h := by
    have ran := Job.isCompiled_of_run _ (h.registry ▸ hj) hx
    rw [h.registry] at ran
    exact (hv (h.ran ran job)).settle ran
  enter {w v now a captures x} hx hv h := by
    have ran := Job.isCompiled_of_run (.ofAlias a captures) trivial hx
    rw [h.registry] at ran
    have inside := hv ⟨ran.registry, h.pending⟩
    have out : IsCompiled { v with expanding := v.expanding.tail } :=
      ⟨inside.registry, inside.pending⟩
    exact out.settle ran

omit [Lua] [Chance] in
theorem inRange_of_pending (h : w.IsCompiled) (job : Job)
    (hj : ∀ c, job = .ofContinuation c → c ∈ w.pending) : job.InRange .builtins := by
  cases job with
  | ofContinuation c => exact h.pending c (hj c rfl)
  | _ => trivial

theorem Reachable.isCompiled (h : w.Reachable) : w.IsCompiled := by
  refine h.induction (fun w h => ⟨?_, ?_⟩) fun _ _ _ _ h hs =>
    respects_isCompiled.step (inRange_of_pending h) hs h
  · rw [h.engine]
    rfl
  · simp [h.pending]

/-- A call is made in a world that was compiled, and so was the script that it runs. -/
def Call.IsCompiled : Call → Prop
  | .send _ w _ => w.IsCompiled
  | .script _ w job => w.IsCompiled ∧ job.InRange .builtins

theorem Call.IsCompiled.calls {c d : Call} (h : c.IsCompiled) (hc : Calls now c d) :
    d.IsCompiled := by
  cases hc with
  | answer hv =>
    exact ⟨respects_isCompiled.comesTo
      (fun _ _ _ _ => respects_isCompiled.handleCommand (respects_isCompiled.send now _)) hv h,
      trivial⟩
  | @effect _ w _ job x _ hx hv =>
    obtain ⟨hw, hj⟩ := h
    have ran := Job.isCompiled_of_run _ (hw.registry ▸ hj) hx
    rw [hw.registry] at ran
    have taken := hw.ran ran job
    have entered : (job.enter w x).IsCompiled := by
      cases job with
      | ofAlias => exact ⟨taken.registry, taken.pending⟩
      | ofTrigger => exact respects_isCompiled.showLine _ _ _ _ taken
      | _ => exact taken
    exact respects_isCompiled.comesTo
      (fun _ _ _ _ => respects_isCompiled.applyEffect (respects_isCompiled.send now _)) hv entered

theorem isCompiled_of_begins {s : Step} {c : Call} (h : w.IsCompiled) (hb : Begins w s c) :
    c.IsCompiled := by
  cases hb with
  | input => exact h
  | key | load => exact ⟨h, trivial⟩
  | @message _ line now v _ t captures hv =>
    refine ⟨?_, trivial⟩
    exact hv.keeps (p := fun state : World × Reception => state.1.IsCompiled)
      (fun _ _ _ _ h hl => respects_isCompiled.handleLine (fun _ _ _ => trivial) hl h) h
  | @poll now v c hv =>
    have waits : ∀ c ∈ dueAt now w.pending, ∀ i ∈ c.rest, i.InRange .builtins :=
      fun c hc => h.pending c (List.mem_filter.1 (List.mem_mergeSort.1 hc)).1
    exact ⟨respects_isCompiled.comesTo (fun c hc _ _ => respects_isCompiled.wake (waits c hc)) hv
      (respects_isCompiled.wait w _ h), waits c hv.mem⟩

theorem isCompiled_of_makes {s : Step} {c : Call} (h : w.IsCompiled) (hc : Makes w s c) :
    c.IsCompiled := by
  obtain ⟨first, hb, hc⟩ := hc
  induction hc with
  | refl => exact isCompiled_of_begins h hb
  | tail _ hd ih => exact ih.calls hd

/-- A call has a result: a command is sent, or a script is run and its effects are carried out. -/
def Call.Returns (now : Nanos) : Call → Prop
  | .send levels w text => ∃ v, World.send now levels w text = .ok v
  | .script levels w job => ∃ x, job.run w now = .ok x ∧
      ∃ v, applyEffects (World.send now levels) (job.enter w x) x.effects = .ok v

theorem returns_expand {levels : Nat} {a : Alias} {captures : Captures} :
    (∃ v, w.expand (World.send now levels) now a captures = .ok v) ↔
      (Call.script levels w (.ofAlias a captures)).Returns now :=
  returns_bind_iff.trans (exists_congr fun _ => and_congr_right fun _ =>
    returns_bind_iff_of_total fun _ => ⟨_, rfl⟩)

/-- A call has a result exactly if its own script has one and every call that it makes. -/
theorem returns_send {levels : Nat} {text : Text} :
    (Call.send levels w text).Returns now ↔
      ∀ d, Calls now (.send levels w text) d → d.Returns now := by
  cases levels with
  | zero =>
    refine ⟨fun _ d hd => ?_, fun _ => ⟨w, rfl⟩⟩
    cases hd
  | succ levels =>
    refine Iff.trans foldlM_returns_iff ⟨fun h d hd => ?_, fun h v command hv => ?_⟩
    · cases hd with
      | answer hv ha =>
        obtain ⟨u, hu⟩ := h _ _ hv
        simp only [handleCommand, ha] at hu
        exact returns_expand.1 ⟨u, hu⟩
    · unfold handleCommand
      split
      · rename_i a captures ha
        exact returns_expand.2 (h _ (.answer hv ha))
      · exact ⟨_, rfl⟩

theorem returns_script {levels : Nat} {job : Job} :
    (Call.script levels w job).Returns now ↔ (∃ x, job.run w now = .ok x) ∧
      ∀ d, Calls now (.script levels w job) d → d.Returns now := by
  constructor
  · rintro ⟨x, hx, hv⟩
    refine ⟨⟨x, hx⟩, fun d hd => ?_⟩
    cases hd with
    | effect hy hd =>
      cases hx.symm.trans hy
      exact foldlM_returns_iff.1 hv _ _ hd
  · rintro ⟨⟨x, hx⟩, h⟩
    refine ⟨x, hx, foldlM_returns_iff.2 fun v e he => ?_⟩
    cases e with
    | send text => exact h _ (.effect hx he)
    | _ => exact ⟨_, rfl⟩

/-- A call has a result exactly if every script that is run in its course has one. -/
theorem returns_iff (c : Call) : c.Returns now ↔ ∀ levels v job,
    Relation.ReflTransGen (Calls now) c (.script levels v job) →
      ∃ x, job.run v now = .ok x := by
  induction c using (measure Call.left).wf.induction with
  | h c ih =>
    have later : (∀ d, Calls now c d → d.Returns now) ↔ ∀ d, Calls now c d → ∀ levels v job,
        Relation.ReflTransGen (Calls now) d (.script levels v job) →
          ∃ x, job.run v now = .ok x :=
      forall₂_congr fun d hd => ih d (left_lt_of_calls hd)
    cases c with
    | send levels w text =>
      rw [returns_send, later]
      refine ⟨fun h levels v job hc => ?_,
        fun h d hd levels v job hc => h levels v job (hc.head hd)⟩
      rcases Relation.ReflTransGen.cases_head hc with he | ⟨d, hd, hc⟩
      · cases he
      · exact h d hd levels v job hc
    | script own w job =>
      rw [returns_script, later]
      refine ⟨fun ⟨h, hl⟩ levels v job hc => ?_, fun h => ⟨h own w job .refl,
        fun d hd levels v job hc => h levels v job (hc.head hd)⟩⟩
      rcases Relation.ReflTransGen.cases_head hc with he | ⟨d, hd, hc⟩
      · cases he
        exact h
      · exact hl d hd levels v job hc

theorem returns_conclude {x : Execution} : (∃ v, w.conclude x now = .ok v) ↔
    ∃ v, applyEffects (World.send now (maxDepth + 1)) { w with engine := x.engine } x.effects =
      .ok v :=
  returns_bind_iff_of_total fun _ => ⟨_, rfl⟩

omit [Lua] [Chance] in
/-- A line is shown the same, whatever was shown before it. -/
theorem enter_ofTrigger (w : World) (r : Reception) (t : Trigger) (captures : Captures)
    (line : Text) (x : Execution) : (Job.ofTrigger t captures line).enter w x =
      { (showLine (w.ran x, r) (shownBy t captures line x).1
        (shownBy t captures line x).2).1 with engine := x.engine } := by
  have same : (w.ran x).engine = x.engine := rfl
  rw [← same, showLine_engine]
  show (showLine (w.ran x, .empty) (shownBy t captures line x).1
    (shownBy t captures line x).2).1 = _
  cases (shownBy t captures line x).1 <;> rfl

theorem returns_handleLine {r : Reception} {line : Text} :
    (∃ b, handleLine now (w, r) line = .ok b) ↔ ∀ t captures,
      w.triggers.best? line = some (t, captures) →
        (Call.script (maxDepth + 1) w (.ofTrigger t captures line)).Returns now := by
  unfold World.handleLine
  dsimp only
  split
  · rename_i none
    refine ⟨fun _ t captures found => ?_, fun _ => ⟨_, rfl⟩⟩
    cases none.symm.trans found
  · rename_i t captures found
    have only : (∀ t captures, w.triggers.best? line = some (t, captures) →
        (Call.script (maxDepth + 1) w (.ofTrigger t captures line)).Returns now) ↔
          (Call.script (maxDepth + 1) w (.ofTrigger t captures line)).Returns now := by
      simp [found]
    rw [only]
    simp only [Call.Returns, enter_ofTrigger w r]
    exact returns_bind_iff.trans (exists_congr fun _ => and_congr_right fun _ =>
      (returns_bind_iff_of_total fun _ => ⟨_, rfl⟩).trans returns_conclude)

theorem returns_wake {c : Continuation} : (∃ v, wake now w c = .ok v) ↔
    (Call.script (maxDepth + 1) w (.ofContinuation c)).Returns now :=
  returns_bind_iff.trans (exists_congr fun _ => and_congr_right fun _ => returns_conclude)

theorem returns_handleKey {shortcut : Shortcut} : (∃ r, w.handleKey shortcut now = .ok r) ↔
    ∀ b, w.keyBindings.find? shortcut = some b →
      (Call.script (maxDepth + 1) w (.ofKeyBinding b)).Returns now := by
  unfold World.handleKey
  split
  · rename_i none
    refine ⟨fun _ b found => ?_, fun _ => ⟨_, rfl⟩⟩
    cases none.symm.trans found
  · rename_i b found
    have only : (∀ b, w.keyBindings.find? shortcut = some b →
        (Call.script (maxDepth + 1) w (.ofKeyBinding b)).Returns now) ↔
          (Call.script (maxDepth + 1) w (.ofKeyBinding b)).Returns now := by
      simp [found]
    rw [only]
    exact returns_bind_iff.trans (exists_congr fun _ => and_congr_right fun _ =>
      (returns_bind_iff_of_total fun _ => ⟨_, rfl⟩).trans returns_conclude)

theorem returns_loadConfig {text : Text} : (∃ r, w.loadConfig text now = .ok r) ↔
    (Call.script (maxDepth + 1) w (.ofConfiguration text)).Returns now :=
  returns_bind_iff.trans (exists_congr fun _ => and_congr_right fun _ =>
    (returns_bind_iff_of_total fun _ => ⟨_, rfl⟩).trans returns_conclude)

/-- What happens has a result exactly if every call has one that it begins with. -/
theorem returns_step {s : Step} : (∃ r, w.step s = .ok r) ↔
    ∀ c, Begins w s c → c.Returns s.time := by
  cases s with
  | message text now =>
    refine (returns_bind_iff_of_total fun _ => ⟨_, rfl⟩).trans (foldlM_returns_iff.trans
      ⟨fun h c hc => ?_, fun h state line hv => returns_handleLine.2 fun t captures found =>
        h _ (.message hv found)⟩)
    cases hc with
    | message hv found => exact returns_handleLine.1 (h _ _ hv) _ _ found
  | input text now =>
    refine (returns_bind_iff_of_total fun _ => ⟨_, rfl⟩).trans ?_
    unfold World.handleInput
    split
    · rename_i blank
      refine ⟨fun _ c hc => ?_, fun _ => ⟨_, rfl⟩⟩
      cases hc with
      | input hb => cases hb.symm.trans blank
    · rename_i blank
      refine ⟨fun h c hc => ?_, fun h => h _ (.input (Bool.eq_false_iff.2 blank))⟩
      cases hc with
      | input => exact h
  | key shortcut now =>
    refine (returns_bind_iff_of_total fun _ => ⟨_, rfl⟩).trans (returns_handleKey.trans
      ⟨fun h c hc => ?_, fun h b found => h _ (.key found)⟩)
    cases hc with
    | key found => exact h _ found
  | poll now =>
    refine (returns_bind_iff_of_total fun _ => ⟨_, rfl⟩).trans
      ((returns_bind_iff_of_total fun _ => ⟨_, rfl⟩).trans (foldlM_returns_iff.trans
        ⟨fun h c hc => ?_, fun h v c hv => returns_wake.2 (h _ (.poll hv))⟩))
    cases hc with
    | poll hv => exact returns_wake.1 (h _ _ hv)
  | load text now =>
    refine (returns_bind_iff_of_total fun _ => ⟨_, rfl⟩).trans (returns_loadConfig.trans
      ⟨fun h c hc => ?_, fun h => h _ .load⟩)
    cases hc
    exact h
  | reset =>
    refine ⟨fun _ c hc => ?_, fun _ => ⟨_, rfl⟩⟩
    cases hc

/-- Whatever happens to a world that was compiled has a result exactly if nothing that its scripts
come to stops the client. -/
theorem IsCompiled.returns_step (h : w.IsCompiled) (s : Step) : (∃ r, w.step s = .ok r) ↔
    ∀ levels v job, Makes w s (.script levels v job) → job.Fits v s.time := by
  have made : (∃ r, w.step s = .ok r) ↔ ∀ levels v job, Makes w s (.script levels v job) →
      ∃ x, job.run v s.time = .ok x := by
    rw [World.returns_step]
    constructor
    · rintro h levels v job ⟨first, hb, hc⟩
      exact (returns_iff first).1 (h first hb) levels v job hc
    · exact fun h first hb => (returns_iff first).2 fun levels v job hc =>
        h levels v job ⟨first, hb, hc⟩
  rw [made]
  refine forall₃_congr fun levels v job => forall_congr' fun hm => ?_
  obtain ⟨hv, hj⟩ := isCompiled_of_makes h hm
  exact Job.returns_run (hv.registry ▸ hj)

/-- Whatever happens to a world has a result exactly if nothing that its scripts come to stops the
client. Compiling has one exactly if a duration can be as long as what is drawn for each pause that
it comes to, and it has one whatever is drawn exactly if a duration can be as long as the upper bound
of each. -/
theorem returns_iff_of_reachable (hw : w.Reachable) :
    (∀ s, (∃ r, w.step s = .ok r) ↔ ∀ levels v job, Makes w s (.script levels v job) →
      job.Fits v s.time) ∧
    (∀ (c : Chance) vars source, (@Script.compile c w.engine.registry vars source).Returns ↔
      ∀ place d, @Script.ComesToPause c w.engine.registry vars source place d →
        (@Script.Delay.sample? (c.part place) d).isSome) ∧
    ∀ vars source, (∀ c : Chance, (@Script.compile c w.engine.registry vars source).Returns) ↔
      ∀ (c : Chance) place d, @Script.ComesToPause c w.engine.registry vars source place d →
        (Script.Delay.nanos? d.max).isSome :=
  ⟨fun s => hw.isCompiled.returns_step s, fun _ _ _ => Script.returns_compile,
    fun _ _ => Script.forall_returns_compile⟩

end

/-- A trigger that pauses for as long as the server says. -/
def obedient : Text := "#trigger \x7bwait *\x7d \x7b#pause $1\x7d".toList

/-- Five seconds are not too long. -/
theorem returns_obedient : ∃ w, loaded? obedient = some w ∧
    ∀ levels v job, Makes w (.message "wait 5".toList 0) (.script levels v job) →
      job.Fits v 0 := by
  have runs : (loaded? obedient).elim false
      (fun w => (w.step (.message "wait 5".toList 0)).isOk) = true := by
    decide +kernel
  generalize hl : loaded? obedient = found at runs ⊢
  cases found with
  | none => cases runs
  | some w =>
    have returns : ∃ r, w.step (.message "wait 5".toList 0) = .ok r := by
      dsimp only [Option.elim] at runs
      cases hs : w.step (.message "wait 5".toList 0) with
      | error crash =>
        rw [hs] at runs
        cases runs
      | ok r => exact ⟨r, rfl⟩
    exact ⟨w, rfl, ((returns_iff_of_reachable (reachable_of_loaded? hl)).1 _).1 returns⟩

/-- The server may name a number of seconds that no duration has. -/
theorem not_returns_of_message :
    ¬ ∀ w s, Reachable w → s.time = 0 → ∃ r, w.step s = .ok r := by
  intro returns
  have crashes : (loaded? obedient).elim false
      (fun w => !(w.step (.message "wait 1e300".toList 0)).isOk) = true := by
    decide +kernel
  generalize hl : loaded? obedient = found at crashes
  cases found with
  | none => cases crashes
  | some w =>
    obtain ⟨r, hr⟩ := returns w (.message "wait 1e300".toList 0) (reachable_of_loaded? hl) rfl
    dsimp only [Option.elim] at crashes
    rw [hr] at crashes
    cases crashes

end World
end MudClient
