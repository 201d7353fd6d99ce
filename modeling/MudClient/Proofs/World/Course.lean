import Mathlib.Logic.Relation
import MudClient.Proofs.World.Reset
/-! The course of an operation. What happens to a world runs scripts and sends commands, and each of
these calls others: a script sends commands, and a command has the script of an alias run. A call is
taken together with the world in which it is made. -/
namespace MudClient

open Script (Effect Nanos Chance)

section

variable {α β ε : Type} {f : β → α → Except ε β} {as : List α} {b v : β} {a : α}

/-- A fold comes to an element in a state: it went well up to there. -/
def ComesTo (f : β → α → Except ε β) (b : β) (as : List α) (v : β) (a : α) : Prop :=
  ∃ before after, as = before ++ a :: after ∧ before.foldlM f b = .ok v

theorem ComesTo.mem (h : ComesTo f b as v a) : a ∈ as := by
  obtain ⟨before, after, rfl, -⟩ := h
  simp

theorem comesTo_concat {c : α} :
    ComesTo f b (as ++ [c]) v a ↔ ComesTo f b as v a ∨ a = c ∧ as.foldlM f b = .ok v := by
  constructor
  · rintro ⟨before, after, he, hv⟩
    rcases List.eq_nil_or_concat' after with rfl | ⟨after, d, rfl⟩
    · obtain ⟨rfl, same⟩ := List.append_inj' he rfl
      exact .inr ⟨(List.cons.inj same).1.symm, hv⟩
    · rw [← List.cons_append, ← List.append_assoc] at he
      exact .inl ⟨before, after, (List.append_inj' he rfl).1, hv⟩
  · rintro (⟨before, after, rfl, hv⟩ | ⟨rfl, hv⟩)
    · exact ⟨before, after ++ [c], by simp, hv⟩
    · exact ⟨as, [], rfl, hv⟩

theorem ComesTo.keeps {p : β → Prop} (step : ∀ a ∈ as, ∀ b b', p b → f b a = .ok b' → p b')
    (hb : p b) (h : ComesTo f b as v a) : p v := by
  obtain ⟨before, after, rfl, hv⟩ := h
  exact foldlM_keeps (fun a ha => step a (List.mem_append_left _ ha)) hb hv

/-- A fold has a result exactly if each element has one when it comes to it. -/
theorem foldlM_returns_iff : (∃ b', as.foldlM f b = .ok b') ↔
    ∀ v a, ComesTo f b as v a → ∃ v', f v a = .ok v' := by
  induction as generalizing b with
  | nil =>
    refine ⟨fun _ v a h => ?_, fun _ => ⟨b, rfl⟩⟩
    obtain ⟨before, after, he, -⟩ := h
    simp at he
  | cons a as ih =>
    have first : ComesTo f b (a :: as) b a := ⟨[], as, rfl, rfl⟩
    have later {next v : β} {c : α} (hf : f b a = .ok next) (h : ComesTo f next as v c) :
        ComesTo f b (a :: as) v c := by
      obtain ⟨before, after, rfl, hv⟩ := h
      refine ⟨a :: before, after, rfl, ?_⟩
      rw [List.foldlM_cons, hf]
      exact hv
    constructor
    · rintro ⟨b', h⟩ v c ⟨before, after, he, hv⟩
      rw [List.foldlM_cons] at h
      obtain ⟨next, hf, h⟩ := bind_eq_ok.1 h
      cases before with
      | nil =>
        obtain ⟨rfl, rfl⟩ := List.cons.inj he
        cases hv
        exact ⟨next, hf⟩
      | cons d before =>
        obtain ⟨rfl, rfl⟩ := List.cons.inj he
        rw [List.foldlM_cons] at hv
        obtain ⟨next', hf', hv⟩ := bind_eq_ok.1 hv
        cases hf.symm.trans hf'
        exact ih.1 ⟨b', h⟩ v c ⟨before, after, rfl, hv⟩
    · intro h
      obtain ⟨next, hf⟩ := h b a first
      obtain ⟨b', hb'⟩ := ih.2 fun v c hc => h v c (later hf hc)
      exact ⟨b', by rw [List.foldlM_cons, hf]; exact hb'⟩

end

/-- A script that is run, with what it answers. -/
inductive Job where
  | ofAlias (a : Alias) (captures : Captures)
  | ofTrigger (t : Trigger) (captures : Captures) (line : Text)
  | ofKeyBinding (b : KeyBinding)
  | ofContinuation (c : Continuation)
  | ofConfiguration (text : Text)

namespace Job

/-- Runs the script in a world. -/
def run [Lua] [Chance] (w : World) (now : Nanos) : Job → Except Crash Execution
  | ofAlias a captures => @Alias.fire _ w.chance a captures w.engine now
  | ofTrigger t captures _ => @Trigger.fire _ w.chance t captures w.engine now
  | ofKeyBinding b => @KeyBinding.fire _ w.chance b w.engine now
  | ofContinuation c => w.engine.resume c now
  | ofConfiguration text => @Engine.executeRaw _ w.chance w.engine text "config".toList now

/-- The world after the run. A script that waited was started before. -/
def ran (w : World) (x : Execution) : Job → World
  | ofContinuation _ => { w with engine := x.engine }
  | _ => w.ran x

/-- The world in which the effects of a script are carried out. -/
def enter (w : World) (x : Execution) : Job → World
  | ofAlias a _ => { w.ran x with expanding := a.pattern.source :: w.expanding }
  | ofTrigger t captures line =>
    let (shown, column) := World.shownBy t captures line x
    (World.showLine (w.ran x, .empty) shown column).1
  | job => job.ran w x

theorem engine_ran (job : Job) (w : World) (x : Execution) : (job.ran w x).engine = x.engine := by
  cases job <;> rfl

end Job

namespace World

/-- A relation that leads from a world to all that come of it, if the scripts that are run satisfy
`q`. While the action of an alias is carried out its pattern is entered. -/
structure Respects [Lua] [Chance] (q : Job → Prop) (R : World → World → Prop) : Prop where
  refl : ∀ w, R w w
  trans : ∀ {w v u}, R w v → R v u → R w u
  transmit : ∀ w command, R w (w.transmit command)
  display : ∀ w text flags, R w (w.display text flags)
  wait : ∀ w kept, R w { w with pending := w.pending.filter kept }
  reset : ∀ w, R w w.reset
  effect : ∀ {w v send e}, (∀ text, e ≠ Effect.send text) → applyEffect send w e = .ok v → R w v
  run : ∀ {w v now job x}, q job → job.run w now = .ok x →
    R (job.ran w x) v → R w (v.settle x.result)
  enter : ∀ {w v now a captures x}, (Job.ofAlias a captures).run w now = .ok x →
    R ((Job.ofAlias a captures).enter w x) v →
    R w ({ v with expanding := v.expanding.tail }.settle x.result)

section

variable [Lua] [Chance] {q : Job → Prop} {R : World → World → Prop} {w v : World} {now : Nanos}

theorem Respects.comesTo (h : Respects q R) {α : Type} {f : World → α → Except Crash World}
    {as : List α} {a : α} (step : ∀ a ∈ as, ∀ w v, f w a = .ok v → R w v)
    (hv : ComesTo f w as v a) : R w v :=
  hv.keeps (fun a ha _ v hw hf => h.trans hw (step a ha _ v hf)) (h.refl w)

theorem Respects.foldlM (h : Respects q R) {α : Type} {f : World → α → Except Crash World}
    {as : List α} (step : ∀ a ∈ as, ∀ w v, f w a = .ok v → R w v) (hv : as.foldlM f w = .ok v) :
    R w v :=
  foldlM_keeps (p := R w) (fun a ha _ v hw hf => h.trans hw (step a ha _ v hf)) (h.refl w) hv

theorem Respects.applyEffect (h : Respects q R) {send : World → Text → Except Crash World}
    (hsend : ∀ w t v, send w t = .ok v → R w v) {e : Effect}
    (he : applyEffect send w e = .ok v) : R w v := by
  cases e with
  | send text => exact hsend w text v he
  | _ =>
    refine h.effect ?_ he
    simp

theorem Respects.handleCommand (h : Respects q R) {send : World → Text → Except Crash World}
    (hsend : ∀ w t v, send w t = .ok v → R w v) {command : Text}
    (hc : handleCommand send now w command = .ok v) : R w v := by
  unfold World.handleCommand at hc
  split at hc
  · unfold World.expand at hc
    obtain ⟨x, hx, hc⟩ := bind_eq_ok.1 hc
    obtain ⟨after, hafter, hc⟩ := bind_eq_ok.1 hc
    cases hc
    exact h.enter hx (h.foldlM (fun _ _ _ _ => h.applyEffect hsend) hafter)
  · cases hc
    exact h.transmit w command

theorem Respects.send (h : Respects q R) (now : Nanos) (levels : Nat) :
    ∀ w t v, World.send now levels w t = .ok v → R w v := by
  induction levels with
  | zero =>
    intro w t v hv
    cases hv
    exact h.refl w
  | succ levels ih => exact fun w t v => h.foldlM fun _ _ _ _ => h.handleCommand ih

theorem Respects.conclude (h : Respects q R) (job : Job) {x : Execution} (hq : q job)
    (hx : job.run w now = .ok x) (hv : (job.ran w x).conclude x now = .ok v) : R w v := by
  unfold World.conclude at hv
  obtain ⟨done, hd, hv⟩ := bind_eq_ok.1 hv
  cases hv
  rw [← job.engine_ran w x] at hd
  exact h.run hq hx (h.foldlM (fun _ _ _ _ => h.applyEffect (h.send now _)) hd)

theorem Respects.showLine (h : Respects q R) (w : World) (r : Reception) (line : Option Text)
    (column : Option Nat) : R w (showLine (w, r) line column).1 := by
  cases line with
  | none => exact h.refl w
  | some line => exact h.display w line _

omit [Lua] [Chance] in
theorem showLine_engine (w : World) (r : Reception) (line : Option Text) (column : Option Nat) :
    { (World.showLine (w, r) line column).1 with engine := w.engine } =
      (World.showLine (w, r) line column).1 := by
  cases line <;> rfl

theorem Respects.handleLine (h : Respects q R)
    (hq : ∀ t captures line, q (.ofTrigger t captures line)) {a b : World × Reception}
    {line : Text} (hl : handleLine now a line = .ok b) : R a.1 b.1 := by
  obtain ⟨w, r⟩ := a
  unfold World.handleLine at hl
  dsimp only at hl
  split at hl
  · cases hl
    exact h.showLine w r (some line) none
  · rename_i t captures _
    obtain ⟨x, hx, hl⟩ := bind_eq_ok.1 hl
    obtain ⟨done, hd, hl⟩ := bind_eq_ok.1 hl
    cases hl
    obtain ⟨carried, hc, hd⟩ := bind_eq_ok.1 hd
    cases hd
    have shown := h.showLine (w.ran x) r (shownBy t captures line x).1
      (shownBy t captures line x).2
    have same : (w.ran x).engine = x.engine := rfl
    rw [← same, showLine_engine] at hc
    exact h.run (hq t captures line) hx
      (h.trans shown (h.foldlM (fun _ _ _ _ => h.applyEffect (h.send now _)) hc))

theorem Respects.wake (h : Respects q R) {c : Continuation} (hq : q (.ofContinuation c))
    (hv : wake now w c = .ok v) : R w v := by
  obtain ⟨x, hx, hv⟩ := bind_eq_ok.1 hv
  exact h.conclude (.ofContinuation c) hq hx hv

/-- What happens to a world leads to a world that is related to it. -/
theorem Respects.step (h : Respects q R)
    (hq : ∀ job, (∀ c, job = .ofContinuation c → c ∈ w.pending) → q job)
    {s : Step} {answer : Answer} (hs : w.step s = .ok (v, answer)) : R w v := by
  cases s with
  | message text now =>
    obtain ⟨⟨done, r⟩, hd, hs⟩ := bind_eq_ok.1 hs
    cases hs
    have triggers t captures line : q (.ofTrigger t captures line) := hq _ fun _ => nofun
    exact foldlM_keeps (p := fun state : World × Reception => R w state.1)
      (fun _ _ _ _ hw hl => h.trans hw (h.handleLine triggers hl)) (h.refl w) hd
  | input text now =>
    obtain ⟨done, hd, hs⟩ := bind_eq_ok.1 hs
    cases hs
    unfold World.handleInput at hd
    split at hd
    · cases hd
      exact h.transmit w []
    · exact h.send now _ w text v hd
  | key shortcut now =>
    obtain ⟨⟨done, bound⟩, hd, hs⟩ := bind_eq_ok.1 hs
    cases hs
    unfold World.handleKey at hd
    split at hd
    · cases hd
      exact h.refl w
    · rename_i b _
      obtain ⟨x, hx, hd⟩ := bind_eq_ok.1 hd
      obtain ⟨concluded, hc, hd⟩ := bind_eq_ok.1 hd
      cases hd
      exact h.conclude (.ofKeyBinding b) (hq _ fun _ => nofun) hx hc
  | poll now =>
    obtain ⟨⟨done, count⟩, hd, hs⟩ := bind_eq_ok.1 hs
    cases hs
    unfold World.poll at hd
    obtain ⟨woken, hw, hd⟩ := bind_eq_ok.1 hd
    cases hd
    refine h.trans (h.wait w _) (h.foldlM (fun c hc _ _ => h.wake (hq _ fun d hd => ?_)) hw)
    cases hd
    exact (List.mem_filter.1 (List.mem_mergeSort.1 hc)).1
  | load text now =>
    obtain ⟨⟨done, result⟩, hd, hs⟩ := bind_eq_ok.1 hs
    cases hs
    unfold World.loadConfig at hd
    obtain ⟨x, hx, hd⟩ := bind_eq_ok.1 hd
    obtain ⟨concluded, hc, hd⟩ := bind_eq_ok.1 hd
    cases hd
    exact h.conclude (.ofConfiguration text) (hq _ fun _ => nofun) hx hc
  | reset =>
    cases hs
    exact h.reset w

end

/-- What is called in a world; `levels` more aliases may be entered in it. -/
inductive Call where
  | send (levels : Nat) (w : World) (text : Text)
  | script (levels : Nat) (w : World) (job : Job)

/-- A call makes another one. -/
inductive Calls [Lua] [Chance] (now : Nanos) : Call → Call → Prop
  | answer {levels : Nat} {w v : World} {text command : Text} {a : Alias} {captures : Captures} :
      ComesTo (handleCommand (World.send now levels) now) w
        (splitCommands w.settings.commandStacking text) v command →
      v.aliases.answer? command v.expanding = some (a, captures) →
      Calls now (.send (levels + 1) w text) (.script levels v (.ofAlias a captures))
  | effect {levels : Nat} {w v : World} {job : Job} {x : Execution} {text : Text} :
      job.run w now = .ok x →
      ComesTo (applyEffect (World.send now levels)) (job.enter w x) x.effects v (.send text) →
      Calls now (.script levels w job) (.send levels v text)

/-- How many levels are left when a call is made; a script is run between two levels. -/
def Call.left : Call → Nat
  | .send levels .. => 2 * levels
  | .script levels .. => 2 * levels + 1

theorem left_lt_of_calls [Lua] [Chance] {now : Nanos} {c d : Call} (h : Calls now c d) :
    d.left < c.left := by
  cases h with
  | answer => simp only [Call.left]; omega
  | effect => exact Nat.lt_succ_self _

/-- What happens to a world begins with a call. -/
inductive Begins [Lua] [Chance] (w : World) : Step → Call → Prop
  | input {text : Text} {now : Nanos} : Text.isAllBlank text = false →
      Begins w (.input text now) (.send (maxDepth + 1) w text)
  | message {text line : Text} {now : Nanos} {v : World} {r : Reception} {t : Trigger}
      {captures : Captures} : ComesTo (handleLine now) (w, .empty) (Text.lines text) (v, r) line →
      v.triggers.best? line = some (t, captures) →
      Begins w (.message text now) (.script (maxDepth + 1) v (.ofTrigger t captures line))
  | key {shortcut : Shortcut} {now : Nanos} {b : KeyBinding} :
      w.keyBindings.find? shortcut = some b →
      Begins w (.key shortcut now) (.script (maxDepth + 1) w (.ofKeyBinding b))
  | poll {now : Nanos} {v : World} {c : Continuation} :
      ComesTo (wake now) { w with pending := w.pending.filter fun c => !(c.due ≤ now) }
        (dueAt now w.pending) v c →
      Begins w (.poll now) (.script (maxDepth + 1) v (.ofContinuation c))
  | load {text : Text} {now : Nanos} :
      Begins w (.load text now) (.script (maxDepth + 1) w (.ofConfiguration text))

/-- The time at which something happens; a reset takes none. -/
def Step.time : Step → Nanos
  | message _ now | input _ now | key _ now | poll now | load _ now => now
  | reset => 0

/-- A call is made in the course of what happens. -/
def Makes [Lua] [Chance] (w : World) (s : Step) (c : Call) : Prop :=
  ∃ first, Begins w s first ∧ Relation.ReflTransGen (Calls s.time) first c

end World
end MudClient
