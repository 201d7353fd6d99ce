import MudClient.Engine
import MudClient.Proofs.Script.Declaration
import MudClient.Proofs.Script.Progress
/-! Rules for what is declared. A rule says which texts may be told apart by and which may be run; if
the calls of a program keep to it, so does everything that the program declares. -/
namespace MudClient

open Script

variable {α β ε : Type}

theorem bind_eq_ok {x : Except ε α} {f : α → Except ε β} {b : β} :
    x >>= f = .ok b ↔ ∃ a, x = .ok a ∧ f a = .ok b := by
  cases x <;> simp [bind, Except.bind]

theorem toOption_eq_some {x : Except ε α} {a : α} : x.toOption = some a ↔ x = .ok a := by
  cases x <;> simp [Except.toOption]

theorem foldlM_keeps {p : β → Prop} {f : β → α → Except ε β} {as : List α}
    (step : ∀ a ∈ as, ∀ b b', p b → f b a = .ok b' → p b') {b b' : β} (hb : p b)
    (h : as.foldlM f b = .ok b') : p b' := by
  induction as generalizing b with
  | nil =>
    cases h
    exact hb
  | cons a as ih =>
    rw [List.foldlM_cons] at h
    obtain ⟨next, hf, h⟩ := bind_eq_ok.1 h
    exact ih (fun c hc => step c (List.mem_cons_of_mem _ hc)) (step a List.mem_cons_self b next hb hf) h

/-- Which texts may tell an item apart, and which may be its other texts. -/
structure Rule where
  subject : Text → Prop
  action : Text → Prop

namespace Rule

variable (l : Rule)

def AllowsTexts (texts : List Text) : Prop :=
  (∀ s ∈ texts.head?, l.subject s) ∧ ∀ a ∈ texts.tail, l.action a

def Allows : Item → Prop
  | .ofChannel name => l.subject name
  | .ofAlias a => l.subject a.pattern.source ∧ l.action a.action
  | .ofTrigger t => l.subject t.pattern.source ∧ l.action t.action ∧
      ∀ s ∈ t.substitution, l.action s ∧ s ≠ []
  | .ofKeyBinding b => (∃ t, l.subject t ∧ Shortcut.parse? t = some b.shortcut) ∧ l.action b.action

def AllowsEffects (effects : List Effect) : Prop := ∀ i : Item, i.effect ∈ effects → l.Allows i

/-- The texts with which an instruction declares something. -/
def AllowsInstruction : Instruction → Prop
  | .call function values _ => ∀ f, Registry.builtins.find? function = some f →
      f.substitutes = false → ∀ locals, l.AllowsTexts (values.map (Value.resolve locals))
  | _ => True

def AllowsProgram (p : Program) : Prop := ∀ i ∈ p, l.AllowsInstruction i

/-- Whatever may be an action declares only what is allowed, whatever is drawn. -/
def IsClosed : Prop := ∀ (_ : Chance) (source : Text), l.action source → ∀ vars p,
  (compile .builtins vars source).Gives p → l.AllowsProgram p

variable {l}

theorem allows_of_isOf {i : Item} {texts : List Text} {flags : Flags} (h : i.IsOf texts flags)
    (ht : l.AllowsTexts texts) : l.Allows i := by
  obtain ⟨hs, ha⟩ := ht
  cases i with
  | ofChannel name =>
    obtain ⟨more, rfl⟩ := h
    exact hs _ rfl
  | ofAlias a =>
    obtain ⟨more, rfl⟩ := h
    exact ⟨hs _ rfl, ha _ List.mem_cons_self⟩
  | ofTrigger t =>
    obtain ⟨more, rfl, hsub, -⟩ := h
    refine ⟨hs _ rfl, ha _ List.mem_cons_self, fun s hm => ?_⟩
    have hm' : t.substitution = some s := hm
    obtain ⟨hh, hne⟩ := Option.filter_eq_some_iff.1 (hsub.trans hm')
    exact ⟨ha _ (List.mem_cons_of_mem _ (List.mem_of_mem_head? hh)), by simpa using hne⟩
  | ofKeyBinding b =>
    obtain ⟨text, more, rfl, hp⟩ := h
    exact ⟨⟨text, hs _ rfl, hp⟩, ha _ List.mem_cons_self⟩

theorem effect_not_mem_block (i : Item) (locals : Locals) (out : Lua.Block.Output) :
    i.effect ∉ (Block.reply locals out).effects := by
  have none : i.effect ∉ Block.effects out := by
    cases i <;> simp [Block.effects, Item.effect]
  unfold Block.reply
  split <;> exact none

variable [Lua]

theorem allowsEffects_of_run {locals : Locals} {i : Instruction} {reply : Reply}
    (hi : l.AllowsInstruction i) (h : i.run .builtins locals = .ok reply) :
    l.AllowsEffects reply.effects := by
  cases i with
  | pause delay =>
    cases h
    simp [AllowsEffects, Reply.ofFlow]
  | block source =>
    obtain ⟨out, -, rfl⟩ := Block.run_eq_ok.1 h
    exact fun i hm => absurd hm (effect_not_mem_block i locals out)
  | call function values flags =>
    simp only [Instruction.run] at h
    split at h
    · cases h
      simp [AllowsEffects, Reply.ofError]
    · rename_i f hf
      cases hs : f.substitutes with
      | true => exact fun i hm => absurd hm (Builtin.effect_not_mem_of_substitutes hs h i)
      | false =>
        rcases Builtin.run_declares hs h with ⟨e, rfl⟩ | ⟨j, -, hj, rfl⟩
        · simp [AllowsEffects, Reply.ofError]
        · intro i hm
          rw [Item.effect_injective (List.mem_singleton.1 hm)]
          exact allows_of_isOf hj (hi f hf hs locals)

/-- A program that keeps to the rule does so up to its pause and behind it. -/
theorem allowsProgram_of_run {p : Program} {locals : Locals} {s : Segment} (hp : l.AllowsProgram p)
    (h : p.run .builtins locals = .ok s) : l.AllowsEffects s.effects ∧
      ∀ delay rest, s.ending = .paused delay rest → l.AllowsProgram rest := by
  induction p generalizing locals s with
  | nil =>
    cases h
    exact ⟨by simp [AllowsEffects], by simp⟩
  | cons i more ih =>
    obtain ⟨hi, hmore⟩ := List.forall_mem_cons.1 hp
    rw [Program.run] at h
    obtain ⟨reply, hr, h⟩ := bind_eq_ok.1 h
    have own := allowsEffects_of_run hi hr
    rcases hf : reply.flow with error | _ | _ | delay <;> rw [hf] at h <;> dsimp only at h
    case error | ok.stop =>
      cases h
      exact ⟨own, fun _ _ hp => nomatch hp⟩
    case ok.next =>
      obtain ⟨later, hl, h⟩ := bind_eq_ok.1 h
      cases h
      obtain ⟨heff, hend⟩ := ih hmore hl
      refine ⟨fun j hj => ?_, hend⟩
      rcases List.mem_append.1 hj with hj | hj
      · exact own j hj
      · exact heff j hj
    case ok.pause =>
      cases h
      refine ⟨own, fun d rest he => ?_⟩
      cases he
      exact hmore

structure AllowsExecution (l : Rule) (x : Execution) : Prop where
  registry : x.engine.registry = .builtins
  effects : l.AllowsEffects x.effects
  waiting : ∀ c, x.result = .ok (.suspended c) → l.AllowsProgram c.rest

variable {e : Engine} {p : Program} {locals : Locals} {label : Text} {now : Nanos} {x : Execution}

theorem allowsExecution_of_drive (he : e.registry = .builtins) (hp : l.AllowsProgram p)
    (h : e.drive p locals label now = .ok x) : l.AllowsExecution x := by
  unfold Engine.drive at h
  obtain ⟨s, hs, h⟩ := bind_eq_ok.1 h
  rw [he] at hs
  obtain ⟨heff, hend⟩ := allowsProgram_of_run hp hs
  dsimp only at h
  split at h
  case h_4 delay rest hending =>
    obtain ⟨due, -, h⟩ := bind_eq_ok.1 h
    cases h
    refine ⟨he, heff, fun c hc => ?_⟩
    cases hc
    exact hend delay rest hending
  all_goals
    cases h
    exact ⟨he, heff, fun _ hc => nomatch hc⟩

theorem allowsExecution_of_start {compiled : Attempt Program} (he : e.registry = .builtins)
    (hp : ∀ p, compiled.Gives p → l.AllowsProgram p) (h : e.start compiled label now = .ok x) :
    l.AllowsExecution x := by
  unfold Engine.start at h
  obtain ⟨r, hr, h⟩ := bind_eq_ok.1 h
  cases r with
  | error error =>
    cases h
    exact ⟨he, by simp [AllowsEffects], by simp⟩
  | ok p => exact allowsExecution_of_drive he (hp p hr) h

theorem allowsExecution_of_execute {_ : Chance} (hl : l.IsClosed) {source : Text} {captures : Option Captures}
    (he : e.registry = .builtins) (hs : l.action source)
    (h : e.execute source captures label now = .ok x) : l.AllowsExecution x := by
  unfold Engine.execute at h
  have registry : (captures.elim e e.applyCaptures).registry = .builtins := by
    cases captures <;> exact he
  dsimp only at h
  rw [registry] at h
  exact allowsExecution_of_start registry (hl _ source hs _) h

theorem allowsExecution_of_resume {c : Continuation} (he : e.registry = .builtins)
    (hc : l.AllowsProgram c.rest) (h : e.resume c now = .ok x) : l.AllowsExecution x := by
  unfold Engine.resume at h
  split at h
  · exact allowsExecution_of_drive he hc h
  · cases h
    exact ⟨he, by simp [AllowsEffects], by simp⟩

end Rule
end MudClient
