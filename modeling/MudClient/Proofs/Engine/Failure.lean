import MudClient.Proofs.Engine.Return
/-! How a script fails. Either it does not compile, and then nothing of it was done, or one of its
instructions fails, and then everything before that instruction was done. The error tells which of
the two it was. -/
namespace MudClient

open Script (Locals Registry Program Statement Instruction Effect Change Builtin Chance Nanos)

namespace Attempt

variable {α β : Type}

/-- The computation is refused with an error. -/
def Refuses (x : Attempt α) (error : ScriptError) : Prop := x.run = .ok (.error error)

theorem refuses_bind {x : Attempt α} {f : α → Attempt β} {error : ScriptError} :
    (x >>= f).Refuses error ↔ x.Refuses error ∨ ∃ a, x.Gives a ∧ (f a).Refuses error := by
  unfold Refuses
  rw [run_bind_eq_ok]
  simp

theorem not_refuses_pure (a : α) (error : ScriptError) : ¬ Refuses (pure a : Attempt α) error :=
  fun h => nomatch h

theorem refuses_mk {r : Except ScriptError α} {error : ScriptError} :
    Refuses (ExceptT.mk (.ok r)) error ↔ r = .error error := by
  simp [Refuses, ExceptT.run_mk]

theorem not_refuses_lift (x : Except Crash α) (error : ScriptError) :
    ¬ Refuses (ExceptT.lift x) error := by
  cases x <;> simp [Refuses, ExceptT.run_lift, Functor.map, Except.map]

/-- A list is refused for one of its elements. -/
theorem exists_refuses_of_mapM {f : α → Attempt β} {as : List α} {error : ScriptError}
    (h : (as.mapM f).Refuses error) : ∃ a ∈ as, (f a).Refuses error := by
  induction as with
  | nil => exact absurd h (not_refuses_pure _ _)
  | cons a as ih =>
    rw [List.mapM_cons] at h
    rcases refuses_bind.1 h with h | ⟨b, -, h⟩
    · exact ⟨a, List.mem_cons_self, h⟩
    · rcases refuses_bind.1 h with h | ⟨bs, -, h⟩
      · obtain ⟨c, hc, h⟩ := ih h
        exact ⟨c, List.mem_cons_of_mem a hc, h⟩
      · exact absurd h (not_refuses_pure _ _)

end Attempt

namespace Script

variable {registry : Registry} {vars : Option Locals} {locals : Locals} {source : Text}
  {error : ScriptError}

theorem isParseFailure_of_split {t : Text} (h : split t = .error error) : error.isParseFailure := by
  unfold split at h
  cases hs : statements t with
  | error left =>
    rw [hs] at h
    cases h
    rfl
  | ok ss =>
    rw [hs] at h
    cases h

theorem Statement.isParseFailure_of_compileCall [Chance] {s : Statement} {f : Builtin}
    {table : Option Locals} (h : (s.compileCall f table).Refuses error) :
    error.isParseFailure := by
  rcases Attempt.refuses_bind.1 h with h | ⟨u, -, h⟩
  · rw [Attempt.refuses_mk, Builtin.validate] at h
    split at h
    · cases h
    · cases h
      rfl
  · split at h
    · exact absurd h (Attempt.not_refuses_lift _ _)
    · exact absurd h (Attempt.not_refuses_pure _ _)

theorem Statement.isParseFailure_of_compile {_ : Chance} {s : Statement}
    (h : (s.compile registry vars).Refuses error) : error.isParseFailure := by
  unfold Statement.compile at h
  split at h
  · exact absurd h (Attempt.not_refuses_pure _ _)
  · split at h
    · cases h
      rfl
    · exact Statement.isParseFailure_of_compileCall h

/-- A source is refused only with errors that say so. -/
theorem isParseFailure_of_compile {_ : Chance} (h : (compile registry vars source).Refuses error) :
    error.isParseFailure := by
  rcases Attempt.refuses_bind.1 h with h | ⟨ss, -, h⟩
  · exact isParseFailure_of_split (Attempt.refuses_mk.1 h)
  · obtain ⟨s, -, h⟩ := Attempt.exists_refuses_of_mapM h
    exact Statement.isParseFailure_of_compile h

theorem isParseFailure_of_declare {α : Type} {effect : α → Effect} {item : Except ScriptError α}
    (hi : ∀ e : ScriptError, item = .error e → e.isParseFailure = false)
    (h : (Reply.declare effect item).flow = .error error) :
    Reply.declare effect item = .ofError error ∧ error.isParseFailure = false := by
  cases item with
  | ok a => cases h
  | error e =>
    cases h
    exact ⟨rfl, hi _ rfl⟩

theorem isParseFailure_of_ofSource {t : Text} (h : Pattern.ofSource t = .error error) :
    error.isParseFailure = false := by
  unfold Pattern.ofSource at h
  split at h <;> cases h
  rfl

/-- A function that fails has done nothing else, and its error is none of compiling. -/
theorem Builtin.eq_ofError_of_run {f : Builtin} {args : List Text} {flags : Flags} {reply : Reply}
    (h : f.run locals args flags = .ok reply) (he : reply.flow = .error error) :
    reply = .ofError error ∧ error.isParseFailure = false := by
  have pattern {α : Type} {g : Pattern → α} {t : Text} (e : ScriptError)
      (he : (Pattern.ofSource t).map g = .error e) : e.isParseFailure = false := by
    cases hp : Pattern.ofSource t with
    | ok p =>
      rw [hp] at he
      cases he
    | error e' =>
      rw [hp] at he
      cases he
      exact isParseFailure_of_ofSource hp
  cases f with
  | send | say | display | pause =>
    cases h
    cases he
  | play | feed | declareChannel | writeVar | delVar =>
    cases args with
    | nil => cases h
    | cons a more =>
      cases h
      cases he
  | checkVar =>
    cases args with
    | nil => cases h
    | cons a more =>
      cases h
      unfold check at he
      split at he <;> cases he
  | declareAlias | declareTrigger =>
    match args, h with
    | _ :: _ :: _, h =>
      cases h
      exact isParseFailure_of_declare pattern he
  | declareKeyBinding =>
    cases args with
    | nil => cases h
    | cons text more =>
      simp only [run] at h
      split at h
      · rename_i e hs
        cases h
        cases he
        refine ⟨rfl, ?_⟩
        unfold Shortcut.ofText at hs
        split at hs <;> cases hs
        rfl
      · cases h
        cases he
      · cases h

variable [Lua]

/-- What an instruction of a compiled program leaves behind when it fails. Only a block may have
asked for something before. -/
theorem Instruction.failed_of_run {i : Instruction} {reply : Reply} (hr : i.InRange registry)
    (h : i.run registry locals = .ok reply) (he : reply.flow = .error error) :
    reply.changes = [] ∧ error.isParseFailure = false ∧
      (reply.effects = [] ∨ ∃ code, i = .block code) := by
  cases i with
  | pause delay =>
    cases h
    cases he
  | block code =>
    obtain ⟨out, -, rfl⟩ := Block.run_eq_ok.1 h
    unfold Block.reply at he ⊢
    split at he
    · cases he
    · cases he
      simp [ScriptError.isParseFailure]
  | call function arguments flags =>
    obtain ⟨f, hf, -⟩ := hr
    simp only [run, hf] at h
    obtain ⟨rfl, hp⟩ := Builtin.eq_ofError_of_run h he
    exact ⟨rfl, hp, .inl rfl⟩

/-- The instructions before `i` are carried out, as the segment `s`, and then `i` fails. It changes
nothing, and only a block may have asked for something before it failed. -/
structure FailsAt (registry : Registry) (locals : Locals) (before : Program) (i : Instruction)
    (s : Segment) (own : List Effect) (error : ScriptError) : Prop where
  run : before.run registry locals = .ok s
  finished : s.ending = .finished
  failing : i.run registry s.locals = .ok ⟨own, [], .error error⟩
  own : own = [] ∨ ∃ code, i = .block code

theorem failsAt_nil {i : Instruction} {reply : Reply} (hr : i.InRange registry)
    (h : i.run registry locals = .ok reply) (he : reply.flow = .error error) :
    FailsAt registry locals [] i ⟨[], [], locals, .finished⟩ reply.effects error ∧
      reply.changes = [] := by
  obtain ⟨hc, -, hown⟩ := Instruction.failed_of_run hr h he
  obtain ⟨own, changes, flow⟩ := reply
  cases hc
  cases he
  exact ⟨⟨rfl, rfl, h, hown⟩, rfl⟩

theorem FailsAt.cons {before : Program} {i j : Instruction} {s : Segment} {own : List Effect}
    {reply : Reply} (hj : j.run registry locals = .ok reply) (hn : reply.flow = .ok .next)
    (h : FailsAt registry (locals.applyChanges reply.changes) before i s own error) :
    FailsAt registry locals (j :: before) i (s.after reply) own error := by
  refine ⟨?_, h.finished, h.failing, h.own⟩
  rw [Program.run, hj]
  simp only [bind, Except.bind, hn, h.run]
  rfl

/-- A run that fails has carried out all instructions before one that fails. -/
theorem Program.exists_failsAt {p : Program} {s : Segment} (hr : ∀ i ∈ p, i.InRange registry)
    (h : p.run registry locals = .ok s) (he : s.ending = .failed error) :
    error.isParseFailure = false ∧ ∃ before i after t own, p = before ++ i :: after ∧
      FailsAt registry locals before i t own error ∧
      s.effects = t.effects ++ own ∧ s.changes = t.changes := by
  induction p generalizing locals s with
  | nil =>
    cases h
    cases he
  | cons i rest ih =>
    obtain ⟨hi, hrest⟩ := List.forall_mem_cons.1 hr
    rw [Program.run] at h
    obtain ⟨reply, hrun, h⟩ := bind_eq_ok.1 h
    rcases hf : reply.flow with e | _ | _ | delay <;> rw [hf] at h <;> dsimp only at h
    case error =>
      cases h
      cases he
      obtain ⟨fails, hc⟩ := failsAt_nil hi hrun hf
      exact ⟨(Instruction.failed_of_run hi hrun hf).2.1, [], i, rest, _, _, rfl, fails, rfl, hc⟩
    case ok.next =>
      obtain ⟨later, hl, h⟩ := bind_eq_ok.1 h
      cases h
      obtain ⟨hp, before, j, after, t, own, rfl, fails, heff, hch⟩ := ih hrest hl he
      refine ⟨hp, i :: before, j, after, t.after reply, own, rfl, fails.cons hrun hf, ?_, ?_⟩
      · simp [Segment.after, heff]
      · simp [Segment.after, hch]
    case ok.stop | ok.pause =>
      cases h
      cases he

end Script

namespace Engine

variable [Lua] [Chance]

/-- How the run of a source on an engine may fail. -/
structure FailsSoundly (e : Engine) (vars : Option Locals) (source : Text)
    (run : Except Crash Execution) : Prop where
  /-- The error tells whether the source was refused. -/
  isParseFailure_iff : (∃ x error, run = .ok x ∧ x.result = .error error ∧ error.isParseFailure) ↔
    ∃ error, (Script.compile e.registry vars source).Refuses error
  /-- Nothing is done of what was refused. -/
  refused : ∀ error, (Script.compile e.registry vars source).Refuses error →
    run = .ok ⟨e, [], .error error⟩
  /-- Any other error is that of an instruction, and what came before the instruction stays. -/
  failed : ∀ x error, run = .ok x → x.result = .error error → ¬ error.isParseFailure →
    ∃ before i after s own, (Script.compile e.registry vars source).Gives (before ++ i :: after) ∧
      Script.FailsAt e.registry e.locals before i s own error ∧
      x = ⟨e.merge s.changes, s.effects ++ own, .error error⟩

variable {e : Engine} {vars : Option Locals} {source label : Text} {now : Nanos} {x : Execution}
  {error : ScriptError}

omit [Chance] in
/-- A program that was compiled fails at one of its instructions. -/
theorem exists_failsAt_of_drive {p : Program} {locals : Locals}
    (hr : ∀ i ∈ p, i.InRange e.registry) (h : e.drive p locals label now = .ok x)
    (he : x.result = .error error) : error.isParseFailure = false ∧
      ∃ before i after s own, p = before ++ i :: after ∧
        Script.FailsAt e.registry locals before i s own error ∧
        x = ⟨e.merge s.changes, s.effects ++ own, .error error⟩ := by
  unfold drive at h
  obtain ⟨s, hs, h⟩ := bind_eq_ok.1 h
  dsimp only at h
  split at h
  case h_3 failure hending =>
    cases h
    cases he
    obtain ⟨hp, before, i, after, t, own, rfl, fails, heff, hch⟩ :=
      Script.Program.exists_failsAt hr hs hending
    exact ⟨hp, before, i, after, t, own, rfl, fails, by rw [heff, hch]⟩
  case h_4 delay rest hending =>
    obtain ⟨due, -, h⟩ := bind_eq_ok.1 h
    cases h
    cases he
  all_goals
    cases h
    cases he

omit [Chance] in
/-- An error that was not one of compiling comes from the program. -/
theorem start_eq_error {compiled : Attempt Program} (h : e.start compiled label now = .ok x)
    (he : x.result = .error error) : compiled.Refuses error ∨
      ∃ p, compiled.Gives p ∧ e.drive p e.locals label now = .ok x := by
  unfold start at h
  obtain ⟨r, hr, h⟩ := bind_eq_ok.1 h
  cases r with
  | error refusal =>
    cases h
    cases he
    exact .inl hr
  | ok p => exact .inr ⟨p, hr, h⟩

omit [Chance] in
theorem start_of_refuses {compiled : Attempt Program} (h : compiled.Refuses error) :
    e.start compiled label now = .ok ⟨e, [], .error error⟩ := by
  rw [start, show compiled.run = _ from h]
  rfl

theorem failsSoundly_start (e : Engine) (vars : Option Locals) (source label : Text) (now : Nanos) :
    e.FailsSoundly vars source (e.start (Script.compile e.registry vars source) label now) := by
  refine ⟨⟨?_, fun ⟨error, h⟩ => ?_⟩, fun error h => start_of_refuses h, fun x error h he hp => ?_⟩
  · rintro ⟨x, error, h, he, hp⟩
    rcases start_eq_error h he with hc | ⟨p, hc, hd⟩
    · exact ⟨error, hc⟩
    · have := (exists_failsAt_of_drive (Script.inRange_of_compile hc) hd he).1
      simp [hp] at this
  · exact ⟨_, error, start_of_refuses h, rfl, Script.isParseFailure_of_compile h⟩
  · rcases start_eq_error h he with hc | ⟨p, hc, hd⟩
    · exact absurd (Script.isParseFailure_of_compile hc) hp
    · obtain ⟨-, before, i, after, s, own, rfl, fails, hx⟩ :=
        exists_failsAt_of_drive (Script.inRange_of_compile hc) hd he
      exact ⟨before, i, after, s, own, hc, fails, hx⟩

/-- Scripts fail soundly. With substitution the engine is the one that has the captures of the match
in its table, and nothing else of it differs; without, it is the engine as it was. -/
theorem failsSoundly_execute (e : Engine) (source label : Text) (captures : Option Captures)
    (now : Nanos) :
    (captures.elim e e.applyCaptures).FailsSoundly
      (some (captures.elim e e.applyCaptures).locals) source
      (e.execute source captures label now) ∧
    e.FailsSoundly none source (e.executeRaw source label now) :=
  ⟨failsSoundly_start _ _ source label now, failsSoundly_start e none source label now⟩

end Engine
end MudClient
