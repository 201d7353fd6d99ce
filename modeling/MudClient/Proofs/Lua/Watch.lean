import MudClient.Proofs.Lua.Client
import MudClient.Proofs.Lua.Relation
import MudClient.Surroundings
/-! Runs of the interpreter under watch. A watched run also lists what happens to the tables: the
steps of the program, and the calls of the functions of `mud`. Watching a run does not change it, and
the list leads from the tables before the run to the tables after it. -/
namespace MudClient.Lua

/-- What became of a call. One that failed is a step like any other. -/
def Event.ofCall (f : Native) (args : List Value) (before after : Heap) :
    Except Failure (List Value) → Event
  | .ok _ =>
    match f with
    | .client g => .call g args before.tables after.tables
    | _ => .step before.tables after.tables
  | .error _ => .step before.tables after.tables

abbrev Watched := ExceptT Failure (StateM (Heap × List Event))

instance : Machine Watched where
  perform x := fun (h, log) =>
    let (result, h') := x.run.run h
    (result, h', log ++ [.step h.tables h'.tables])
  native f args := fun (h, log) =>
    let (result, h') := (Library.run f args).run.run h
    (result, h', log ++ [.ofCall f args h h' result])

/-! ### Runs -/

theorem run_bind {σ α β : Type} (x : ExceptT Failure (StateM σ) α)
    (f : α → ExceptT Failure (StateM σ) β) (s : σ) : (x >>= f).run.run s =
      match x.run.run s with
      | (.ok a, s') => (f a).run.run s'
      | (.error e, s') => (.error e, s') := by
  simp only [ExceptT.run_bind, StateT.run_bind]
  rcases x.run.run s with ⟨_ | _, _⟩ <;> rfl

theorem run_bind_eq_ok {σ α β : Type} {x : ExceptT Failure (StateM σ) α}
    {f : α → ExceptT Failure (StateM σ) β} {s s'' : σ} {b : β} :
    (x >>= f).run.run s = (.ok b, s'') ↔
      ∃ a s', x.run.run s = (.ok a, s') ∧ (f a).run.run s' = (.ok b, s'') := by
  rw [run_bind]
  rcases x.run.run s with ⟨_ | a, s'⟩
  · exact ⟨fun h => (by cases h), fun ⟨_, _, h, _⟩ => by cases h⟩
  · exact ⟨fun h => ⟨a, s', rfl, h⟩, fun ⟨_, _, hx, h⟩ => by cases hx; exact h⟩

theorem run_tryCatch {σ α : Type} (x : ExceptT Failure (StateM σ) α)
    (f : Failure → ExceptT Failure (StateM σ) α) (s : σ) :
    (MonadExcept.tryCatch x f : ExceptT Failure (StateM σ) α).run.run s =
      match x.run.run s with
      | (.ok a, s') => (.ok a, s')
      | (.error e, s') => (f e).run.run s' := by
  simp only [ExceptT.run_tryCatch, StateT.run_bind]
  rcases x.run.run s with ⟨_ | _, _⟩ <;> rfl

/-! ### Native functions -/

/-- A call of the client that came back put what it was given into the tables. -/
theorem call_of_callClient {f : ClientFunction} {a : Library.Args} {h h' : Heap}
    {values : List Value} (run : (Library.callClient f a).run.run h = (.ok values, h')) :
    Block.call f a.values h.tables = .ok h'.tables := by
  obtain ⟨_, _, got, run⟩ := run_bind_eq_ok.1 run
  cases got
  cases put : Block.call f a.values h.tables with
  | ok tables =>
    rw [put] at run
    cases run
    rfl
  | error refusal =>
    rw [put] at run
    cases refusal <;> cases run

theorem Leads.ofCall {f : Native} {args : List Value} {h h' : Heap}
    {result : Except Failure (List Value)} (run : (Library.run f args).run.run h = (result, h')) :
    Leads h.tables [.ofCall f args h h' result] h'.tables := by
  cases result with
  | error e => exact .step (.nil _)
  | ok values =>
    cases f with
    | client g => exact .call (call_of_callClient run) (.nil _)
    | _ => exact .step (.nil _)

/-- The watched run does what the run does, and lists it. -/
def Follows {α : Type} (w : Watched α) (x : Run α) : Prop :=
  ∀ h log, ∃ events, Leads h.tables events (x.run.run h).2.tables ∧
    w.run.run (h, log) = ((x.run.run h).1, (x.run.run h).2, log ++ events)

namespace Follows

variable {α β : Type} {w : Watched α} {x : Run α}

theorem pure (a : α) : Follows (Pure.pure a) (Pure.pure a) := fun h log =>
  ⟨[], .nil _, by rw [List.append_nil]; rfl⟩

theorem throw (e : Failure) : Follows (throw e : Watched α) (throw e) := fun h log =>
  ⟨[], .nil _, by rw [List.append_nil]; rfl⟩

theorem bind {f : α → Watched β} {g : α → Run β} (hx : Follows w x)
    (hf : ∀ a, Follows (f a) (g a)) : Follows (w >>= f) (x >>= g) := by
  intro h log
  obtain ⟨first, leads, run⟩ := hx h log
  simp only [run_bind, run]
  rcases hr : x.run.run h with ⟨e | a, h'⟩
  · rw [hr] at leads
    exact ⟨first, leads, rfl⟩
  · rw [hr] at leads
    obtain ⟨more, leads', run'⟩ := hf a h' (log ++ first)
    exact ⟨first ++ more, leads.append leads', by rw [← List.append_assoc]; exact run'⟩

theorem tryCatch {f : Failure → Watched α} {g : Failure → Run α} (hx : Follows w x)
    (hf : ∀ e, Follows (f e) (g e)) :
    Follows (MonadExcept.tryCatch w f) (MonadExcept.tryCatch x g) := by
  intro h log
  obtain ⟨first, leads, run⟩ := hx h log
  simp only [run_tryCatch, run]
  rcases hr : x.run.run h with ⟨e | a, h'⟩
  · rw [hr] at leads
    obtain ⟨more, leads', run'⟩ := hf e h' (log ++ first)
    exact ⟨first ++ more, leads.append leads', by rw [← List.append_assoc]; exact run'⟩
  · rw [hr] at leads
    exact ⟨first, leads, rfl⟩

theorem perform (x : Run α) : Follows (Machine.perform x) (Machine.perform x) := fun _ _ =>
  ⟨_, .step (.nil _), rfl⟩

theorem native (f : Native) (args : List Value) :
    Follows (Machine.native f args) (Machine.native f args) := fun _ _ =>
  ⟨_, .ofCall rfl, rfl⟩

end Follows

def watching : Machine.Relation Watched Run where
  Rel := Follows
  pure := .pure
  bind := .bind
  throw := .throw
  tryCatch := .tryCatch
  perform := .perform
  native := .native

/-! ### Blocks -/

/-- What happens while a block runs. The first step opens the libraries. -/
def events (source : Text) (start : Tables) : List Event :=
  ((chunk? source).map fun body => .step start (Library.openOn start).tables ::
    ((runChunk body : Watched Unit).run.run (Library.openOn start, [])).2.2).getD []

theorem leads_events {source : Text} {start after : Tables}
    (ended : interpreter.exec source start = .finished after) :
    Leads start (events source start) after := by
  rw [events]
  cases hc : chunk? source with
  | none => simp [exec, hc] at ended
  | some body =>
    obtain ⟨happened, leads, run⟩ := watching.runChunk body (Library.openOn start) []
    simp only [exec, hc, Option.map_some, Option.getD_some, run, List.nil_append]
      at ended ⊢
    rcases hr : (runChunk body : Run Unit).run.run (Library.openOn start) with ⟨e | _, h⟩
    · cases e <;> simp [hr] at ended
    · simp only [hr, Ending.finished.injEq] at ended leads
      exact .step (ended ▸ leads)

end MudClient.Lua
