import MudClient.Lua.Eval
/-! Programs on two machines. What two machines have in common as long as a run takes single steps,
they have in common for whole programs, because evaluation does nothing with a machine but put its
steps together. -/
namespace MudClient.Lua

/-- A relation between the computations of two machines that steps bear and that goes through when
computations are put together. -/
structure Machine.Relation (m n : Type → Type) [Machine m] [Machine n] where
  Rel {α : Type} : m α → n α → Prop
  pure {α : Type} (a : α) : Rel (Pure.pure a) (Pure.pure a)
  bind {α β : Type} {x : m α} {y : n α} {f : α → m β} {g : α → n β} :
    Rel x y → (∀ a, Rel (f a) (g a)) → Rel (x >>= f) (y >>= g)
  throw {α : Type} (e : Failure) : Rel (throw e : m α) (throw e)
  tryCatch {α : Type} {x : m α} {y : n α} {f : Failure → m α} {g : Failure → n α} :
    Rel x y → (∀ e, Rel (f e) (g e)) → Rel (MonadExcept.tryCatch x f) (MonadExcept.tryCatch y g)
  perform {α : Type} (x : Run α) : Rel (Machine.perform x) (Machine.perform x)
  native (f : Native) (args : List Value) : Rel (Machine.native f args) (Machine.native f args)

namespace Machine.Relation

variable {m n : Type → Type} [Machine m] [Machine n]

/-- The relation holds between evaluations that may take so many steps in a row. -/
structure Evaluates (R : Relation m n) (fuel : Nat) : Prop where
  expr : ∀ env e, R.Rel (Eval.expr env fuel e) (Eval.expr env fuel e)
  values : ∀ env e, R.Rel (Eval.values env fuel e) (Eval.values env fuel e)
  valueList : ∀ env es, R.Rel (Eval.valueList env fuel es) (Eval.valueList env fuel es)
  fields : ∀ env t i fs, R.Rel (Eval.fields env fuel t i fs) (Eval.fields env fuel t i fs)
  call : ∀ line name f args,
    R.Rel (Eval.call fuel line name f args) (Eval.call fuel line name f args)
  place : ∀ env e, R.Rel (Eval.place env fuel e) (Eval.place env fuel e)
  places : ∀ env es, R.Rel (Eval.places env fuel es) (Eval.places env fuel es)
  blockIn : ∀ env body, R.Rel (Eval.blockIn env fuel body) (Eval.blockIn env fuel body)
  block : ∀ env body, R.Rel (Eval.block env fuel body) (Eval.block env fuel body)
  statement : ∀ env s, R.Rel (Eval.statement env fuel s) (Eval.statement env fuel s)
  whileLoop : ∀ env condition body,
    R.Rel (Eval.whileLoop env fuel condition body) (Eval.whileLoop env fuel condition body)
  repeatLoop : ∀ env body condition,
    R.Rel (Eval.repeatLoop env fuel body condition) (Eval.repeatLoop env fuel body condition)
  countLoop : ∀ env name body step i rounds,
    R.Rel (Eval.countLoop env fuel name body step i rounds)
      (Eval.countLoop env fuel name body step i rounds)
  floatLoop : ∀ env name body step last x,
    R.Rel (Eval.floatLoop env fuel name body step last x)
      (Eval.floatLoop env fuel name body step last x)
  iterate : ∀ env line names body f state control,
    R.Rel (Eval.iterate env fuel line names body f state control)
      (Eval.iterate env fuel line names body f state control)

variable {R : Relation m n} {fuel : Nat}

theorem evaluates_zero (R : Relation m n) : R.Evaluates 0 := by
  constructor <;> intros <;> exact R.throw .exhausted

/-- A check before a computation. -/
theorem guard (R : Relation m n) {α : Type} (p : Prop) [Decidable p] (check : Run PUnit) {x : m α}
    {y : n α} (h : R.Rel x y) :
    R.Rel (if p then Machine.perform check >>= fun _ => x else x)
      (if p then Machine.perform check >>= fun _ => y else y) := by
  split
  · exact R.bind (R.perform _) fun _ => h
  · exact h

/-- An expression that may be missing. -/
theorem Evaluates.optional (h : R.Evaluates fuel) (env : Env) (e? : Option Expr) {α : Type}
    {v : Value} {f : Value → m α} {g : Value → n α} (next : ∀ c, R.Rel (f c) (g c)) :
    R.Rel (match e? with
      | some e => Eval.expr env fuel e >>= f
      | none => Pure.pure v >>= f)
      (match e? with
      | some e => Eval.expr env fuel e >>= g
      | none => Pure.pure v >>= g) := by
  cases e? with
  | some e => exact R.bind (h.expr env e) next
  | none => exact R.bind (R.pure v) next

theorem Evaluates.expr_succ (h : R.Evaluates fuel) (env : Env) (e : Expr) :
    R.Rel (Eval.expr env (fuel + 1) e) (Eval.expr env (fuel + 1) e) := by
  cases e with
  | nil | bool | num | str | rest => exact R.pure _
  | function | var => exact R.perform _
  | index line t k =>
    exact R.bind (h.expr env t) fun _ => R.bind (h.expr env k) fun _ => R.perform _
  | call | method => exact R.bind (h.values env _) fun _ => R.pure _
  | unary line op a => exact R.bind (h.expr env a) fun _ => R.perform _
  | binary line op a b =>
    cases op with
    | and =>
      refine R.bind (h.expr env a) fun v => ?_
      cases v.isTrue
      · exact R.pure v
      · exact h.expr env b
    | or =>
      refine R.bind (h.expr env a) fun v => ?_
      cases v.isTrue
      · exact h.expr env b
      · exact R.pure v
    | _ => exact R.bind (h.expr env a) fun _ => R.bind (h.expr env b) fun _ => R.perform _
  | table fs =>
    exact R.bind (R.perform _) fun t => R.bind (h.fields env t 1 fs) fun _ => R.pure t
  | paren a => exact h.expr env a

theorem Evaluates.values_succ (h : R.Evaluates fuel) (env : Env) (e : Expr) :
    R.Rel (Eval.values env (fuel + 1) e) (Eval.values env (fuel + 1) e) := by
  cases e with
  | call line f args =>
    exact R.bind (h.expr env f) fun _ => R.bind (h.valueList env args) fun _ => h.call ..
  | method line object name args =>
    exact R.bind (h.expr env object) fun _ => R.bind (R.perform _) fun _ =>
      R.bind (h.valueList env args) fun _ => h.call ..
  | rest => exact R.pure _
  | _ => exact R.bind (h.expr env _) fun _ => R.pure _

theorem Evaluates.valueList_succ (h : R.Evaluates fuel) (env : Env) (es : List Expr) :
    R.Rel (Eval.valueList env (fuel + 1) es) (Eval.valueList env (fuel + 1) es) := by
  match es with
  | [] => exact R.pure _
  | [e] => exact h.values env e
  | e :: e' :: es =>
    exact R.bind (h.expr env e) fun _ => R.bind (h.valueList env (e' :: es)) fun _ => R.pure _

theorem Evaluates.fields_succ (h : R.Evaluates fuel) (env : Env) (t : Value) (i : Nat)
    (fs : List Field) : R.Rel (Eval.fields env (fuel + 1) t i fs)
      (Eval.fields env (fuel + 1) t i fs) := by
  match fs with
  | [] => exact R.pure _
  | [.item e] => exact R.bind (h.values env e) fun _ => R.perform _
  | .item e :: f :: fs =>
    exact R.bind (h.expr env e) fun _ => R.bind (R.perform _) fun _ => h.fields env t _ _
  | .named k e :: fs =>
    exact R.bind (h.expr env k) fun _ => R.bind (h.expr env e) fun _ =>
      R.bind (R.perform _) fun _ => h.fields env t i fs

theorem Evaluates.call_succ (h : R.Evaluates fuel) (line : Nat) (name : String) (f : Value)
    (args : List Value) : R.Rel (Eval.call (fuel + 1) line name f args)
      (Eval.call (fuel + 1) line name f args) := by
  cases f with
  | closure ref =>
    refine R.bind (R.perform _) fun heap => ?_
    cases heap.closures[ref]? with
    | none => exact R.pure _
    | some closure =>
      obtain ⟨⟨params, hasRest, body⟩, outer⟩ := closure
      refine R.guard _ _ (R.bind (R.perform _) fun _ => R.bind (R.perform _) fun env =>
        R.bind (h.block env _) fun outcome => R.bind (R.perform _) fun _ => ?_)
      cases outcome <;> exact R.pure _
  | native g =>
    cases g with
    | pcall =>
      refine R.bind (R.perform _) fun heap => ?_
      cases args with
      | nil => exact R.perform _
      | cons g args =>
        refine R.bind (R.tryCatch (R.bind (h.call ..) fun _ => R.pure _) fun e => ?_) fun end? => ?_
        · cases e with
          | thrown v => exact R.bind (R.perform _) fun _ => R.pure _
          | exhausted => exact R.bind (R.throw _) fun _ => R.pure _
        · cases end? <;> exact R.pure _
    | _ => exact R.bind (R.perform _) fun _ => R.native _ _
  | _ => exact R.perform _

theorem Evaluates.place_succ (h : R.Evaluates fuel) (env : Env) (e : Expr) :
    R.Rel (Eval.place env (fuel + 1) e) (Eval.place env (fuel + 1) e) := by
  cases e with
  | var name =>
    simp only [Eval.place]
    cases Eval.cellOf? env name <;> exact R.pure _
  | index line t k => exact R.bind (h.expr env t) fun _ => R.bind (h.expr env k) fun _ => R.pure _
  | _ => exact R.perform _

theorem Evaluates.places_succ (h : R.Evaluates fuel) (env : Env) (es : List Expr) :
    R.Rel (Eval.places env (fuel + 1) es) (Eval.places env (fuel + 1) es) := by
  cases es with
  | nil => exact R.pure _
  | cons e es => exact R.bind (h.place env e) fun _ => R.bind (h.places env es) fun _ => R.pure _

theorem Evaluates.blockIn_succ (h : R.Evaluates fuel) (env : Env) (body : List Stat) :
    R.Rel (Eval.blockIn env (fuel + 1) body) (Eval.blockIn env (fuel + 1) body) := by
  cases body with
  | nil => exact R.pure _
  | cons s rest =>
    cases s with
    | locals names es =>
      exact R.bind (h.valueList env es) fun _ => R.bind (R.perform _) fun _ => h.blockIn _ rest
    | localFunction name body =>
      exact R.bind (R.perform _) fun _ => R.bind (R.perform _) fun _ => R.bind (R.perform _) fun _ =>
        h.blockIn _ rest
    | _ =>
      refine R.bind (h.statement env _) fun outcome => ?_
      cases outcome with
      | next => exact h.blockIn env rest
      | broke | returned => exact R.pure _

theorem Evaluates.block_succ (h : R.Evaluates fuel) (env : Env) (body : List Stat) :
    R.Rel (Eval.block env (fuel + 1) body) (Eval.block env (fuel + 1) body) :=
  R.bind (h.blockIn env body) fun _ => R.pure _

theorem Evaluates.statement_succ (h : R.Evaluates fuel) (env : Env) (s : Stat) :
    R.Rel (Eval.statement env (fuel + 1) s) (Eval.statement env (fuel + 1) s) := by
  cases s with
  | call e => exact R.bind (h.values env e) fun _ => R.pure _
  | assign targets es =>
    exact R.bind (h.places env targets) fun _ => R.bind (h.valueList env es) fun _ =>
      R.bind (R.perform _) fun _ => R.pure _
  | block body => exact h.block env body
  | «while» condition body => exact h.whileLoop env condition body
  | «repeat» body condition => exact h.repeatLoop env body condition
  | branch condition yes no =>
    refine R.bind (h.expr env condition) fun v => ?_
    cases v.isTrue
    · exact h.block env no
    · exact h.block env yes
  | countingFor line name first last step body =>
    refine R.bind (h.expr env first) fun a => R.bind (h.expr env last) fun b => ?_
    refine h.optional env step fun c => ?_
    dsimp only
    split
    · refine R.guard _ _ (R.bind (R.perform _) fun bound => ?_)
      cases Eval.integerBound _ bound with
      | none => exact R.pure _
      | some last => exact h.countLoop ..
    · exact R.bind (R.perform _) fun bound => R.bind (R.perform _) fun step =>
        R.bind (R.perform _) fun first => R.guard _ _ (h.floatLoop ..)
  | iteratingFor line names es body =>
    refine R.bind (h.valueList env es) fun vs => ?_
    split
    · exact h.iterate ..
    · exact R.pure _
  | «return» es => exact R.bind (h.valueList env es) fun _ => R.pure _
  | «break» => exact R.pure _
  | locals | localFunction => exact h.block env _

theorem Evaluates.whileLoop_succ (h : R.Evaluates fuel) (env : Env) (condition : Expr)
    (body : List Stat) : R.Rel (Eval.whileLoop env (fuel + 1) condition body)
      (Eval.whileLoop env (fuel + 1) condition body) := by
  refine R.bind (h.expr env condition) fun v => ?_
  cases v.isTrue with
  | false => exact R.pure _
  | true =>
    refine R.bind (h.block env body) fun outcome => ?_
    cases outcome with
    | next => exact h.whileLoop env condition body
    | broke | returned => exact R.pure _

theorem Evaluates.repeatLoop_succ (h : R.Evaluates fuel) (env : Env) (body : List Stat)
    (condition : Expr) : R.Rel (Eval.repeatLoop env (fuel + 1) body condition)
      (Eval.repeatLoop env (fuel + 1) body condition) := by
  refine R.bind (h.blockIn env body) fun ⟨outcome, inner⟩ => ?_
  cases outcome with
  | next =>
    refine R.bind (h.expr inner condition) fun v => ?_
    cases v.isTrue
    · exact h.repeatLoop env body condition
    · exact R.pure _
  | broke | returned => exact R.pure _

theorem Evaluates.countLoop_succ (h : R.Evaluates fuel) (env : Env) (name : Name)
    (body : List Stat) (step i : Int) (rounds : Nat) :
    R.Rel (Eval.countLoop env (fuel + 1) name body step i rounds)
      (Eval.countLoop env (fuel + 1) name body step i rounds) := by
  cases rounds with
  | zero => exact R.pure _
  | succ rounds =>
    refine R.bind (R.perform _) fun inner => R.bind (h.block inner body) fun outcome => ?_
    cases outcome with
    | next => exact h.countLoop env name body step _ rounds
    | broke | returned => exact R.pure _

theorem Evaluates.floatLoop_succ (h : R.Evaluates fuel) (env : Env) (name : Name)
    (body : List Stat) (step last x : Float) :
    R.Rel (Eval.floatLoop env (fuel + 1) name body step last x)
      (Eval.floatLoop env (fuel + 1) name body step last x) := by
  by_cases again : if 0 < step then x ≤ last else last ≤ x
  · simp only [Eval.floatLoop, if_pos again]
    refine R.bind (R.perform _) fun inner => R.bind (h.block inner body) fun outcome => ?_
    cases outcome with
    | next => exact h.floatLoop env name body step last _
    | broke | returned => exact R.pure _
  · simp only [Eval.floatLoop, if_neg again]
    exact R.pure _

theorem Evaluates.iterate_succ (h : R.Evaluates fuel) (env : Env) (line : Nat) (names : List Name)
    (body : List Stat) (f state control : Value) :
    R.Rel (Eval.iterate env (fuel + 1) line names body f state control)
      (Eval.iterate env (fuel + 1) line names body f state control) := by
  refine R.bind (h.call ..) fun vs => ?_
  dsimp only
  cases (vs.headD .nil).isNil with
  | true => exact R.pure _
  | false =>
    refine R.bind (R.perform _) fun inner => R.bind (h.block inner body) fun outcome => ?_
    cases outcome with
    | next => exact h.iterate env line names body f state _
    | broke | returned => exact R.pure _

/-- Programs are related however many steps they may take. -/
theorem evaluates (R : Relation m n) : ∀ fuel, R.Evaluates fuel
  | 0 => R.evaluates_zero
  | fuel + 1 =>
    let h := R.evaluates fuel
    { expr := h.expr_succ
      values := h.values_succ
      valueList := h.valueList_succ
      fields := h.fields_succ
      call := h.call_succ
      place := h.place_succ
      places := h.places_succ
      blockIn := h.blockIn_succ
      block := h.block_succ
      statement := h.statement_succ
      whileLoop := h.whileLoop_succ
      repeatLoop := h.repeatLoop_succ
      countLoop := h.countLoop_succ
      floatLoop := h.floatLoop_succ
      iterate := h.iterate_succ }

theorem runChunk (R : Relation m n) (body : List Stat) :
    R.Rel (Lua.runChunk body) (Lua.runChunk body) :=
  R.bind ((R.evaluates maxFuel).block _ body) fun _ => R.pure _

end Machine.Relation
end MudClient.Lua
