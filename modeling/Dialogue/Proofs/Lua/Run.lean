import Dialogue.Proofs.Lua.Script

/-!
# Running a method of a script

A method is run without knowing the objects that it works on: a local variable stands for the
expression it was declared with, and every other name stands for itself. What a run needs to know is
which conditions are true; what it leaves is the list of the expressions it evaluated, in order, and
the expression it returned. A run that would assign to a variable is not followed.

Results:
* `runBody_guard_of_false`, `runBody_guard_of_true`: a guard is passed, or else it returns.
* **`runBranches_eq`**: of a choice the first branch runs whose condition is true, and no condition
  after that one is looked at.
-/

namespace Dialogue.Lua

/-! ## Variables -/

/-- The local variables, each with the expression it stands for; a later one hides an earlier. -/
abbrev Env := List (String × Expr)

mutual

/-- The expression with each local variable replaced by what it stands for. -/
def Expr.resolve (env : Env) : Expr → Expr
  | .word w => (env.lookup w).getD (.word w)
  | .text s => .text s
  | .field e name => .field (e.resolve env) name
  | .call f method args => .call (f.resolve env) method (resolveArguments env args)
  | .table fields => .table (resolveFields env fields)
  | .make e method fields => .make (e.resolve env) method (resolveFields env fields)

/-- The arguments with each local variable replaced by what it stands for. -/
def resolveArguments (env : Env) : List Expr → List Expr
  | [] => []
  | e :: rest => e.resolve env :: resolveArguments env rest

/-- The fields with each local variable replaced by what it stands for. -/
def resolveFields (env : Env) : List Field → List Field
  | [] => []
  | .mk key e :: rest => .mk key (e.resolve env) :: resolveFields env rest

end

/-- The condition with each local variable replaced by what it stands for. -/
def Condition.resolve (env : Env) : Condition → Condition
  | .holds e => .holds (e.resolve env)
  | .fails e => .fails (e.resolve env)
  | .equal a b => .equal (a.resolve env) (b.resolve env)
  | .group c => .group (c.resolve env)

/-- The expressions that are evaluated to decide a condition. -/
def Condition.operands : Condition → List Expr
  | .holds e | .fails e => [e]
  | .equal a b => [a, b]
  | .group c => c.operands

/-! ## Calls -/

/-- The call itself, if it is of a function of such an object. -/
def callOn (isObject : Expr → Bool) (f : Expr) (method : Option String) (args : List Expr) :
    List Expr :=
  match f, method with
  | .field object _, none => if isObject object then [.call f method args] else []
  | _, _ => []

mutual

/-- The calls of functions of such objects that evaluating an expression makes, in order. -/
def Expr.callsOn (isObject : Expr → Bool) : Expr → List Expr
  | .word _ | .text _ => []
  | .field e _ => e.callsOn isObject
  | .call f method args =>
    f.callsOn isObject ++ argumentCallsOn isObject args ++ callOn isObject f method args
  | .table fields => fieldCallsOn isObject fields
  | .make e _ fields => e.callsOn isObject ++ fieldCallsOn isObject fields

/-- The calls that evaluating arguments makes, in order. -/
def argumentCallsOn (isObject : Expr → Bool) : List Expr → List Expr
  | [] => []
  | e :: rest => e.callsOn isObject ++ argumentCallsOn isObject rest

/-- The calls that evaluating fields makes, in order. -/
def fieldCallsOn (isObject : Expr → Bool) : List Field → List Expr
  | [] => []
  | .mk _ e :: rest => e.callsOn isObject ++ fieldCallsOn isObject rest

end

/-! ## Statements -/

/-- What a run leaves. -/
structure Outcome where
  /-- The expressions that were evaluated, in order. -/
  evaluated : List Expr
  /-- The expression that was returned, if the run got to a return. -/
  value : Option Expr
  deriving Repr

/-- The outcome of a run that went on as `later` after it had evaluated the expressions `es`. -/
def Outcome.after (es : List Expr) (later : Outcome) : Outcome :=
  ⟨es ++ later.evaluated, later.value⟩

/-- Runs one after the other up to the first return. -/
def follow {α : Type} (run : Env → α → Option (Env × Outcome)) : Env → List α → Option Outcome
  | _, [] => some ⟨[], none⟩
  | env, a :: rest => do
    let (env, here) ← run env a
    match here.value with
    | some _ => return here
    | none =>
      let later ← follow run env rest
      return .after here.evaluated later

/-- Runs a simple statement. -/
def runSimple (env : Env) : Simple → Option (Env × Outcome)
  | .skip => some (env, ⟨[], none⟩)
  | .declare x e => some ((x, e.resolve env) :: env, ⟨[e.resolve env], none⟩)
  | .assign _ _ => none
  | .perform e => some (env, ⟨[e.resolve env], none⟩)
  | .give e => some (env, ⟨[e.resolve env], some (e.resolve env)⟩)

/-- Runs a block. -/
def runBlock (env : Env) (body : List Simple) : Option Outcome := follow runSimple env body

section

variable (holds : Condition → Bool)

/-- Runs the first branch whose condition is true, or else `default`. -/
def runBranches (env : Env) (default : List Simple) : List Branch → Option Outcome
  | [] => runBlock env default
  | b :: rest =>
    let condition := b.condition.resolve env
    (if holds condition then runBlock env b.body else runBranches env default rest).map
      (.after condition.operands)

/-- Runs a statement of a body. -/
def runStatement (env : Env) : Statement → Option (Env × Outcome)
  | .simple s => runSimple env s
  | .choose first others default =>
    (runBranches holds env (default.getD []) (first :: others)).map (env, ·)

/-- Runs a body. -/
def runBody (env : Env) (body : List Statement) : Option Outcome :=
  follow (runStatement holds) env body

/-- Runs the method `object:name` of a script. The local variables that the script declares before
it are known to its body, unless a parameter hides them. -/
def runMethod (object name : String) : Env → List Item → Option Outcome
  | _, [] => none
  | env, .simple (.declare x e) :: rest => runMethod object name ((x, e.resolve env) :: env) rest
  | env, .simple (.assign x _) :: rest =>
    if (env.lookup x).isSome then none else runMethod object name env rest
  | env, .simple _ :: rest => runMethod object name env rest
  | env, .method o n parameters body :: rest =>
    if o = object ∧ n = name then runBody holds (env.filter fun v => ! parameters.contains v.1) body
    else runMethod object name env rest

end

section

variable {α : Type} {run : Env → α → Option (Env × Outcome)} {env later : Env} {a : α}
  {here : Outcome}

/-- What returns nothing is followed by the rest. -/
theorem follow_cons_of_none (h : run env a = some (later, here)) (hv : here.value = none)
    (rest : List α) :
    follow run env (a :: rest) = (follow run later rest).map (.after here.evaluated) := by
  simp only [follow, h, hv, Option.bind_eq_bind, Option.bind_some]
  cases follow run later rest <;> rfl

/-- What returns is followed by nothing. -/
theorem follow_cons_of_some {e : Expr} (h : run env a = some (later, here))
    (hv : here.value = some e) (rest : List α) : follow run env (a :: rest) = some here := by
  simp only [follow, h, hv, Option.bind_eq_bind, Option.bind_some]
  rfl

end

theorem follow_singleton {α : Type} (run : Env → α → Option (Env × Outcome)) (env : Env) (a : α) :
    follow run env [a] = (run env a).map (·.2) := by
  cases h : run env a with
  | none => simp [follow, h]
  | some r =>
    obtain ⟨later, ⟨evaluated, value⟩⟩ := r
    cases value with
    | none =>
      rw [follow_cons_of_none h rfl]
      simp [follow, Outcome.after]
    | some e => exact follow_cons_of_some h rfl []

theorem runBody_declare (holds : Condition → Bool) (env : Env) (x : String) (e : Expr)
    (rest : List Statement) :
    runBody holds env (.simple (.declare x e) :: rest) =
      (runBody holds ((x, e.resolve env) :: env) rest).map (.after [e.resolve env]) := by
  have declared : runStatement holds env (.simple (.declare x e)) =
      some ((x, e.resolve env) :: env, ⟨[e.resolve env], none⟩) := rfl
  exact follow_cons_of_none declared rfl rest

section

variable {holds : Condition → Bool} {env : Env} {b : Branch}

/-- A guard whose condition is false is passed. -/
theorem runBody_guard_of_false (h : holds (b.condition.resolve env) = false)
    (rest : List Statement) :
    runBody holds env (.choose b [] none :: rest) =
      (runBody holds env rest).map (.after (b.condition.resolve env).operands) := by
  have passed : runStatement holds env (.choose b [] none) =
      some (env, ⟨(b.condition.resolve env).operands ++ [], none⟩) := by
    simp only [runStatement, runBranches, h, Bool.false_eq_true, if_false]
    rfl
  rw [runBody, follow_cons_of_none passed rfl, List.append_nil]
  rfl

/-- A guard whose condition is true returns. -/
theorem runBody_guard_of_true {e : Expr} (h : holds (b.condition.resolve env) = true)
    (hb : b.body = [.give e]) (rest : List Statement) :
    runBody holds env (.choose b [] none :: rest) =
      some ⟨(b.condition.resolve env).operands ++ [e.resolve env], some (e.resolve env)⟩ := by
  have stopped : runStatement holds env (.choose b [] none) = some (env,
      ⟨(b.condition.resolve env).operands ++ [e.resolve env], some (e.resolve env)⟩) := by
    simp only [runStatement, runBranches, h, hb, if_true]
    rfl
  exact follow_cons_of_some stopped rfl rest

end

/-! ## Choices -/

/-- The members of a list that are looked at until one satisfies `p`. -/
def lookedAt {α : Type} (p : α → Bool) : List α → List α
  | [] => []
  | a :: as => a :: if p a then [] else lookedAt p as

/-- All are looked at if none satisfies `p`. -/
theorem lookedAt_of_forall_false {α : Type} {p : α → Bool} (h : ∀ a, p a = false) (as : List α) :
    lookedAt p as = as := by
  induction as with
  | nil => rfl
  | cons a as ih => simp [lookedAt, h, ih]

theorem lookedAt_map {α β : Type} (p : β → Bool) (f : α → β) (as : List α) :
    lookedAt p (as.map f) = (lookedAt (p ∘ f) as).map f := by
  induction as with
  | nil => rfl
  | cons a as ih => cases h : p (f a) <;> simp [lookedAt, h, ih]

theorem mem_of_mem_lookedAt {α : Type} {p : α → Bool} {a : α} {as : List α}
    (h : a ∈ lookedAt p as) : a ∈ as := by
  induction as with
  | nil => exact h
  | cons b as ih =>
    rcases List.mem_cons.mp h with rfl | h
    · exact List.mem_cons_self
    · cases hb : p b with
      | true => simp [hb] at h
      | false =>
        rw [hb] at h
        exact List.mem_cons_of_mem b (ih h)

/-- **Of a choice the first branch runs whose condition is true**, and no condition after that one
is looked at. -/
theorem runBranches_eq (holds : Condition → Bool) (env : Env) (default : List Simple)
    (branches : List Branch) :
    runBranches holds env default branches =
      (runBlock env
        (((branches.find? fun b => holds (b.condition.resolve env)).map (·.body)).getD default)).map
        (.after ((lookedAt (fun b => holds (b.condition.resolve env)) branches).flatMap
          fun b => (b.condition.resolve env).operands)) := by
  induction branches with
  | nil =>
    rw [runBranches, lookedAt, List.flatMap_nil, List.find?_nil, Option.map_none, Option.getD_none]
    cases runBlock env default <;> rfl
  | cons b rest ih =>
    rw [runBranches, lookedAt, List.flatMap_cons, List.find?_cons]
    cases hb : holds (b.condition.resolve env) with
    | true => simp
    | false =>
      simp only [Bool.false_eq_true, if_false, ih]
      cases runBlock env _ with
      | none => rfl
      | some later => simp [Outcome.after]

end Dialogue.Lua
