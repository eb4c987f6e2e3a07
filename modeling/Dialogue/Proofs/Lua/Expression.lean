import Dialogue.Proofs.Lua.Lexer

/-!
# Expressions of Lua source

Expressions are read with an explicit stack of the brackets that are open: `operand` expects an
expression, `suffix` has one and looks whether it goes on. Each takes one look at the next tokens,
so both follow the source from left to right.

Results:
* **`operand_tokens`**: an expression is read back from its tokens, in any context.
* `readExpr_tokens`: the expression ends where the source stops to continue it.
-/

namespace Dialogue.Lua

mutual

/-- An expression. -/
inductive Expr where
  /-- A variable or a number. -/
  | word (w : String)
  /-- A text. -/
  | text (s : String)
  /-- A field: `e.name`. -/
  | field (e : Expr) (name : String)
  /-- A call of a function, `f(args)`, or of a method, `f:method(args)`. -/
  | call (f : Expr) (method : Option String) (args : List Expr)
  /-- A table: `{ fields }`. -/
  | table (fields : List Field)
  /-- A call of a method on a table: `e:method { fields }`. -/
  | make (e : Expr) (method : String) (fields : List Field)
  deriving Repr

/-- A field of a table: `value` or `key = value`. -/
inductive Field where
  | mk (key : Option String) (value : Expr)
  deriving Repr

end

/-! ## Writing -/

/-- The tokens between the object of a call and its arguments. -/
def methodTokens : Option String → List Token
  | none => []
  | some name => [.mark .colon, .word name]

/-- The tokens before the value of a field. -/
def keyTokens : Option String → List Token
  | none => []
  | some key => [.word key, .mark .assign]

mutual

/-- The tokens of an expression. -/
def Expr.tokens : Expr → List Token
  | .word w => [.word w]
  | .text s => [.text s]
  | .field e name => e.tokens ++ [.mark .dot, .word name]
  | .call f method args =>
    f.tokens ++ methodTokens method ++ .mark .openParen :: argumentTokens [] args ++
      [.mark .closeParen]
  | .table fields => .mark .openBrace :: fieldTokens [] fields ++ [.mark .closeBrace]
  | .make e method fields =>
    e.tokens ++ .mark .colon :: .word method :: .mark .openBrace :: fieldTokens [] fields ++
      [.mark .closeBrace]

/-- The tokens of arguments, of which the first follows `separator`. -/
def argumentTokens (separator : List Token) : List Expr → List Token
  | [] => []
  | e :: rest => separator ++ e.tokens ++ argumentTokens [.mark .comma] rest

/-- The tokens of fields, of which the first follows `separator`. -/
def fieldTokens (separator : List Token) : List Field → List Token
  | [] => []
  | .mk key e :: rest =>
    separator ++ keyTokens key ++ e.tokens ++ fieldTokens [.mark .comma] rest

end

theorem fieldTokens_cons_cons (field next : Field) (fields : List Field) :
    fieldTokens [] (field :: next :: fields) =
      fieldTokens [] [field] ++ [.mark .comma] ++ fieldTokens [] (next :: fields) := by
  obtain ⟨key, e⟩ := field
  obtain ⟨nextKey, nextValue⟩ := next
  simp [fieldTokens]

/-! ## Reading -/

/-- An open bracket, with what has been read since. -/
inductive Frame where
  /-- The arguments of a call. -/
  | arguments (f : Expr) (method : Option String) (done : List Expr)
  /-- The fields of a table, on which a method may be called; `key` belongs to the next field. -/
  | fields (maker : Option (Expr × String)) (done : List Field) (key : Option String)
  deriving Repr

/-- The expression that a closed table makes. -/
def closeBrace (maker : Option (Expr × String)) (fields : List Field) : Expr :=
  match maker with
  | none => .table fields
  | some (e, method) => .make e method fields

mutual

/-- Reads an expression within the open brackets `stack`. -/
def operand (stack : List Frame) : List Token → Option (Expr × List Token)
  | .word w :: rest => suffix stack (.word w) rest
  | .text s :: rest => suffix stack (.text s) rest
  | .mark .openBrace :: rest => operand (.fields none [] none :: stack) rest
  | .mark .closeParen :: rest =>
    match stack with
    | .arguments f method [] :: stack => suffix stack (.call f method []) rest
    | _ => none
  | .mark .closeBrace :: rest =>
    match stack with
    | .fields maker done none :: stack => suffix stack (closeBrace maker done) rest
    | _ => none
  | _ => none

/-- Reads on after the expression `e` within the open brackets `stack`. -/
def suffix (stack : List Frame) (e : Expr) : List Token → Option (Expr × List Token)
  | .mark .dot :: .word name :: rest => suffix stack (.field e name) rest
  | .mark .colon :: .word method :: .mark .openParen :: rest =>
    operand (.arguments e (some method) [] :: stack) rest
  | .mark .colon :: .word method :: .mark .openBrace :: rest =>
    operand (.fields (some (e, method)) [] none :: stack) rest
  | .mark .openParen :: rest => operand (.arguments e none [] :: stack) rest
  | .mark .comma :: rest =>
    match stack with
    | .arguments f method done :: stack =>
      operand (.arguments f method (done ++ [e]) :: stack) rest
    | .fields maker done key :: stack =>
      operand (.fields maker (done ++ [.mk key e]) none :: stack) rest
    | [] => some (e, .mark .comma :: rest)
  | .mark .closeParen :: rest =>
    match stack with
    | .arguments f method done :: stack => suffix stack (.call f method (done ++ [e])) rest
    | .fields .. :: _ => none
    | [] => some (e, .mark .closeParen :: rest)
  | .mark .closeBrace :: rest =>
    match stack with
    | .fields maker done key :: stack =>
      suffix stack (closeBrace maker (done ++ [.mk key e])) rest
    | .arguments .. :: _ => none
    | [] => some (e, .mark .closeBrace :: rest)
  | .mark .assign :: rest =>
    match stack, e with
    | .fields maker done none :: stack, .word key =>
      operand (.fields maker done (some key) :: stack) rest
    | [], e => some (e, .mark .assign :: rest)
    | _, _ => none
  | ts =>
    match stack with
    | [] => some (e, ts)
    | _ => none

end

/-- Reads an expression. -/
def readExpr (ts : List Token) : Option (Expr × List Token) := operand [] ts

/-! ## Reading what was written -/

mutual

/-- **An expression is read back from its tokens**, in any context. -/
theorem operand_tokens (e : Expr) (stack : List Frame) (rest : List Token) :
    operand stack (e.tokens ++ rest) = suffix stack e rest := by
  cases e with
  | word w => rfl
  | text s => rfl
  | field e name =>
    rw [Expr.tokens, List.append_assoc, operand_tokens e]
    rfl
  | call f method args =>
    have opening : operand stack ((Expr.call f method args).tokens ++ rest) =
        operand (.arguments f method [] :: stack)
          (argumentTokens [] args ++ .mark .closeParen :: rest) := by
      simp only [Expr.tokens, List.append_assoc, List.cons_append, List.nil_append,
        operand_tokens f]
      cases method <;> rfl
    rw [opening]
    cases args with
    | nil => rfl
    | cons e args =>
      rw [argumentTokens, List.nil_append, List.append_assoc, operand_tokens e]
      exact suffix_argumentTokens args e f method [] stack rest
  | table fields =>
    have opening : operand stack ((Expr.table fields).tokens ++ rest) =
        operand (.fields none [] none :: stack)
          (fieldTokens [] fields ++ .mark .closeBrace :: rest) := by
      simp only [Expr.tokens, List.append_assoc, List.cons_append, List.nil_append]
      rfl
    rw [opening]
    exact operand_fieldTokens fields none stack rest
  | make e method fields =>
    have opening : operand stack ((Expr.make e method fields).tokens ++ rest) =
        operand (.fields (some (e, method)) [] none :: stack)
          (fieldTokens [] fields ++ .mark .closeBrace :: rest) := by
      simp only [Expr.tokens, List.append_assoc, List.cons_append, List.nil_append,
        operand_tokens e]
      rfl
    rw [opening]
    exact operand_fieldTokens fields (some (e, method)) stack rest

/-- The arguments of a call are read up to the bracket that closes it. -/
theorem suffix_argumentTokens (args : List Expr) (e f : Expr) (method : Option String)
    (done : List Expr) (stack : List Frame) (rest : List Token) :
    suffix (.arguments f method done :: stack) e
        (argumentTokens [.mark .comma] args ++ .mark .closeParen :: rest) =
      suffix stack (.call f method (done ++ e :: args)) rest := by
  cases args with
  | nil => rfl
  | cons next args =>
    have more := suffix_argumentTokens args next f method (done ++ [e]) stack rest
    rw [List.append_assoc] at more
    simp only [argumentTokens, List.append_assoc, List.cons_append, List.nil_append]
    rw [suffix]
    rw [operand_tokens next]
    exact more

/-- The fields of a table are read from the bracket that opens it. -/
theorem operand_fieldTokens (fields : List Field) (maker : Option (Expr × String))
    (stack : List Frame) (rest : List Token) :
    operand (.fields maker [] none :: stack)
        (fieldTokens [] fields ++ .mark .closeBrace :: rest) =
      suffix stack (closeBrace maker fields) rest := by
  cases fields with
  | nil => rfl
  | cons field fields =>
    obtain ⟨key, e⟩ := field
    simp only [fieldTokens, List.append_assoc, List.nil_append]
    cases key with
    | none =>
      rw [keyTokens, List.nil_append, operand_tokens e]
      exact suffix_fieldTokens fields none e maker [] stack rest
    | some key =>
      rw [keyTokens, List.cons_append, operand, List.cons_append, suffix, List.nil_append,
        operand_tokens e]
      exact suffix_fieldTokens fields (some key) e maker [] stack rest

/-- The fields of a table are read up to the bracket that closes it. -/
theorem suffix_fieldTokens (fields : List Field) (key : Option String) (e : Expr)
    (maker : Option (Expr × String)) (done : List Field) (stack : List Frame)
    (rest : List Token) :
    suffix (.fields maker done key :: stack) e
        (fieldTokens [.mark .comma] fields ++ .mark .closeBrace :: rest) =
      suffix stack (closeBrace maker (done ++ .mk key e :: fields)) rest := by
  cases fields with
  | nil => rfl
  | cons field fields =>
    obtain ⟨nextKey, next⟩ := field
    have more := suffix_fieldTokens fields nextKey next maker (done ++ [.mk key e]) stack rest
    rw [List.append_assoc] at more
    simp only [fieldTokens, List.append_assoc, List.cons_append, List.nil_append]
    rw [suffix]
    cases nextKey with
    | none =>
      rw [keyTokens, List.nil_append, operand_tokens next]
      exact more
    | some nextKey =>
      rw [keyTokens, List.cons_append, operand, List.cons_append, suffix, List.nil_append,
        operand_tokens next]
      exact more

end

/-! ## Where an expression ends -/

/-- A token that may continue an expression, or makes a variable of it. -/
def Token.continues : Token → Bool
  | .mark .dot | .mark .colon | .mark .openParen | .mark .assign => true
  | _ => false

/-- The source does not continue an expression here. -/
def Stops (ts : List Token) : Prop := ∀ t ∈ ts.head?, t.continues = false

/-- The tokens of something that cannot be taken to continue an expression before it. -/
def Begins (ts : List Token) : Prop := ∃ t rest, ts = t :: rest ∧ t.continues = false

theorem Begins.append {ts : List Token} (h : Begins ts) (rest : List Token) :
    Begins (ts ++ rest) := by
  obtain ⟨t, more, rfl, ht⟩ := h
  exact ⟨t, more ++ rest, rfl, ht⟩

theorem Begins.stops {ts : List Token} (h : Begins ts) : Stops ts := by
  obtain ⟨t, more, rfl, ht⟩ := h
  intro u hu
  obtain rfl : t = u := Option.some.inj hu
  exact ht

theorem Begins.ne_nil {ts : List Token} (h : Begins ts) : ts ≠ [] := by
  obtain ⟨t, more, rfl, -⟩ := h
  exact List.cons_ne_nil t more

theorem begins_word (w : String) (rest : List Token) : Begins (.word w :: rest) :=
  ⟨.word w, rest, rfl, rfl⟩

theorem stops_nil : Stops [] := fun _ h => nomatch h

theorem suffix_nil (e : Expr) {rest : List Token} (h : Stops rest) :
    suffix [] e rest = some (e, rest) := by
  match rest with
  | [] => rfl
  | .word _ :: _ => rfl
  | .text _ :: _ => rfl
  | .mark m :: _ =>
    have hm : Token.continues (.mark m) = false := h _ rfl
    cases m <;> first | rfl | exact absurd hm (by decide)

/-- The expression ends where the source stops to continue it. -/
theorem readExpr_tokens (e : Expr) {rest : List Token} (h : Stops rest) :
    readExpr (e.tokens ++ rest) = some (e, rest) := by
  rw [readExpr, operand_tokens, suffix_nil e h]

/-- The token with which an expression begins. -/
def Expr.first : Expr → Token
  | .word w => .word w
  | .text s => .text s
  | .field e _ | .call e _ _ | .make e _ _ => e.first
  | .table _ => .mark .openBrace

theorem Expr.tokens_eq_first_cons (e : Expr) : ∃ rest, e.tokens = e.first :: rest := by
  match e with
  | .word _ => exact ⟨_, rfl⟩
  | .text _ => exact ⟨_, rfl⟩
  | .table _ => exact ⟨_, rfl⟩
  | .field e _ | .call e _ _ | .make e _ _ =>
    obtain ⟨rest, he⟩ := tokens_eq_first_cons e
    simp [Expr.tokens, Expr.first, he]

theorem Expr.first_continues (e : Expr) : e.first.continues = false := by
  match e with
  | .word _ => rfl
  | .text _ => rfl
  | .table _ => rfl
  | .field e _ | .call e _ _ | .make e _ _ => exact first_continues e

theorem Expr.begins (e : Expr) : Begins e.tokens := by
  obtain ⟨rest, he⟩ := e.tokens_eq_first_cons
  exact ⟨e.first, rest, he, e.first_continues⟩

end Dialogue.Lua
