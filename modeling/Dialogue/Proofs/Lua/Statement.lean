import Dialogue.Proofs.Lua.Expression

/-!
# Simple statements, conditions and blocks of Lua source

A simple statement has no other statements in it; a block is a list of them, and ends with a word of
the language. Outside of blocks `x = e` assigns to `x` whatever word `x` is.

Results:
* `many_flatMap`: what stands one after the other is read one after the other.
* `Simple.reads`, `readCondition_tokens`, `readBlock_tokens`, `Branch.read_append`: each form is read
  back from its tokens, where nothing continues it.
-/

namespace Dialogue.Lua

/-! ## Repetition -/

/-- Reads as often as `read` has something to say. -/
def many {α : Type} (read : List Token → Option (α × List Token)) (ts : List Token) :
    List α × List Token :=
  match read ts with
  | none => ([], ts)
  | some (a, rest) =>
    if rest.length < ts.length then (a :: (many read rest).1, (many read rest).2) else ([], ts)
termination_by ts.length

/-- Wherever `follow` holds of the rest, `read` gets `a` back from the tokens `ts`. -/
structure Reads {α : Type} (follow : List Token → Prop)
    (read : List Token → Option (α × List Token)) (ts : List Token) (a : α) : Prop where
  /-- There is something to read. -/
  ne_nil : ts ≠ []
  /-- The tokens may follow each other. -/
  follows : ∀ rest, follow (ts ++ rest)
  /-- They are read, and the rest is left. -/
  read_append : ∀ rest, follow rest → read (ts ++ rest) = some (a, rest)

section

variable {α : Type} {read : List Token → Option (α × List Token)}

theorem many_of_none {ts : List Token} (h : read ts = none) : many read ts = ([], ts) := by
  rw [many, h]

theorem many_of_some {ts rest : List Token} {a : α} (h : read ts = some (a, rest))
    (hlt : rest.length < ts.length) :
    many read ts = (a :: (many read rest).1, (many read rest).2) := by
  rw [many, h]
  exact if_pos hlt

variable {follow : List Token → Prop} {tokens : α → List Token} {as : List α} {rest : List Token}

/-- Where the rest may follow, so may what is written in front of it. -/
theorem follow_flatMap (h : ∀ a ∈ as, Reads follow read (tokens a) a) (hfollow : follow rest) :
    follow (as.flatMap tokens ++ rest) := by
  cases as with
  | nil => exact hfollow
  | cons a as =>
    rw [List.flatMap_cons, List.append_assoc]
    exact (h a List.mem_cons_self).follows _

/-- What stands one after the other is read one after the other. -/
theorem many_flatMap (h : ∀ a ∈ as, Reads follow read (tokens a) a) (hfollow : follow rest)
    (hrest : read rest = none) : many read (as.flatMap tokens ++ rest) = (as, rest) := by
  induction as with
  | nil => exact many_of_none hrest
  | cons a as ih =>
    have ha : Reads follow read (tokens a) a := h a List.mem_cons_self
    have has : ∀ b ∈ as, Reads follow read (tokens b) b :=
      fun b hb => h b (List.mem_cons_of_mem a hb)
    have later : follow (as.flatMap tokens ++ rest) := follow_flatMap has hfollow
    rw [List.flatMap_cons, List.append_assoc]
    have shorter : (as.flatMap tokens ++ rest).length <
        (tokens a ++ (as.flatMap tokens ++ rest)).length := by
      have := List.length_pos_iff.mpr ha.ne_nil
      simp only [List.length_append]
      omega
    rw [many_of_some (ha.read_append _ later) shorter, ih has]

end

/-- The rest after the word `w`. -/
def expect (w : String) : List Token → Option (List Token)
  | .word v :: rest => if v = w then some rest else none
  | _ => none

@[simp] theorem expect_word_cons (w : String) (rest : List Token) :
    expect w (.word w :: rest) = some rest := by
  simp [expect]

/-! ## Simple statements -/

/-- A statement without other statements in it. -/
inductive Simple where
  /-- `;` -/
  | skip
  /-- `local x = e` -/
  | declare (x : String) (e : Expr)
  /-- `x = e` -/
  | assign (x : String) (e : Expr)
  /-- A call. -/
  | perform (e : Expr)
  /-- `return e` -/
  | give (e : Expr)
  deriving Repr

/-- The tokens of a simple statement. -/
def Simple.tokens : Simple → List Token
  | .skip => [.mark .semicolon]
  | .declare x e => .word "local" :: .word x :: .mark .assign :: e.tokens
  | .assign x e => .word x :: .mark .assign :: e.tokens
  | .perform e => e.tokens
  | .give e => .word "return" :: e.tokens

/-- The words that end a block. -/
def closers : List String := ["elseif", "else", "end"]

/-- The words that begin something other than a call. -/
def keywords : List String := closers ++ ["local", "return", "function", "if", "then", "not"]

/-- An expression that is a call. -/
def Expr.isCall : Expr → Bool
  | .call .. | .make .. => true
  | _ => false

/-- Reads the rest of a declaration. -/
def readDeclaration : List Token → Option (Simple × List Token)
  | .word x :: .mark .assign :: rest => (readExpr rest).map fun r => (.declare x r.1, r.2)
  | _ => none

/-- Reads a statement that begins with the word `w` and is no assignment. -/
def readPhrase (w : String) (rest : List Token) : Option (Simple × List Token) :=
  if w = "local" then readDeclaration rest
  else if w = "return" then (readExpr rest).map fun r => (.give r.1, r.2)
  else if w ∈ keywords then none
  else (readExpr (.word w :: rest)).bind fun r =>
    if r.1.isCall then some (.perform r.1, r.2) else none

/-- Reads a simple statement. -/
def readSimple : List Token → Option (Simple × List Token)
  | .mark .semicolon :: rest => some (.skip, rest)
  | .word x :: .mark .assign :: rest => (readExpr rest).map fun r => (.assign x r.1, r.2)
  | .word w :: rest => readPhrase w rest
  | _ => none

theorem readSimple_word_cons (w : String) {rest : List Token}
    (h : ∀ ts, rest ≠ .mark .assign :: ts) : readSimple (.word w :: rest) = readPhrase w rest := by
  rw [readSimple]
  exact h

/-- The statement cannot be mistaken for one that begins with a word of the language. -/
def Simple.Clear : Simple → Prop
  | .perform e => e.isCall = true ∧ ∃ w, e.first = .word w ∧ w ∉ keywords
  | _ => True

/-- A call begins with a word that is not one of the language. -/
theorem Simple.Clear.tokens_eq_word_cons {e : Expr} (h : (Simple.perform e).Clear) :
    ∃ w rest, e.tokens = .word w :: rest ∧ w ∉ keywords := by
  obtain ⟨-, w, hw, hkey⟩ := h
  obtain ⟨rest, hrest⟩ := e.tokens_eq_first_cons
  rw [hw] at hrest
  exact ⟨w, rest, hrest, hkey⟩

/-- What looks like the beginning of an assignment is a variable, and the rest follows it. -/
theorem Expr.eq_assign_cons_of_tokens_append (e : Expr) {x : String} {rest more : List Token}
    (h : e.tokens ++ rest = .word x :: .mark .assign :: more) : rest = .mark .assign :: more := by
  match e with
  | .word _ => exact (List.cons.inj h).2
  | .text _ => exact absurd (List.cons.inj h).1 (by simp)
  | .table _ => exact absurd (List.cons.inj h).1 (by simp)
  | .field e _ =>
    rw [Expr.tokens, List.append_assoc] at h
    exact absurd (eq_assign_cons_of_tokens_append e h) (by simp)
  | .call e none _ =>
    simp only [Expr.tokens, List.append_assoc] at h
    exact absurd (eq_assign_cons_of_tokens_append e h) (by simp [methodTokens])
  | .call e (some _) _ =>
    simp only [Expr.tokens, List.append_assoc] at h
    exact absurd (eq_assign_cons_of_tokens_append e h) (by simp [methodTokens])
  | .make e _ _ =>
    simp only [Expr.tokens, List.append_assoc] at h
    exact absurd (eq_assign_cons_of_tokens_append e h) (by simp)

theorem Simple.begins (s : Simple) : Begins s.tokens := by
  cases s with
  | skip => exact ⟨_, _, rfl, rfl⟩
  | perform e => exact e.begins
  | declare x e => exact begins_word _ _
  | assign x e => exact begins_word _ _
  | give e => exact begins_word _ _

/-- A call is read as the statement that makes it. -/
theorem readSimple_perform {e : Expr} (h : (Simple.perform e).Clear) {rest : List Token}
    (hrest : Stops rest) : readSimple (e.tokens ++ rest) = some (.perform e, rest) := by
  obtain ⟨w, more, hmore, hkey⟩ := h.tokens_eq_word_cons
  have hread := readExpr_tokens e hrest
  have hassign : ∀ ts, more ++ rest ≠ .mark .assign :: ts := by
    intro ts hts
    have : rest = .mark .assign :: ts := by
      refine e.eq_assign_cons_of_tokens_append (x := w) ?_
      rw [hmore, List.cons_append, hts]
    rw [this] at hrest
    exact absurd (hrest _ rfl) (by decide)
  rw [hmore, List.cons_append] at hread ⊢
  have hlocal : w ≠ "local" := by
    rintro rfl
    exact hkey (by decide)
  have hreturn : w ≠ "return" := by
    rintro rfl
    exact hkey (by decide)
  rw [readSimple_word_cons w hassign, readPhrase, if_neg hlocal, if_neg hreturn, if_neg hkey, hread]
  exact if_pos h.1

theorem Simple.reads {s : Simple} (h : s.Clear) : Reads Stops readSimple s.tokens s where
  ne_nil := s.begins.ne_nil
  follows rest := (s.begins.append rest).stops
  read_append rest hrest := by
    cases s with
    | skip => rfl
    | declare x e =>
      simp only [Simple.tokens, List.cons_append]
      rw [readSimple_word_cons "local" (by simp), readPhrase, if_pos rfl, readDeclaration,
        readExpr_tokens e hrest]
      rfl
    | assign x e =>
      rw [Simple.tokens, List.cons_append, List.cons_append, readSimple, readExpr_tokens e hrest]
      rfl
    | perform e => exact readSimple_perform h hrest
    | give e =>
      have hassign : ∀ ts, e.tokens ++ rest ≠ .mark .assign :: ts := by
        intro ts hts
        exact absurd ((e.begins.append rest).stops _ (by rw [hts]; rfl)) (by decide)
      rw [Simple.tokens, List.cons_append, readSimple_word_cons "return" hassign, readPhrase,
        if_neg (by decide), if_pos rfl, readExpr_tokens e hrest]
      rfl

/-! ## Conditions -/

/-- A condition. -/
inductive Condition where
  /-- `e` -/
  | holds (e : Expr)
  /-- `not e` -/
  | fails (e : Expr)
  /-- `a == b` -/
  | equal (a b : Expr)
  /-- `(c)` -/
  | group (c : Condition)
  deriving Repr

/-- The tokens of a condition. -/
def Condition.tokens : Condition → List Token
  | .holds e => e.tokens
  | .fails e => .word "not" :: e.tokens
  | .equal a b => a.tokens ++ .mark .equal :: b.tokens
  | .group c => .mark .openParen :: c.tokens ++ [.mark .closeParen]

/-- Reads a condition that begins with an expression. -/
def readTest (ts : List Token) : Option (Condition × List Token) := do
  let (a, rest) ← readExpr ts
  match rest with
  | .mark .equal :: rest =>
    let (b, rest) ← readExpr rest
    return (.equal a b, rest)
  | rest => return (.holds a, rest)

/-- Reads a condition. -/
def readCondition : List Token → Option (Condition × List Token)
  | .mark .openParen :: ts =>
    match readCondition ts with
    | some (c, .mark .closeParen :: rest) => some (.group c, rest)
    | _ => none
  | .word w :: ts =>
    if w = "not" then (readExpr ts).map fun r => (.fails r.1, r.2) else readTest (.word w :: ts)
  | ts => readTest ts

/-- The condition does not begin with the word `not`. -/
def Condition.Clear : Condition → Prop
  | .holds e | .equal e _ => e.first ≠ .word "not"
  | .fails _ => True
  | .group c => c.Clear

theorem readCondition_eq_readTest {e : Expr} (h : e.first ≠ .word "not") (rest : List Token) :
    readCondition (e.tokens ++ rest) = readTest (e.tokens ++ rest) := by
  obtain ⟨more, hmore⟩ := e.tokens_eq_first_cons
  have hcont := e.first_continues
  rw [hmore, List.cons_append]
  cases hfirst : e.first with
  | word w =>
    have hw : w ≠ "not" := fun hw => h (hw ▸ hfirst)
    rw [readCondition, if_neg hw]
  | text s => rfl
  | mark m =>
    rw [hfirst] at hcont
    cases m <;> first | rfl | exact absurd hcont (by decide)

theorem readCondition_tokens {c : Condition} (h : c.Clear) {rest : List Token} (hrest : Stops rest)
    (hequal : ∀ ts, rest ≠ .mark .equal :: ts) :
    readCondition (c.tokens ++ rest) = some (c, rest) := by
  induction c generalizing rest with
  | holds e =>
    rw [Condition.tokens, readCondition_eq_readTest h, readTest, readExpr_tokens e hrest]
    cases rest with
    | nil => rfl
    | cons t ts =>
      cases t with
      | mark m => cases m <;> first | rfl | exact absurd rfl (hequal ts)
      | _ => rfl
  | fails e =>
    rw [Condition.tokens, List.cons_append, readCondition, if_pos rfl, readExpr_tokens e hrest]
    rfl
  | equal a b =>
    have hmark : Begins (.mark .equal :: (b.tokens ++ rest)) := ⟨_, _, rfl, rfl⟩
    rw [Condition.tokens, List.append_assoc, List.cons_append, readCondition_eq_readTest h,
      readTest, readExpr_tokens a hmark.stops]
    simp [readExpr_tokens b hrest]
  | group c ih =>
    have hparen : Begins (.mark .closeParen :: rest) := ⟨_, _, rfl, rfl⟩
    rw [Condition.tokens, List.append_assoc, List.cons_append, readCondition, List.cons_append,
      List.nil_append, ih h hparen.stops (by simp)]

/-! ## Blocks and branches -/

/-- Reads a simple statement of a block, unless the block ends here. -/
def readInner : List Token → Option (Simple × List Token)
  | .word w :: rest => if w ∈ closers then none else readSimple (.word w :: rest)
  | ts => readSimple ts

/-- Reads a block. -/
def readBlock (ts : List Token) : List Simple × List Token := many readInner ts

/-- The block ends here. -/
def Closes (ts : List Token) : Prop := ∃ w rest, ts = .word w :: rest ∧ w ∈ closers

theorem Closes.stops {ts : List Token} (h : Closes ts) : Stops ts := by
  obtain ⟨w, rest, rfl, -⟩ := h
  exact (begins_word w rest).stops

theorem Closes.readInner_eq_none {ts : List Token} (h : Closes ts) : readInner ts = none := by
  obtain ⟨w, rest, rfl, hw⟩ := h
  exact if_pos hw

/-- The statement can stand in a block. -/
def Simple.Inner : Simple → Prop
  | .assign x _ => x ∉ keywords
  | s => s.Clear

theorem Simple.Inner.clear {s : Simple} (h : s.Inner) : s.Clear := by
  cases s with
  | assign x e => trivial
  | _ => exact h

theorem not_mem_closers {w : String} (h : w ∉ keywords) : w ∉ closers :=
  fun hw => h (List.mem_append_left _ hw)

theorem Simple.Inner.reads {s : Simple} (h : s.Inner) : Reads Stops readInner s.tokens s where
  ne_nil := s.begins.ne_nil
  follows rest := (s.begins.append rest).stops
  read_append rest hrest := by
    have hread := (Simple.reads h.clear).read_append rest hrest
    cases s with
    | skip => rfl
    | declare x e => exact hread
    | give e => exact hread
    | assign x e =>
      rw [Simple.tokens, List.cons_append] at hread ⊢
      rw [readInner, if_neg (not_mem_closers h), hread]
    | perform e =>
      obtain ⟨w, more, hmore, hkey⟩ := Simple.Clear.tokens_eq_word_cons h
      rw [Simple.tokens, hmore, List.cons_append] at hread ⊢
      rw [readInner, if_neg (not_mem_closers hkey), hread]

theorem readBlock_tokens {body : List Simple} (h : ∀ s ∈ body, s.Inner) {rest : List Token}
    (hrest : Closes rest) : readBlock (body.flatMap Simple.tokens ++ rest) = (body, rest) :=
  many_flatMap (fun s hs => (h s hs).reads) hrest.stops hrest.readInner_eq_none

/-- A block with the condition on which it runs. -/
structure Branch where
  /-- The condition. -/
  condition : Condition
  /-- The block. -/
  body : List Simple
  deriving Repr

/-- The tokens of a branch that begins with the word `keyword`. -/
def Branch.tokens (keyword : String) (b : Branch) : List Token :=
  .word keyword :: (b.condition.tokens ++ .word "then" :: b.body.flatMap Simple.tokens)

/-- Reads a branch that begins with the word `keyword`. -/
def readBranch (keyword : String) (ts : List Token) : Option (Branch × List Token) := do
  let ts ← expect keyword ts
  let (condition, ts) ← readCondition ts
  let ts ← expect "then" ts
  return (⟨condition, (readBlock ts).1⟩, (readBlock ts).2)

/-- The branch is read without ambiguity. -/
structure Branch.Clear (b : Branch) : Prop where
  /-- Its condition is. -/
  condition : b.condition.Clear
  /-- Its block is. -/
  body : ∀ s ∈ b.body, s.Inner

theorem Branch.read_append {b : Branch} (h : b.Clear) (keyword : String) {rest : List Token}
    (hrest : Closes rest) : readBranch keyword (b.tokens keyword ++ rest) = some (b, rest) := by
  have hthen : readCondition (b.condition.tokens ++
      .word "then" :: (b.body.flatMap Simple.tokens ++ rest)) =
      some (b.condition, .word "then" :: (b.body.flatMap Simple.tokens ++ rest)) :=
    readCondition_tokens h.condition (begins_word _ _).stops (by simp)
  simp only [readBranch, Branch.tokens, List.cons_append, List.append_assoc, expect_word_cons,
    Option.bind_eq_bind, Option.bind_some, hthen, readBlock_tokens h.body hrest]
  rfl

theorem Branch.Clear.reads {b : Branch} (h : b.Clear) :
    Reads Closes (readBranch "elseif") (b.tokens "elseif") b where
  ne_nil := List.cons_ne_nil _ _
  follows _ := ⟨"elseif", _, rfl, by decide⟩
  read_append _ hrest := Branch.read_append h "elseif" hrest

end Dialogue.Lua
