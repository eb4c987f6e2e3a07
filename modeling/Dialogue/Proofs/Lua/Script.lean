import Dialogue.Proofs.Lua.Statement

/-!
# Scripts in Lua

A script is a list of items: simple statements and the definitions of methods. The body of a method
may choose between blocks of simple statements.

Results:
* `Statement.Clear.reads`, `Item.Clear.reads`: each form is read back from its tokens.
* **`readItems_tokens`**: a script is read back from its tokens.
-/

namespace Dialogue.Lua

/-! ## Statements -/

/-- A statement of a body. -/
inductive Statement where
  /-- A simple statement. -/
  | simple (s : Simple)
  /-- The first branch whose condition is true runs, or else `default`. -/
  | choose (first : Branch) (others : List Branch) (default : Option (List Simple))
  deriving Repr

/-- The tokens of the branch without condition. -/
def defaultTokens : Option (List Simple) → List Token
  | none => []
  | some body => .word "else" :: body.flatMap Simple.tokens

/-- The tokens of a statement. -/
def Statement.tokens : Statement → List Token
  | .simple s => s.tokens
  | .choose first others default =>
    first.tokens "if" ++ others.flatMap (Branch.tokens "elseif") ++ defaultTokens default ++
      [.word "end"]

/-- Reads the branch without condition, if there is one. -/
def readDefault (ts : List Token) : Option (List Simple) × List Token :=
  match expect "else" ts with
  | none => (none, ts)
  | some ts => (some (readBlock ts).1, (readBlock ts).2)

/-- Reads a choice. -/
def readChoice (ts : List Token) : Option (Statement × List Token) := do
  let (first, ts) ← readBranch "if" ts
  let (others, ts) := many (readBranch "elseif") ts
  let (default, ts) := readDefault ts
  let ts ← expect "end" ts
  return (.choose first others default, ts)

/-- Reads a statement of a body. -/
def readStatement : List Token → Option (Statement × List Token)
  | .word w :: ts =>
    if w = "if" then readChoice (.word w :: ts)
    else (readInner (.word w :: ts)).map fun r => (.simple r.1, r.2)
  | ts => (readInner ts).map fun r => (.simple r.1, r.2)

/-- The statement is read without ambiguity. -/
def Statement.Clear : Statement → Prop
  | .simple s => s.Inner
  | .choose first others default =>
    first.Clear ∧ (∀ b ∈ others, b.Clear) ∧ ∀ body ∈ default, ∀ s ∈ body, s.Inner

theorem closes_end (rest : List Token) : Closes (.word "end" :: rest) :=
  ⟨"end", rest, rfl, by decide⟩

theorem closes_defaultTokens (default : Option (List Simple)) (rest : List Token) :
    Closes (defaultTokens default ++ .word "end" :: rest) := by
  cases default with
  | none => exact closes_end rest
  | some body => exact ⟨"else", _, rfl, by decide⟩

theorem readDefault_tokens {default : Option (List Simple)}
    (h : ∀ body ∈ default, ∀ s ∈ body, s.Inner) (rest : List Token) :
    readDefault (defaultTokens default ++ .word "end" :: rest) =
      (default, .word "end" :: rest) := by
  cases default with
  | none => rfl
  | some body =>
    simp only [readDefault, defaultTokens, List.cons_append, expect_word_cons,
      readBlock_tokens (h body rfl) (closes_end rest)]

theorem readChoice_tokens {first : Branch} {others : List Branch} {default : Option (List Simple)}
    (h : (Statement.choose first others default).Clear) (rest : List Token) :
    readChoice ((Statement.choose first others default).tokens ++ rest) =
      some (.choose first others default, rest) := by
  obtain ⟨hfirst, hothers, hdefault⟩ := h
  have hend : Closes (defaultTokens default ++ .word "end" :: rest) :=
    closes_defaultTokens default rest
  have hmore : readBranch "elseif" (defaultTokens default ++ .word "end" :: rest) = none := by
    cases default <;> rfl
  have hreads : ∀ b ∈ others, Reads Closes (readBranch "elseif") (b.tokens "elseif") b :=
    fun b hb => (hothers b hb).reads
  simp only [readChoice, Statement.tokens, List.append_assoc, List.cons_append, List.nil_append,
    Branch.read_append hfirst "if" (follow_flatMap hreads hend), Option.bind_eq_bind, Option.bind_some,
    many_flatMap hreads hend hmore, readDefault_tokens hdefault,
    expect_word_cons]
  rfl

theorem readStatement_simple {s : Simple} (h : s.Inner) (rest : List Token) :
    readStatement (s.tokens ++ rest) =
      (readInner (s.tokens ++ rest)).map fun r => (.simple r.1, r.2) := by
  cases s with
  | skip => rfl
  | declare x e => rfl
  | give e => rfl
  | assign x e =>
    have hx : x ≠ "if" := by
      rintro rfl
      exact h (by decide)
    exact if_neg hx
  | perform e =>
    obtain ⟨w, more, hmore, hkey⟩ := Simple.Clear.tokens_eq_word_cons h
    have hx : w ≠ "if" := by
      rintro rfl
      exact hkey (by decide)
    rw [Simple.tokens, hmore]
    exact if_neg hx

theorem Statement.Clear.reads {s : Statement} (h : s.Clear) :
    Reads Stops readStatement s.tokens s := by
  cases s with
  | simple s =>
    have hs : Reads Stops readInner s.tokens s := Simple.Inner.reads h
    refine ⟨hs.ne_nil, hs.follows, fun rest hrest => ?_⟩
    rw [Statement.tokens, readStatement_simple h, hs.read_append rest hrest]
    rfl
  | choose first others default =>
    refine ⟨List.cons_ne_nil _ _, fun rest => (begins_word "if" _).stops, fun rest _ => ?_⟩
    exact readChoice_tokens h rest

/-! ## Scripts -/

/-- A part of a script. -/
inductive Item where
  /-- A simple statement. -/
  | simple (s : Simple)
  /-- `function object:name(parameters) body end` -/
  | method (object name : String) (parameters : List String) (body : List Statement)
  deriving Repr

/-- The tokens of a part of a script. -/
def Item.tokens : Item → List Token
  | .simple s => s.tokens
  | .method object name parameters body =>
    .word "function" :: ((Expr.call (.word object) (some name) (parameters.map .word)).tokens ++
      (body.flatMap Statement.tokens ++ [.word "end"]))

/-- The word that an expression is. -/
def Expr.word? : Expr → Option String
  | .word w => some w
  | _ => none

/-- Reads the definition of a method after the word `function`; its head looks like a call. -/
def readMethod (ts : List Token) : Option (Item × List Token) := do
  let (head, ts) ← readExpr ts
  match head with
  | .call (.word object) (some name) args =>
    let parameters ← args.mapM Expr.word?
    let (body, ts) := many readStatement ts
    let ts ← expect "end" ts
    return (.method object name parameters body, ts)
  | _ => none

/-- Reads a part of a script. -/
def readItem : List Token → Option (Item × List Token)
  | .word w :: .word v :: ts =>
    if w = "function" then readMethod (.word v :: ts)
    else (readSimple (.word w :: .word v :: ts)).map fun r => (.simple r.1, r.2)
  | ts => (readSimple ts).map fun r => (.simple r.1, r.2)

/-- The part of a script is read without ambiguity. -/
def Item.Clear : Item → Prop
  | .simple s => s.Clear
  | .method _ _ _ body => ∀ s ∈ body, s.Clear

/-- Reads the parts of a script. -/
def readItems (ts : List Token) : Option (List Item) :=
  match many readItem ts with
  | (items, []) => some items
  | _ => none

/-- Reads a script. -/
def readScript (source : String) : Option (List Item) := (lex source).bind readItems

theorem mapM_word?_map_word (ws : List String) : (ws.map Expr.word).mapM Expr.word? = some ws := by
  induction ws with
  | nil => rfl
  | cons w ws ih => simp [Expr.word?, ih]

theorem readMethod_tokens {object name : String} {parameters : List String}
    {body : List Statement} (h : ∀ s ∈ body, s.Clear) (rest : List Token) :
    readMethod ((Expr.call (.word object) (some name) (parameters.map .word)).tokens ++
        (body.flatMap Statement.tokens ++ .word "end" :: rest)) =
      some (.method object name parameters body, rest) := by
  have hend : Stops (.word "end" :: rest) := (begins_word "end" rest).stops
  have hreads : ∀ s ∈ body, Reads Stops readStatement s.tokens s := fun s hs => (h s hs).reads
  simp only [readMethod, readExpr_tokens _ (follow_flatMap hreads hend), Option.bind_eq_bind,
    Option.bind_some, mapM_word?_map_word, many_flatMap hreads hend rfl, expect_word_cons]
  rfl

theorem readItem_simple {s : Simple} (h : s.Clear) (rest : List Token) :
    readItem (s.tokens ++ rest) =
      (readSimple (s.tokens ++ rest)).map fun r => (.simple r.1, r.2) := by
  have hword : ∀ (w : String) (ts : List Token), w ≠ "function" →
      readItem (.word w :: ts) = (readSimple (.word w :: ts)).map fun r => (.simple r.1, r.2) := by
    intro w ts hw
    match ts with
    | [] => rfl
    | .word v :: ts => exact if_neg hw
    | .text _ :: ts => rfl
    | .mark _ :: ts => rfl
  cases s with
  | skip => rfl
  | declare x e => exact hword "local" _ (by decide)
  | give e => exact hword "return" _ (by decide)
  | assign x e => rfl
  | perform e =>
    obtain ⟨w, more, hmore, hkey⟩ := h.tokens_eq_word_cons
    rw [Simple.tokens, hmore]
    refine hword w _ ?_
    rintro rfl
    exact hkey (by decide)

theorem Item.Clear.reads {i : Item} (h : i.Clear) : Reads Stops readItem i.tokens i := by
  cases i with
  | simple s =>
    have hs : Reads Stops readSimple s.tokens s := Simple.reads h
    refine ⟨hs.ne_nil, hs.follows, fun rest hrest => ?_⟩
    rw [Item.tokens, readItem_simple h, hs.read_append rest hrest]
    rfl
  | method object name parameters body =>
    refine ⟨List.cons_ne_nil _ _, fun rest => (begins_word "function" _).stops, fun rest _ => ?_⟩
    have assoc : (Item.method object name parameters body).tokens ++ rest =
        .word "function" ::
          ((Expr.call (.word object) (some name) (parameters.map .word)).tokens ++
            (body.flatMap Statement.tokens ++ .word "end" :: rest)) := by
      simp only [Item.tokens, List.cons_append, List.append_assoc, List.nil_append]
    rw [assoc]
    exact readMethod_tokens h rest

/-- **A script is read back from its tokens.** -/
theorem readItems_tokens {items : List Item} (h : ∀ i ∈ items, i.Clear) :
    readItems (items.flatMap Item.tokens) = some items := by
  have := many_flatMap (fun i hi => (h i hi).reads) stops_nil rfl
  rw [List.append_nil] at this
  rw [readItems, this]

end Dialogue.Lua
