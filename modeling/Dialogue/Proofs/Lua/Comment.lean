import Dialogue.Lua.Literal

/-!
# Comments of Lua source

A comment begins at the first two hyphens that are not inside a string literal, and goes on to the
end of the line. To find it, a reader need not know the tokens of the line: it only keeps track of
the string literals.

* `commentOf?`: the comment of a line.
* `codeOf`: the line without it.

Results:
* `comment?_append`: a piece of source without a comment is passed over.
* `passes_quoted`: a quoted text is such a piece, whatever it holds.
* `commentOf?_append`, `commentOf?_of_passes`: the comment that is added to such a piece is found,
  and if none is added, none is found.
* `codeOf_append_comment`: a line is its code, two hyphens, and its comment.
* `codeOf_append`: the code in front of a comment that was added is such a piece.
-/

namespace Dialogue.Lua

/-- Where in a line the reader is. -/
inductive Place where
  /-- Outside of string literals. -/
  | code
  /-- Outside of string literals, after a hyphen. -/
  | hyphen
  /-- In a string literal, which ends at the next such quotation mark. -/
  | text (quote : Char)
  /-- In a string literal, after a backslash. -/
  | escape (quote : Char)
  deriving DecidableEq, Repr

/-- A character with which a string literal begins. -/
def isQuote (c : Char) : Bool := c == '"' || c == '\''

/-- Where one character leads; nowhere if a comment begins behind it. -/
def Place.next : Place → Char → Option Place
  | .code, c => some (if isQuote c then .text c else if c = '-' then .hyphen else .code)
  | .hyphen, c => if c = '-' then none else some (if isQuote c then .text c else .code)
  | .text quote, c =>
    some (if c = quote then .code else if c = '\\' then .escape quote else .text quote)
  | .escape quote, _ => some (.text quote)

/-- What follows the two hyphens of the first comment. -/
def comment? : Place → List Char → Option (List Char)
  | _, [] => none
  | p, c :: cs =>
    match p.next c with
    | none => some cs
    | some q => comment? q cs

/-- What follows the two hyphens of the first comment of a line. -/
def commentOf? (line : String) : Option String :=
  (comment? .code line.toList).map String.ofList

/-- A line without its first comment. -/
def codeOf (line : String) : String :=
  match comment? .code line.toList with
  | none => line
  | some rest => String.ofList (line.toList.take (line.toList.length - (rest.length + 2)))

/-- The piece of source `cs` leads from `p` to `q`, and no comment begins in it. -/
def Passes (p : Place) (cs : List Char) (q : Place) : Prop := cs.foldlM Place.next p = some q

instance (p : Place) (cs : List Char) (q : Place) : Decidable (Passes p cs q) :=
  inferInstanceAs (Decidable (cs.foldlM Place.next p = some q))

variable {p q r : Place} {cs before after rest : List Char}

theorem Passes.cons {c : Char} (h : p.next c = some q) (later : Passes q cs r) :
    Passes p (c :: cs) r := by
  unfold Passes at later ⊢
  rw [List.foldlM_cons, h]
  exact later

theorem Passes.append (hb : Passes p before q) (ha : Passes q after r) :
    Passes p (before ++ after) r := by
  unfold Passes at hb ha ⊢
  rw [List.foldlM_append, hb]
  exact ha

/-- A piece of source without a comment is passed over. -/
theorem comment?_append (h : Passes p cs q) : comment? p (cs ++ rest) = comment? q rest := by
  induction cs generalizing p with
  | nil =>
    cases h
    rfl
  | cons c cs ih =>
    unfold Passes at h
    rw [List.foldlM_cons] at h
    obtain ⟨next, hnext, h⟩ := Option.bind_eq_some_iff.mp h
    rw [List.cons_append, comment?, hnext]
    exact ih h

/-- The comment that is added to a piece of source without one is found. -/
theorem comment?_of_passes (h : Passes .code cs .code) :
    comment? .code (cs ++ '-' :: '-' :: rest) = some rest := by
  rw [comment?_append h]
  rfl

/-- A line that is such a piece has no comment. -/
theorem commentOf?_of_passes {line : String} (h : Passes .code line.toList .code) :
    commentOf? line = none := by
  have passed : comment? .code (line.toList ++ []) = comment? .code [] := comment?_append h
  rw [List.append_nil] at passed
  rw [commentOf?, passed]
  rfl

/-! ## Lines without their comments -/

theorem Place.next_eq_none {c : Char} (h : p.next c = none) : p = .hyphen ∧ c = '-' := by
  cases p with
  | hyphen =>
    refine ⟨rfl, Decidable.byContradiction fun hc => ?_⟩
    simp [next, hc] at h
  | code => cases h
  | text quote => cases h
  | escape quote => cases h

theorem Place.next_eq_hyphen {c : Char} (h : p.next c = some .hyphen) : p = .code ∧ c = '-' := by
  cases p with
  | code =>
    refine ⟨rfl, Decidable.byContradiction fun hc => ?_⟩
    by_cases hq : isQuote c = true <;> simp [next, hc, hq] at h
  | hyphen =>
    by_cases hc : c = '-'
    · simp [next, hc] at h
    · by_cases hq : isQuote c = true <;> simp [next, hc, hq] at h
  | text quote =>
    simp only [next, Option.some.injEq] at h
    split at h
    · cases h
    · split at h <;> cases h
  | escape quote => cases h

/-- The hyphen that has just been passed. -/
private def Place.passed (p : Place) : List Char := if p = .hyphen then ['-'] else []

/-- A comment stands behind its two hyphens, of which the first may have been passed already. -/
theorem exists_of_comment? (h : comment? p cs = some rest) :
    ∃ before, p.passed ++ cs = before ++ '-' :: '-' :: rest := by
  induction cs generalizing p with
  | nil => cases h
  | cons c cs ih =>
    rw [comment?] at h
    cases hnext : p.next c with
    | none =>
      obtain ⟨rfl, rfl⟩ := Place.next_eq_none hnext
      rw [hnext] at h
      cases h
      exact ⟨[], rfl⟩
    | some q =>
      rw [hnext] at h
      obtain ⟨before, hbefore⟩ := ih h
      by_cases hq : q = .hyphen
      · subst hq
        obtain ⟨rfl, rfl⟩ := Place.next_eq_hyphen hnext
        exact ⟨before, hbefore⟩
      · rw [Place.passed, if_neg hq, List.nil_append] at hbefore
        exact ⟨p.passed ++ c :: before, by rw [hbefore, List.append_assoc, List.cons_append]⟩

/-- A line is its code, two hyphens, and its comment. -/
theorem codeOf_append_comment {line comment : String} (h : commentOf? line = some comment) :
    codeOf line ++ "--" ++ comment = line := by
  obtain ⟨rest, hrest, rfl⟩ := Option.map_eq_some_iff.mp h
  obtain ⟨before, hbefore⟩ := exists_of_comment? hrest
  have split : line.toList = before ++ '-' :: '-' :: rest := hbefore
  apply String.toList_injective
  rw [codeOf, hrest, split]
  simp

section

variable {before : String}

private theorem toList_append_hyphens (rest : String) :
    (before ++ "--" ++ rest).toList = before.toList ++ '-' :: '-' :: rest.toList := by
  rw [String.toList_append, String.toList_append, List.append_assoc]
  rfl

/-- What stands behind the hyphens is the comment. -/
theorem commentOf?_append (h : Passes .code before.toList .code) (rest : String) :
    commentOf? (before ++ "--" ++ rest) = some rest := by
  rw [commentOf?, toList_append_hyphens, comment?_of_passes h, Option.map_some,
    String.ofList_toList]

/-- What stands in front of them is the code. -/
theorem codeOf_append (h : Passes .code before.toList .code) (rest : String) :
    codeOf (before ++ "--" ++ rest) = before := by
  rw [codeOf, toList_append_hyphens, comment?_of_passes h]
  simp

end

/-! ## Quoted texts -/

theorem passes_escape (c : Char) : Passes (.text '"') (escape c) (.text '"') := by
  unfold escape
  split
  · rfl
  · rename_i h
    split
    · rfl
    · split
      · rfl
      · have : (Place.text '"').next c = some (.text '"') := by
          simp only [not_or] at h
          simp [Place.next, h]
        exact Passes.cons this rfl

theorem passes_flatMap_escape (cs : List Char) :
    Passes (.text '"') (cs.flatMap escape) (.text '"') := by
  induction cs with
  | nil => rfl
  | cons c cs ih => exact (passes_escape c).append ih

/-- No comment begins in a quoted text, whatever it holds. -/
theorem passes_quoted (s : String) : Passes .code (quoted s).toList .code := by
  rw [toList_quoted]
  have opening : Place.code.next '"' = some (.text '"') := rfl
  have closing : Passes (.text '"') ['"'] .code := rfl
  exact Passes.cons opening ((passes_flatMap_escape s.toList).append closing)

end Dialogue.Lua
