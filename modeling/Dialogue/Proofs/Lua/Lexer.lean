import Dialogue.Lua.Literal
import Dialogue.Text.Lines

/-!
# Tokens of Lua source

A reader of the part of Lua in which scripts are written. It goes through the source once, a
character at a time: `step` says what one character adds and which `Mode` it leaves, `run` follows a
source. A word is a longest run of ASCII letters, digits and underscores, so names, keywords and
numbers are all words. A string literal is closed by its first quotation mark without a backslash,
holds no line break, and knows the escapes of one letter. A comment ends with its line; a comment
over several lines, a minus sign and any other character outside the language are rejected.

Results:
* `run_append`: a source is read piece by piece.
* **`lexes_quotedChars`**: a quoted text is read as that text, whatever it holds.
* **`lexes_flatten`**: a text in a comment leaves nothing behind, whatever it holds.
* `Lexes.unlines`: the tokens of a text are those of its lines.
-/

namespace Dialogue.Lua

/-- A sign that stands for itself. -/
inductive Mark where
  | assign | equal | dot | colon | comma | semicolon
  | openParen | closeParen | openBrace | closeBrace
  deriving DecidableEq, Repr

/-- A token. -/
inductive Token where
  /-- A name, a keyword or a number. -/
  | word (w : String)
  /-- A string literal, by its text. -/
  | text (s : String)
  /-- A sign. -/
  | mark (m : Mark)
  deriving DecidableEq, Repr

/-- What the reader is in the middle of. -/
inductive Mode where
  /-- Between two tokens. -/
  | ready
  /-- In a word, of which it has seen the beginning. -/
  | word (seen : List Char)
  /-- In a string literal, of which it has seen the beginning. -/
  | text (seen : List Char)
  /-- In a string literal, after a backslash. -/
  | escape (seen : List Char)
  /-- After one equals sign. -/
  | equals
  /-- After one hyphen. -/
  | hyphen
  /-- After two hyphens. -/
  | hyphens
  /-- In a comment. -/
  | comment
  deriving DecidableEq, Repr

/-! ## One character -/

/-- A character that separates tokens. -/
def isSpace (c : Char) : Bool := c == ' ' || c == '\t' || isLineBreak c

/-- A character of a word. -/
def isWordChar (c : Char) : Bool := c.isAlphanum || c == '_'

/-- The sign that a character is by itself. -/
def markOf (c : Char) : Option Mark :=
  if c = '.' then some .dot
  else if c = ':' then some .colon
  else if c = ',' then some .comma
  else if c = ';' then some .semicolon
  else if c = '(' then some .openParen
  else if c = ')' then some .closeParen
  else if c = '\x7b' then some .openBrace
  else if c = '\x7d' then some .closeBrace
  else none

/-- The character that a letter after a backslash stands for. -/
def unescape (c : Char) : Option Char :=
  if c = '\\' ∨ c = '"' ∨ c = '\'' then some c
  else if c = 'n' then some '\n'
  else if c = 'r' then some '\r'
  else if c = 't' then some '\t'
  else if c = 'a' then some '\x07'
  else if c = 'b' then some '\x08'
  else if c = 'f' then some '\x0c'
  else if c = 'v' then some '\x0b'
  else none

/-- A character between two tokens. -/
def enter (c : Char) : Option (List Token × Mode) :=
  if isSpace c then some ([], .ready)
  else if isWordChar c then some ([], .word [c])
  else if c = '"' then some ([], .text [])
  else if c = '=' then some ([], .equals)
  else if c = '-' then some ([], .hyphen)
  else (markOf c).map fun m => ([.mark m], .ready)

/-- What one character adds, and what the reader is in the middle of afterwards. -/
def step : Mode → Char → Option (List Token × Mode)
  | .ready, c => enter c
  | .word seen, c =>
    if isWordChar c then some ([], .word (seen ++ [c]))
    else (enter c).map fun r => (.word (String.ofList seen) :: r.1, r.2)
  | .text seen, c =>
    if c = '"' then some ([.text (String.ofList seen)], .ready)
    else if c = '\\' then some ([], .escape seen)
    else if isLineBreak c then none
    else some ([], .text (seen ++ [c]))
  | .escape seen, c => (unescape c).map fun d => ([], .text (seen ++ [d]))
  | .equals, c =>
    if c = '=' then some ([.mark .equal], .ready)
    else (enter c).map fun r => (.mark .assign :: r.1, r.2)
  | .hyphen, c => if c = '-' then some ([], .hyphens) else none
  | .hyphens, c =>
    if c = '[' then none
    else some ([], if isLineBreak c then .ready else .comment)
  | .comment, c => some ([], if isLineBreak c then .ready else .comment)

/-- What the end of the source adds. -/
def finish : Mode → Option (List Token)
  | .ready | .hyphens | .comment => some []
  | .word seen => some [.word (String.ofList seen)]
  | .equals => some [.mark .assign]
  | .text _ | .escape _ | .hyphen => none

/-! ## A source -/

/-- What a piece of source adds, and what the reader is in the middle of afterwards. -/
def run : Mode → List Char → Option (List Token × Mode)
  | m, [] => some ([], m)
  | m, c :: rest => do
    let (here, m) ← step m c
    let (later, m) ← run m rest
    return (here ++ later, m)

/-- The tokens of a source. -/
def lex (source : String) : Option (List Token) := do
  let (tokens, m) ← run .ready source.toList
  let last ← finish m
  return tokens ++ last

/-- In the mode `m`, the piece of source `cs` adds `ts` and leaves the mode `m'`. -/
def Lexes (m : Mode) (cs : List Char) (ts : List Token) (m' : Mode) : Prop :=
  run m cs = some (ts, m')

instance (m : Mode) (cs : List Char) (ts : List Token) (m' : Mode) : Decidable (Lexes m cs ts m') :=
  inferInstanceAs (Decidable (run m cs = some (ts, m')))

variable {m m₁ m₂ : Mode} {cs cs₁ cs₂ : List Char} {ts ts₁ ts₂ : List Token}

theorem Lexes.nil (m : Mode) : Lexes m [] [] m := rfl

theorem Lexes.cons {c : Char} (h : step m c = some (ts₁, m₁)) (later : Lexes m₁ cs ts₂ m₂) :
    Lexes m (c :: cs) (ts₁ ++ ts₂) m₂ := by
  unfold Lexes at later ⊢
  rw [run, h]
  simp [later]

/-- A character that adds nothing. -/
theorem Lexes.cons_nil {c : Char} (h : step m c = some ([], m₁)) (later : Lexes m₁ cs ts m₂) :
    Lexes m (c :: cs) ts m₂ :=
  Lexes.cons h later

/-- A source is read piece by piece. -/
theorem run_append (m : Mode) (before after : List Char) :
    run m (before ++ after) =
      (run m before).bind fun b => (run b.2 after).map fun a => (b.1 ++ a.1, a.2) := by
  induction before generalizing m with
  | nil => simp [run]
  | cons c before ih =>
    rw [List.cons_append, run, run]
    cases step m c with
    | none => rfl
    | some here =>
      obtain ⟨here, m⟩ := here
      simp only [bind, pure, Option.bind_some, ih]
      cases run m before with
      | none => rfl
      | some b =>
        simp only [Option.bind_some]
        cases run b.2 after with
        | none => rfl
        | some a => simp

theorem Lexes.append (before : Lexes m cs₁ ts₁ m₁) (after : Lexes m₁ cs₂ ts₂ m₂) :
    Lexes m (cs₁ ++ cs₂) (ts₁ ++ ts₂) m₂ := by
  unfold Lexes at before after ⊢
  rw [run_append, before, Option.bind_some, after]
  rfl

theorem lex_eq (source : String) (h : Lexes .ready source.toList ts .ready) :
    lex source = some ts := by
  unfold Lexes at h
  rw [lex, h]
  simp [finish]

/-! ## Words -/

/-- A text of letters, digits and underscores. -/
def isWordText (s : String) : Bool := s.toList.all isWordChar

/-- A text that is a word. -/
structure IsWord (w : String) : Prop where
  /-- It is not empty. -/
  ne_empty : w ≠ ""
  /-- It consists of letters, digits and underscores. -/
  text : isWordText w = true

instance (w : String) : Decidable (IsWord w) :=
  decidable_of_iff (w ≠ "" ∧ isWordText w = true) ⟨fun h => ⟨h.1, h.2⟩, fun h => ⟨h.1, h.2⟩⟩

theorem IsWord.isWordChar {w : String} (h : IsWord w) : ∀ c ∈ w.toList, isWordChar c = true :=
  List.all_eq_true.mp h.text

theorem IsWord.append {v w : String} (hv : IsWord v) (hw : isWordText w = true) :
    IsWord (v ++ w) where
  ne_empty h := hv.ne_empty (String.append_eq_empty_iff.mp h).1
  text := by
    rw [isWordText, String.toList_append, List.all_append, Bool.and_eq_true]
    exact ⟨hv.text, hw⟩

theorem toNat_lt_of_isWordChar {c : Char} (h : isWordChar c = true) : c.toNat < 0x80 := by
  rw [isWordChar, Bool.or_eq_true, beq_iff_eq] at h
  rcases h with h | rfl
  · unfold Char.isAlphanum Char.isAlpha Char.isUpper Char.isLower Char.isDigit at h
    simp only [Bool.or_eq_true, Bool.and_eq_true, decide_eq_true_eq, UInt32.le_iff_toNat_le,
      ge_iff_le] at h
    have toNat : c.toNat = c.val.toNat := rfl
    have upper : 'Z'.val.toNat = 90 := rfl
    have lower : 'z'.val.toNat = 122 := rfl
    have digit : '9'.val.toNat = 57 := rfl
    omega
  · decide

theorem isSpace_of_isWordChar {c : Char} (h : isWordChar c = true) : isSpace c = false := by
  rcases hc : isSpace c with _ | _
  · rfl
  · simp only [isSpace, isLineBreak, Bool.or_eq_true, beq_iff_eq] at hc
    rcases hc with (rfl | rfl) | (rfl | rfl) <;> exact absurd h (by decide)

theorem enter_of_isWordChar {c : Char} (h : isWordChar c = true) :
    enter c = some ([], .word [c]) := by
  simp [enter, h, isSpace_of_isWordChar h]

theorem lexes_word_of_seen (seen : List Char) (h : ∀ c ∈ cs, isWordChar c = true) :
    Lexes (.word seen) cs [] (.word (seen ++ cs)) := by
  induction cs generalizing seen with
  | nil => simpa using Lexes.nil (.word seen)
  | cons c cs ih =>
    have hc : isWordChar c = true := h c List.mem_cons_self
    have here : step (.word seen) c = some ([], .word (seen ++ [c])) := by simp [step, hc]
    have later := ih (seen ++ [c]) fun d hd => h d (List.mem_cons_of_mem c hd)
    rw [List.append_assoc] at later
    exact Lexes.cons_nil here later

/-- A word is read up to its end, which the next character decides. -/
theorem lexes_word {w : String} (h : IsWord w) : Lexes .ready w.toList [] (.word w.toList) := by
  cases hw : w.toList with
  | nil => exact absurd (String.toList_eq_nil_iff.mp hw) h.ne_empty
  | cons c cs =>
    have hcs : ∀ d ∈ c :: cs, isWordChar d = true := hw ▸ h.isWordChar
    have here : step .ready c = some ([], .word [c]) :=
      enter_of_isWordChar (hcs c List.mem_cons_self)
    refine Lexes.cons_nil here ?_
    exact lexes_word_of_seen [c] fun d hd => hcs d (List.mem_cons_of_mem c hd)

/-- A word does not go on here. -/
def endsWord : List Char → Bool
  | [] => false
  | c :: _ => ! isWordChar c

/-- A word, and what follows it. -/
theorem lexes_word_append {w : String} (h : IsWord w) (hend : endsWord cs = true)
    (later : Lexes .ready cs ts m) : Lexes .ready (w.toList ++ cs) (.word w :: ts) m := by
  have after : Lexes (.word w.toList) cs (.word w :: ts) m := by
    cases cs with
    | nil => exact absurd hend Bool.false_ne_true
    | cons c cs =>
      have hc : isWordChar c = false := by simpa [endsWord] using hend
      unfold Lexes at later ⊢
      rw [run] at later ⊢
      simp only [step, hc, Bool.false_eq_true, if_false, String.ofList_toList] at later ⊢
      cases he : enter c with
      | none => simp [he] at later
      | some r =>
        cases hr : run r.2 cs with
        | none => simp [he, hr] at later
        | some q =>
          simp only [he, hr, Option.bind_eq_bind, Option.bind_some, pure, Option.some.injEq,
            Prod.mk.injEq] at later
          simp [hr, ← later.1, ← later.2]
  exact Lexes.append (lexes_word h) after

/-- A word made of a name and a fixed ending, where the ending stands in a literal with what
follows it. -/
theorem lexes_variable {name ending literal rest : String} (h : IsWord (name ++ ending))
    (hliteral : literal = ending ++ rest) (hend : endsWord (rest.toList ++ cs) = true)
    (later : Lexes .ready (rest.toList ++ cs) ts m) :
    Lexes .ready (name.toList ++ (literal.toList ++ cs)) (.word (name ++ ending) :: ts) m := by
  have assoc : name.toList ++ (literal.toList ++ cs) =
      (name ++ ending).toList ++ (rest.toList ++ cs) := by
    rw [hliteral]
    simp only [String.toList_append, List.append_assoc]
  rw [assoc]
  exact lexes_word_append h hend later

/-! ## Texts -/

/-- A character inside a literal is read back from its escaped form. -/
theorem lexes_escape (seen : List Char) (c : Char) :
    Lexes (.text seen) (escape c) [] (.text (seen ++ [c])) := by
  unfold escape
  split
  · rename_i h
    rcases h with rfl | rfl <;> rfl
  · rename_i h
    split
    · subst c
      rfl
    · split
      · subst c
        rfl
      · rename_i hn hr
        have hc : isLineBreak c = false := by simp [isLineBreak, hn, hr]
        have : step (.text seen) c = some ([], .text (seen ++ [c])) := by
          simp only [not_or] at h
          simp [step, h, hc]
        exact Lexes.cons_nil this (Lexes.nil _)

theorem lexes_flatMap_escape (seen cs : List Char) :
    Lexes (.text seen) (cs.flatMap escape) [] (.text (seen ++ cs)) := by
  induction cs generalizing seen with
  | nil => simpa using Lexes.nil (.text seen)
  | cons c cs ih =>
    have later := ih (seen ++ [c])
    rw [List.append_assoc] at later
    exact Lexes.append (lexes_escape seen c) later

/-- **A quoted text is read as that text**, whatever it holds. -/
theorem lexes_quotedChars (cs : List Char) :
    Lexes .ready (quotedChars cs) [.text (String.ofList cs)] .ready := by
  have opening : step .ready '"' = some ([], .text []) := by decide
  have closing : Lexes (.text cs) ['"'] [.text (String.ofList cs)] .ready := rfl
  exact Lexes.cons_nil opening (Lexes.append (lexes_flatMap_escape [] cs) closing)

theorem lexes_quoted (s : String) : Lexes .ready (quoted s).toList [.text s] .ready := by
  have := lexes_quotedChars s.toList
  rwa [String.ofList_toList, ← toList_quoted] at this

theorem lexes_comment_of_forall (h : ∀ c ∈ cs, isLineBreak c = false) :
    Lexes .comment cs [] .comment := by
  induction cs with
  | nil => exact Lexes.nil .comment
  | cons c cs ih =>
    have hc : isLineBreak c = false := h c List.mem_cons_self
    have here : step .comment c = some ([], .comment) := by simp [step, hc]
    exact Lexes.cons_nil here (ih fun d hd => h d (List.mem_cons_of_mem c hd))

/-- **A text in a comment leaves nothing behind**, whatever it holds. -/
theorem lexes_flatten (cs : List Char) : Lexes .comment (flatten cs) [] .comment :=
  lexes_comment_of_forall (lineBreak_not_mem_flatten cs)

theorem lexes_comment (s : String) : Lexes .comment (comment s).toList [] .comment := by
  rw [toList_comment]
  exact lexes_flatten s.toList

/-! ## Lines -/

/-- A line that stands for the tokens `ts`. -/
def LexesLine (line : String) (ts : List Token) : Prop :=
  Lexes .ready (line.toList ++ ['\n']) ts .ready

instance (line : String) (ts : List Token) : Decidable (LexesLine line ts) :=
  inferInstanceAs (Decidable (Lexes .ready (line.toList ++ ['\n']) ts .ready))

theorem LexesLine.of_ready {line : String} (h : Lexes .ready line.toList ts .ready) :
    LexesLine line ts := by
  have ending : Lexes .ready ['\n'] [] .ready := rfl
  have := Lexes.append h ending
  rwa [List.append_nil] at this

theorem LexesLine.of_comment {line : String} (h : Lexes .ready line.toList ts .comment) :
    LexesLine line ts := by
  have ending : Lexes .comment ['\n'] [] .ready := rfl
  have := Lexes.append h ending
  rwa [List.append_nil] at this

theorem lexesLine_empty : LexesLine "" [] := rfl

/-- A line with a quoted text in it. -/
theorem lexesLine_quoted (before s after : String)
    (hb : Lexes .ready before.toList ts₁ .ready) (ha : Lexes .ready after.toList ts₂ .ready) :
    LexesLine (before ++ quoted s ++ after) (ts₁ ++ .text s :: ts₂) := by
  refine LexesLine.of_ready ?_
  rw [String.toList_append, String.toList_append]
  have := Lexes.append (Lexes.append hb (lexes_quoted s)) ha
  rwa [List.append_assoc ts₁] at this

/-- A line that gives a field of a table its text. -/
theorem lexesLine_field (before : String) {key : String} (s : String)
    (h : Lexes .ready before.toList [.word key, .mark .assign] .ready) :
    LexesLine (before ++ quoted s ++ ",") [.word key, .mark .assign, .text s, .mark .comma] :=
  lexesLine_quoted before s "," h (by decide +kernel : Lexes .ready _ [.mark .comma] .ready)

/-- The lines stand for the tokens `ts`. -/
def LexesLines (lines : List String) (ts : List Token) : Prop :=
  Lexes .ready (Text.unlines lines).toList ts .ready

instance (lines : List String) (ts : List Token) : Decidable (LexesLines lines ts) :=
  inferInstanceAs (Decidable (Lexes .ready (Text.unlines lines).toList ts .ready))

theorem LexesLines.of_eq {lines : List String} (h : LexesLines lines ts₁) (e : ts₂ = ts₁) :
    LexesLines lines ts₂ := e ▸ h

theorem LexesLines.nil : LexesLines [] [] := rfl

theorem LexesLines.append {before after : List String} (hb : LexesLines before ts₁)
    (ha : LexesLines after ts₂) : LexesLines (before ++ after) (ts₁ ++ ts₂) := by
  unfold LexesLines at hb ha ⊢
  rw [Text.unlines_append, String.toList_append]
  exact Lexes.append hb ha

theorem LexesLines.cons {line : String} {lines : List String} (h : LexesLine line ts₁)
    (hs : LexesLines lines ts₂) : LexesLines (line :: lines) (ts₁ ++ ts₂) := by
  unfold LexesLines at hs ⊢
  rw [Text.toList_unlines] at hs ⊢
  exact Lexes.append h hs

theorem LexesLines.flatMap {α : Type} {as : List α} {lines : α → List String}
    {tokens : α → List Token} (h : ∀ a ∈ as, LexesLines (lines a) (tokens a)) :
    LexesLines (as.flatMap lines) (as.flatMap tokens) := by
  induction as with
  | nil => exact LexesLines.nil
  | cons a as ih =>
    rw [List.flatMap_cons, List.flatMap_cons]
    exact LexesLines.append (h a List.mem_cons_self)
      (ih fun b hb => h b (List.mem_cons_of_mem a hb))

end Dialogue.Lua
