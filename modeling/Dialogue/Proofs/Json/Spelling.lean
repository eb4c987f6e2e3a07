import Dialogue.Json.Layout
import Dialogue.Json.Lexical

/-!
# How texts may be spelled

JSON leaves a choice in how a text is written. A character stands for itself, or an escape stands
for it: a letter for some characters, the code for any, and a surrogate pair for those beyond 16
bits.

* `Spelled`: what may stand between quotation marks for a given text.
* `IsTextBody`: what may stand between quotation marks at all. The codes need not make up a text,
  since half of a surrogate pair may stand alone.
* `Form`: the ways in which the values of a type may be written.

Results:
* **`textBody_of_spelled`**: a text is read from each of its spellings.
* **`skipText_of_isTextBody`**: what may stand between quotation marks is skipped.
* `spelled_flatMap_textChar`: layouts spell their texts.
-/

namespace Dialogue.Json

/-! ## Texts -/

/-- A hexadecimal digit with its value, in lower or upper case. -/
def IsHexDigit (c : Char) (value : Nat) : Prop :=
  value < 16 ∧ (c = Nat.digitChar value ∨ c = (Nat.digitChar value).toUpper)

instance (c : Char) (value : Nat) : Decidable (IsHexDigit c value) :=
  inferInstanceAs (Decidable (_ ∧ _))

/-- A code in four hexadecimal digits. -/
inductive IsCode : (code : Nat) → List Char → Prop
  /-- The digits from the highest to the lowest. -/
  | digits {a b c d : Char} {i j k l : Nat} (ha : IsHexDigit a i) (hb : IsHexDigit b j)
      (hc : IsHexDigit c k) (hd : IsHexDigit d l) :
    IsCode (((i * 16 + j) * 16 + k) * 16 + l) [a, b, c, d]

/-- The characters with an escape of a single letter, each behind its letter. -/
def shortEscapes : List (Char × Char) :=
  [('"', '"'), ('\\', '\\'), ('/', '/'), ('b', '\x08'), ('f', '\x0c'), ('n', '\n'), ('r', '\r'),
    ('t', '\t')]

/-- What may stand for a single code. -/
inductive IsUnit : (code : Nat) → List Char → Prop
  /-- A character that is no control character and has no other meaning. -/
  | itself {c : Char} (quote : c ≠ '"') (backslash : c ≠ '\\') (control : 0x20 ≤ c.toNat) :
    IsUnit c.toNat [c]
  /-- An escape of a single letter. -/
  | letter {l c : Char} (h : (l, c) ∈ shortEscapes) : IsUnit c.toNat ['\\', l]
  /-- An escape with the code itself. -/
  | code {code : Nat} {ds : List Char} (h : IsCode code ds) : IsUnit code ('\\' :: 'u' :: ds)

/-- What may stand for a character. -/
inductive SpelledChar (c : Char) : List Char → Prop
  /-- One unit. -/
  | unit {cs : List Char} (h : IsUnit c.toNat cs) : SpelledChar c cs
  /-- A surrogate pair. -/
  | pair {high low : Nat} {ds es : List Char} (hhigh : IsCode (0xD800 + high) ds)
      (hlow : IsCode (0xDC00 + low) es) (high_lt : high < 0x400) (low_lt : low < 0x400)
      (value : c.toNat = 0x10000 + high * 0x400 + low) :
    SpelledChar c ('\\' :: 'u' :: (ds ++ '\\' :: 'u' :: es))

/-- What may stand between quotation marks for a text. -/
inductive Spelled : (text : List Char) → List Char → Prop
  /-- Nothing, for the empty text. -/
  | nil : Spelled [] []
  /-- A spelling of the first character, then one of the others. -/
  | cons {c : Char} {text piece cs : List Char} (h : SpelledChar c piece)
      (later : Spelled text cs) :
    Spelled (c :: text) (piece ++ cs)

/-- What may stand between quotation marks at all. -/
inductive IsTextBody : List Char → Prop
  /-- Nothing. -/
  | nil : IsTextBody []
  /-- A unit in front of others. -/
  | cons {code : Nat} {piece cs : List Char} (h : IsUnit code piece) (later : IsTextBody cs) :
    IsTextBody (piece ++ cs)

/-- The ways in which the values of a type may be written. -/
abbrev Form (α : Type) := α → List Char → Prop

/-- A text is written as a spelling of it between quotation marks. -/
def Form.text : Form String := fun s cs =>
  ∃ body, Spelled s.toList body ∧ cs = '"' :: (body ++ ['"'])

/-! ## Reading texts -/

theorem hexValue?_of_isHexDigit {c : Char} {value : Nat} (h : IsHexDigit c value) :
    hexValue? c = some value := by
  have digits : ∀ value < 16, hexValue? (Nat.digitChar value) = some value ∧
      hexValue? (Nat.digitChar value).toUpper = some value := by decide
  obtain ⟨lt, rfl | rfl⟩ := h
  · exact (digits value lt).1
  · exact (digits value lt).2

/-- A code is read from its digits. -/
theorem hexUnit_of_isCode {code : Nat} {ds : List Char} (h : IsCode code ds) (rest : List Char) :
    hexUnit (ds ++ rest) = .ok (code, rest) := by
  cases h with
  | digits ha hb hc hd =>
    simp only [hexUnit, List.cons_append, List.nil_append, List.take_succ_cons, List.take_zero,
      List.drop_succ_cons, List.drop_zero, List.mapM_cons, List.mapM_nil,
      hexValue?_of_isHexDigit ha, hexValue?_of_isHexDigit hb, hexValue?_of_isHexDigit hc,
      hexValue?_of_isHexDigit hd]
    rfl

theorem escapedChar?_of_mem {l c : Char} (h : (l, c) ∈ shortEscapes) :
    escapedChar? l = some c ∧ l ≠ 'u' := by
  have each : ∀ p ∈ shortEscapes, escapedChar? p.1 = some p.2 ∧ p.1 ≠ 'u' := by decide
  exact each (l, c) h

theorem escape_of_escapedChar? {l c : Char} (h : escapedChar? l = some c) (hu : l ≠ 'u')
    (rest : List Char) : escape (l :: rest) = .ok (c, rest) := by
  unfold escape
  split
  · rename_i heq
    cases heq
  · rename_i heq
    cases heq
    exact absurd rfl hu
  · rename_i heq
    cases heq
    rw [h]

/-- The code of a character is none of a surrogate. -/
theorem escape_of_isCode {c : Char} {ds : List Char} (h : IsCode c.toNat ds) (rest : List Char) :
    escape ('u' :: (ds ++ rest)) = .ok (c, rest) := by
  have valid : c.toNat < 0xD800 ∨ 0xDFFF < c.toNat ∧ c.toNat < 0x110000 := c.valid
  have notLow : ¬ (0xDC00 ≤ c.toNat ∧ c.toNat ≤ 0xDFFF) := by omega
  have notHigh : ¬ (0xD800 ≤ c.toNat ∧ c.toNat ≤ 0xDBFF) := by omega
  simp only [escape, hexUnit_of_isCode h, bind, Except.bind, if_neg notLow, if_neg notHigh,
    Char.ofNat_toNat]
  rfl

theorem escape_of_pair {c : Char} {high low : Nat} {ds es : List Char}
    (hhigh : IsCode (0xD800 + high) ds) (hlow : IsCode (0xDC00 + low) es) (high_lt : high < 0x400)
    (low_lt : low < 0x400) (value : c.toNat = 0x10000 + high * 0x400 + low) (rest : List Char) :
    escape ('u' :: (ds ++ '\\' :: 'u' :: (es ++ rest))) = .ok (c, rest) := by
  have notLow : ¬ (0xDC00 ≤ 0xD800 + high ∧ 0xD800 + high ≤ 0xDFFF) := by omega
  have isHigh : 0xD800 ≤ 0xD800 + high ∧ 0xD800 + high ≤ 0xDBFF := by omega
  have isLow : 0xDC00 ≤ 0xDC00 + low ∧ 0xDC00 + low ≤ 0xDFFF := by omega
  have code : (0xD800 + high - 0xD800) * 0x400 + (0xDC00 + low - 0xDC00) + 0x10000 = c.toNat := by
    omega
  simp only [escape, lowSurrogate, hexUnit_of_isCode hhigh, hexUnit_of_isCode hlow, bind,
    Except.bind, if_neg notLow, if_pos isHigh, if_pos isLow, code, Char.ofNat_toNat]
  rfl

/-- A character is read from each of its spellings in one step. -/
theorem textChars_of_spelledChar {c step : Char} {piece : List Char} (h : SpelledChar c piece)
    (steps read rest : List Char) :
    textChars (step :: steps) read (piece ++ rest) = textChars steps (c :: read) rest := by
  have backslash : ¬ '\\' = '"' := by decide
  cases h with
  | unit h =>
    generalize hcode : c.toNat = code at h
    cases h with
    | @itself d quote other control =>
      obtain rfl : c = d := Char.toNat_inj.mp hcode
      have plain : isControl c = false := by simpa [isControl] using control
      simp [textChars, quote, other, plain]
    | @letter l d hl =>
      obtain rfl : c = d := Char.toNat_inj.mp hcode
      obtain ⟨hl, hu⟩ := escapedChar?_of_mem hl
      simp only [List.cons_append, List.nil_append, textChars, if_neg backslash, if_true,
        escape_of_escapedChar? hl hu, bind, Except.bind]
    | code hd =>
      subst hcode
      simp only [List.cons_append, textChars, if_neg backslash, if_true, escape_of_isCode hd, bind,
        Except.bind]
  | pair hhigh hlow high_lt low_lt value =>
    simp only [List.cons_append, List.append_assoc, textChars, if_neg backslash, if_true,
      escape_of_pair hhigh hlow high_lt low_lt value, bind, Except.bind]

theorem IsUnit.ne_nil {code : Nat} {piece : List Char} (h : IsUnit code piece) : piece ≠ [] := by
  cases h <;> exact List.cons_ne_nil _ _

theorem SpelledChar.ne_nil {c : Char} {piece : List Char} (h : SpelledChar c piece) :
    piece ≠ [] := by
  cases h with
  | unit h => exact h.ne_nil
  | pair => exact List.cons_ne_nil _ _

/-- A spelling is no shorter than its text. -/
theorem Spelled.length_le {text cs : List Char} (h : Spelled text cs) :
    text.length ≤ cs.length := by
  induction h with
  | nil => exact Nat.le_refl 0
  | cons h _ ih =>
    have := List.length_pos_iff.mpr h.ne_nil
    rw [List.length_cons, List.length_append]
    omega

/-- A text is read up to its closing quotation mark. -/
theorem textChars_of_spelled {text cs steps : List Char} (h : Spelled text cs)
    (read rest : List Char) (enough : text.length < steps.length) :
    textChars steps read (cs ++ '"' :: rest) =
      .ok (String.ofList (read.reverse ++ text), rest) := by
  induction h generalizing steps read with
  | nil =>
    cases steps with
    | nil => exact absurd enough (Nat.lt_irrefl 0)
    | cons step steps =>
      rw [List.append_nil]
      rfl
  | @cons c _ _ _ hc _ ih =>
    cases steps with
    | nil => exact absurd enough (Nat.not_lt_zero _)
    | cons step steps =>
      rw [List.append_assoc, textChars_of_spelledChar hc,
        ih (c :: read) (by simpa using enough), List.reverse_cons, List.append_assoc]
      rfl

/-- **A text is read from each of its spellings.** -/
theorem textBody_of_spelled {s : String} {cs : List Char} (h : Spelled s.toList cs)
    (rest : List Char) : textBody (cs ++ '"' :: rest) = .ok (s, rest) := by
  have enough := h.length_le
  unfold textBody
  rw [textChars_of_spelled h [] rest (by rw [List.length_append, List.length_cons]; omega)]
  exact congrArg (fun s => Except.ok (s, rest)) String.ofList_toList

/-! ## Skipping texts -/

theorem skipEscape_of_escapedChar? {l c : Char} (h : escapedChar? l = some c) (hu : l ≠ 'u')
    (rest : List Char) : skipEscape (l :: rest) = .ok rest := by
  unfold skipEscape
  split
  · rename_i heq
    cases heq
  · rename_i heq
    cases heq
    exact absurd rfl hu
  · rename_i heq
    cases heq
    rw [h]
    rfl

theorem skipChars_of_isUnit {code : Nat} {step : Char} {piece : List Char} (h : IsUnit code piece)
    (steps rest : List Char) :
    skipChars (step :: steps) (piece ++ rest) = skipChars steps rest := by
  have backslash : ¬ '\\' = '"' := by decide
  cases h with
  | @itself c quote other control =>
    have plain : isControl c = false := by simpa [isControl] using control
    simp [skipChars, quote, other, plain]
  | letter hl =>
    obtain ⟨hl, hu⟩ := escapedChar?_of_mem hl
    simp only [List.cons_append, List.nil_append, skipChars, if_neg backslash, if_true,
      skipEscape_of_escapedChar? hl hu, bind, Except.bind]
  | code hd =>
    simp only [List.cons_append, skipChars, if_neg backslash, if_true, skipEscape,
      hexUnit_of_isCode hd, bind, Except.bind, Except.map]

/-- **What may stand between quotation marks is skipped**, up to the closing one. -/
theorem skipText_of_isTextBody {cs : List Char} (h : IsTextBody cs) (rest : List Char) :
    skipText (cs ++ '"' :: rest) = .ok rest := by
  have skips : ∀ steps : List Char, cs.length < steps.length →
      skipChars steps (cs ++ '"' :: rest) = .ok rest := by
    induction h with
    | nil =>
      intro steps enough
      cases steps with
      | nil => exact absurd enough (Nat.lt_irrefl 0)
      | cons step steps => rfl
    | @cons code piece cs hu _ ih =>
      intro steps enough
      have nonempty : 0 < piece.length := List.length_pos_iff.mpr hu.ne_nil
      rw [List.length_append] at enough
      cases steps with
      | nil => exact absurd enough (Nat.not_lt_zero _)
      | cons step steps =>
        rw [List.length_cons] at enough
        rw [List.append_assoc, skipChars_of_isUnit hu]
        exact ih steps (by omega)
  exact skips (cs ++ '"' :: rest) (by simp)

/-! ## Layouts -/

theorem isHexDigit_hexDigit (n : Nat) : IsHexDigit (Layout.hexDigit n) (n % 16) :=
  ⟨Nat.mod_lt n (by decide), .inl rfl⟩

/-- A code below 256 in four digits. -/
theorem isCode_of_lt {n : Nat} (h : n < 256) :
    IsCode n ['0', '0', Layout.hexDigit (n / 16), Layout.hexDigit n] := by
  have zero : IsHexDigit '0' 0 := ⟨by decide, .inl rfl⟩
  have code := IsCode.digits zero zero (isHexDigit_hexDigit (n / 16)) (isHexDigit_hexDigit n)
  have value : ((0 * 16 + 0) * 16 + n / 16 % 16) * 16 + n % 16 = n := by omega
  rwa [value] at code

theorem spelledChar_of_mem {l c : Char} (h : (l, c) ∈ shortEscapes) : SpelledChar c ['\\', l] :=
  .unit (.letter h)

/-- A layout spells each character. -/
theorem spelledChar_textChar (c : Char) : SpelledChar c (Layout.textChar c) := by
  unfold Layout.textChar
  split
  · rename_i h
    rcases h with rfl | rfl
    · exact spelledChar_of_mem (by decide)
    · exact spelledChar_of_mem (by decide)
  rename_i h
  split
  · subst c
    exact spelledChar_of_mem (by decide)
  split
  · subst c
    exact spelledChar_of_mem (by decide)
  split
  · subst c
    exact spelledChar_of_mem (by decide)
  split
  · subst c
    exact spelledChar_of_mem (by decide)
  split
  · subst c
    exact spelledChar_of_mem (by decide)
  split
  · rename_i hc
    exact .unit (.code (isCode_of_lt (by omega)))
  · rename_i hc
    simp only [not_or] at h
    exact .unit (.itself h.1 h.2 (by omega))

/-- **Layouts spell their texts.** -/
theorem spelled_flatMap_textChar (cs : List Char) : Spelled cs (cs.flatMap Layout.textChar) := by
  induction cs with
  | nil => exact .nil
  | cons c cs ih => exact .cons (spelledChar_textChar c) ih

theorem text_quotedText (s : String) : Form.text s (Layout.quotedText s) :=
  ⟨_, spelled_flatMap_textChar s.toList, rfl⟩

end Dialogue.Json
