import Dialogue.Proofs.Lua.Lexer

/-!
# String literals

A string literal starts with a quotation mark and is closed by the first one that no backslash
stands in front of. A line break may not stand in it. A backslash belongs to what follows it, and
both together stand for something else: `unescape` knows the escapes of one letter, which every
version of Lua has, and `Escapes` are those in which versions differ, such as the numbers of
characters. Quoting keeps to the former, so quoted texts are read alike by all versions.

* `readLiteral`: the text of the literal that a source starts with, and what follows the literal.

Results:
* `readBody_escape_append`, `readBody_take_escape`: an escaped character, whole or cut off.
* **`readBody_flatMap_escape`**: the escaped characters of a text are read as that text.
* **`readLiteral_quoted`**: a quoted text is read as that text, and its end is where it ends.
-/

namespace Dialogue.Lua

/-! ## Reading -/

/-- Further escapes: what a backslash with the given character behind it stands for, and how many of
the characters behind them belong to it. -/
abbrev Escapes := Char → List Char → Option (List Char × Nat)

/-- What a backslash in front of the characters stands for, and what follows. -/
def readEscape (more : Escapes) : List Char → Option (List Char × List Char)
  | [] => none
  | c :: rest =>
    match unescape c with
    | some d => some ([d], rest)
    | none => (more c rest).map fun e => (e.1, rest.drop e.2)

theorem length_lt_of_readEscape {more : Escapes} {cs text rest : List Char}
    (h : readEscape more cs = some (text, rest)) : rest.length < cs.length := by
  cases cs with
  | nil => cases h
  | cons c cs =>
    rw [readEscape] at h
    cases hc : unescape c with
    | some d =>
      rw [hc] at h
      obtain rfl : cs = rest := congrArg Prod.snd (Option.some.inj h)
      exact Nat.lt_succ_self _
    | none =>
      rw [hc] at h
      obtain ⟨e, -, he⟩ := Option.map_eq_some_iff.mp h
      obtain rfl : cs.drop e.2 = rest := congrArg Prod.snd he
      simp only [List.length_drop, List.length_cons]
      omega

/-- The text of a literal behind its first quotation mark, and what follows the literal. -/
def readBody (more : Escapes) : List Char → Option (List Char × List Char)
  | [] => none
  | c :: rest =>
    if c = '"' then some ([], rest)
    else if isLineBreak c then none
    else if c = '\\' then
      match _h : readEscape more rest with
      | none => none
      | some (text, rest) => (readBody more rest).map fun r => (text ++ r.1, r.2)
    else (readBody more rest).map fun r => (c :: r.1, r.2)
termination_by cs => cs.length
decreasing_by
  · have := length_lt_of_readEscape (by assumption)
    simp only [List.length_cons]
    omega
  · simp

/-- The text of the literal that a source starts with, and what follows the literal. -/
def readLiteral (more : Escapes) : List Char → Option (String × List Char)
  | [] => none
  | c :: rest =>
    if c = '"' then (readBody more rest).map fun r => (String.ofList r.1, r.2) else none

/-! ## Escaped characters -/

/-- **A character stands for itself or is escaped** by a backslash and a letter that all know. -/
theorem escape_cases (c : Char) :
    (escape c = [c] ∧ c ≠ '"' ∧ c ≠ '\\' ∧ isLineBreak c = false) ∨
      ∃ d, escape c = ['\\', d] ∧ unescape d = some c := by
  by_cases quote : c = '\\' ∨ c = '"'
  · refine .inr ⟨c, if_pos quote, ?_⟩
    rcases quote with rfl | rfl <;> rfl
  by_cases newline : c = '\n'
  · exact .inr ⟨'n', by rw [escape, if_neg quote, if_pos newline], by rw [newline]; rfl⟩
  by_cases carriage : c = '\r'
  · exact .inr ⟨'r', by rw [escape, if_neg quote, if_neg newline, if_pos carriage],
      by rw [carriage]; rfl⟩
  obtain ⟨backslash, mark⟩ := not_or.mp quote
  refine .inl ⟨?_, mark, backslash, ?_⟩
  · rw [escape, if_neg quote, if_neg newline, if_neg carriage]
  · simp [isLineBreak, newline, carriage]

section

variable (more : Escapes) {c : Char} (cs : List Char)

theorem readBody_mark : readBody more ('"' :: cs) = some ([], cs) := by
  rw [readBody, if_pos rfl]

theorem readBody_plain (mark : c ≠ '"') (backslash : c ≠ '\\') (line : isLineBreak c = false) :
    readBody more (c :: cs) = (readBody more cs).map fun r => (c :: r.1, r.2) := by
  rw [readBody, if_neg mark, if_neg (by simp [line]), if_neg backslash]

theorem readBody_backslash_nil : readBody more ['\\'] = none := by
  rw [readBody, if_neg (by decide), if_neg (by decide), if_pos rfl]
  rfl

theorem readBody_backslash {d : Char} (known : unescape d = some c) :
    readBody more ('\\' :: d :: cs) = (readBody more cs).map fun r => (c :: r.1, r.2) := by
  have read : readEscape more (d :: cs) = some ([c], cs) := by
    rw [readEscape, known]
  rw [readBody, if_neg (by decide), if_neg (by decide), if_pos rfl]
  split
  · rename_i h
    rw [read] at h
    cases h
  · rename_i text rest h
    obtain ⟨rfl, rfl⟩ := Prod.mk.inj (Option.some.inj (read.symm.trans h))
    rfl

/-- An escaped character is read as that character. -/
theorem readBody_escape_append (c : Char) :
    readBody more (escape c ++ cs) = (readBody more cs).map fun r => (c :: r.1, r.2) := by
  rcases escape_cases c with ⟨h, mark, backslash, line⟩ | ⟨d, h, known⟩
  · rw [h]
    exact readBody_plain more cs mark backslash line
  · rw [h]
    exact readBody_backslash more cs known

/-- Where an escaped character is cut off, no literal ends. -/
theorem readBody_take_escape {n : Nat} (h : n < (escape c).length) :
    readBody more ((escape c).take n) = none := by
  match n with
  | 0 =>
    rw [List.take_zero, readBody]
  | n + 1 =>
    -- Of two characters, the first is a backslash; a single one is not cut off.
    rcases escape_cases c with ⟨he, -⟩ | ⟨d, he, -⟩
    · rw [he, List.length_singleton] at h
      omega
    · rw [he] at h ⊢
      obtain rfl : n = 0 := by
        rw [List.length_cons, List.length_singleton] at h
        omega
      exact readBody_backslash_nil more

end

/-! ## Quoted texts -/

section

variable (more : Escapes)

/-- **The escaped characters of a text are read as that text**, up to the mark behind them. -/
theorem readBody_flatMap_escape (cs rest : List Char) :
    readBody more (cs.flatMap escape ++ '"' :: rest) = some (cs, rest) := by
  induction cs with
  | nil => exact readBody_mark more rest
  | cons c cs ih =>
    rw [List.flatMap_cons, List.append_assoc, readBody_escape_append, ih]
    rfl

/-- The literal does not end before that mark. -/
theorem readBody_take_flatMap_escape (cs : List Char) {n : Nat}
    (h : n ≤ (cs.flatMap escape).length) :
    readBody more ((cs.flatMap escape ++ ['"']).take n) = none := by
  induction cs generalizing n with
  | nil =>
    obtain rfl : n = 0 := Nat.le_zero.mp h
    rw [List.take_zero, readBody]
  | cons c cs ih =>
    rw [List.flatMap_cons, List.length_append] at h
    rw [List.flatMap_cons, List.append_assoc, List.take_append]
    by_cases cut : n < (escape c).length
    · rw [Nat.sub_eq_zero_of_le (Nat.le_of_lt cut), List.take_zero, List.append_nil]
      exact readBody_take_escape more cut
    · rw [List.take_of_length_le (Nat.not_lt.mp cut), readBody_escape_append, ih (by omega)]
      rfl

theorem readLiteral_quoted_append (s : String) (rest : List Char) :
    readLiteral more ((quoted s).toList ++ rest) = some (s, rest) := by
  have source : (quoted s).toList ++ rest = '"' :: (s.toList.flatMap escape ++ '"' :: rest) := by
    simp [quotedChars]
  rw [source, readLiteral, if_pos rfl, readBody_flatMap_escape, Option.map_some,
    String.ofList_toList]

theorem readLiteral_take_quoted (s : String) {n : Nat} (h : n < (quoted s).toList.length) :
    readLiteral more ((quoted s).toList.take n) = none := by
  have source : (quoted s).toList = '"' :: (s.toList.flatMap escape ++ ['"']) := by
    simp [quotedChars]
  rw [source] at h ⊢
  cases n with
  | zero => rfl
  | succ n =>
    have inside : n ≤ (s.toList.flatMap escape).length := by
      rw [List.length_cons, List.length_append, List.length_singleton] at h
      omega
    rw [List.take_succ_cons, readLiteral, if_pos rfl, readBody_take_flatMap_escape more _ inside]
    rfl

end

/-- **A quoted text is read as that text, and its end is where it ends.** Whatever follows the
literal of a text, and whichever further escapes a version of Lua has, the literal is read as the
text, and what follows is left. The beginning of a literal is not read as a literal before all of it
is there. So two literals are the same only if their texts are, also if they stand in front of other
things. -/
theorem readLiteral_quoted (s : String) :
    (∀ more rest, readLiteral more ((quoted s).toList ++ rest) = some (s, rest)) ∧
      (∀ more n, (readLiteral more ((quoted s).toList.take n)).isSome ↔
        (quoted s).toList.length ≤ n) ∧
      (∀ t, quoted s = quoted t ↔ s = t) ∧
      ∀ t first second,
        (quoted s).toList ++ first = (quoted t).toList ++ second ↔ s = t ∧ first = second := by
  have delimited (t : String) (first second : List Char) :
      (quoted s).toList ++ first = (quoted t).toList ++ second ↔ s = t ∧ first = second := by
    constructor
    · intro h
      have read := readLiteral_quoted_append (fun _ _ => none) s first
      rw [h, readLiteral_quoted_append] at read
      obtain ⟨text, rest⟩ := Prod.mk.inj (Option.some.inj read)
      exact ⟨text.symm, rest.symm⟩
    · rintro ⟨rfl, rfl⟩
      rfl
  refine ⟨(readLiteral_quoted_append · s), fun more n => ⟨fun h => ?_, fun h => ?_⟩,
    fun t => ⟨?_, ?_⟩, delimited⟩
  · refine Nat.not_lt.mp fun short => ?_
    rw [readLiteral_take_quoted more s short] at h
    cases h
  · have whole := readLiteral_quoted_append more s []
    rw [List.append_nil] at whole
    rw [List.take_of_length_le h, whole]
    rfl
  · intro h
    exact ((delimited t [] []).mp (by rw [h])).1
  · rintro rfl
    rfl

/-- A text that tries to end its literal and to go on behind it. -/
example : readLiteral (fun _ _ => none) (quotedChars "\\\", quit() --\n".toList ++ [',']) =
    some ("\\\", quit() --\n", [',']) := by
  cbv

end Dialogue.Lua
