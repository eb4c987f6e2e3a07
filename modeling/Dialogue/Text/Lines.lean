/-!
# Texts made of lines

A text is written from its lines, each of which ends in a line break. It is read as lines again by
cutting it at the characters that count as line breaks.

* `Unbroken`: nothing in a text counts as a line break.
* `paragraphs`: the parts of a text between its empty lines.

Results:
* `unlines_append`, `unlines_flatMap`: texts of consecutive lines follow each other.
* `linesBy_unlines`: the lines that are read are those of each written one, and an empty one behind
  the last line break.
* `linesBy_unlines_of_unbroken`: so they are the written ones, if these are not broken themselves.
* `splitOn_flatMap`: parts that each end in the same element can be told apart.
-/

namespace Dialogue.Text

/-- The text with the given lines. -/
def unlines (lines : List String) : String := String.join (lines.map (· ++ "\n"))

@[simp] theorem toList_unlines (lines : List String) :
    (unlines lines).toList = lines.flatMap fun line => line.toList ++ ['\n'] := by
  simp only [unlines, String.toList_join, List.flatMap_map, String.toList_append]
  rfl

theorem unlines_append (before after : List String) :
    unlines (before ++ after) = unlines before ++ unlines after := by
  apply String.toList_injective
  simp

theorem unlines_flatMap {α : Type} (linesOf : α → List String) (as : List α) :
    unlines (as.flatMap linesOf) = String.join (as.map fun a => unlines (linesOf a)) := by
  apply String.toList_injective
  simp [String.toList_join, List.flatMap_assoc, List.flatMap_map]

/-- The lines of a text: what stands before, between and behind the characters that break lines. -/
def linesBy (breaks : Char → Bool) (text : String) : List String :=
  (text.toList.splitOnP breaks).map String.ofList

/-- The text has no character that breaks lines. -/
def Unbroken (breaks : Char → Bool) (text : String) : Prop := ∀ c ∈ text.toList, breaks c = false

instance (breaks : Char → Bool) (text : String) : Decidable (Unbroken breaks text) :=
  List.decidableBAll (fun c => breaks c = false) text.toList

variable {breaks : Char → Bool}

theorem Unbroken.append {before after : String} (hb : Unbroken breaks before)
    (ha : Unbroken breaks after) : Unbroken breaks (before ++ after) := by
  intro c hc
  rw [String.toList_append, List.mem_append] at hc
  exact hc.elim (hb c) (ha c)

/-- What is not broken at some characters is not broken at fewer. -/
theorem Unbroken.mono {text : String} {fewer : Char → Bool} (h : Unbroken breaks text)
    (le : ∀ c, fewer c = true → breaks c = true) : Unbroken fewer text := fun c hc =>
  Bool.eq_false_iff.mpr fun hf => Bool.false_ne_true ((h c hc).symm.trans (le c hf))

/-- A text without line breaks is one line. -/
theorem linesBy_eq_singleton {text : String} (h : Unbroken breaks text) :
    linesBy breaks text = [text] := by
  rw [linesBy, List.splitOnP_eq_singleton h, List.map_singleton, String.ofList_toList]

theorem linesBy_unlines (h : breaks '\n' = true) (lines : List String) :
    linesBy breaks (unlines lines) = lines.flatMap (linesBy breaks) ++ [""] := by
  induction lines with
  | nil => rfl
  | cons line rest ih =>
    have split : (unlines (line :: rest)).toList = line.toList ++ '\n' :: (unlines rest).toList := by
      simp
    rw [linesBy, split, List.splitOnP_append_cons _ _ h, List.map_append, List.flatMap_cons,
      List.append_assoc, ← ih]
    rfl

/-- Lines without line breaks are read as they were written. -/
theorem linesBy_unlines_of_unbroken (h : breaks '\n' = true) {lines : List String}
    (unbroken : ∀ line ∈ lines, Unbroken breaks line) :
    linesBy breaks (unlines lines) = lines ++ [""] := by
  have whole : lines.map (linesBy breaks) = lines.map ([·]) :=
    List.map_congr_left fun line hl => linesBy_eq_singleton (unbroken line hl)
  rw [linesBy_unlines h, List.flatMap_def, whole, ← List.flatMap_def, List.flatMap_singleton']

/-! ## Paragraphs -/

/-- The parts of a text between its empty lines. -/
def paragraphs (text : String) : List (List String) := (linesBy (· == '\n') text).splitOn ""

/-- Parts that each end in the same element, which is not in them, can be told apart. -/
theorem splitOn_flatMap {α : Type} [BEq α] [LawfulBEq α] {x : α} {parts : List (List α)}
    (h : ∀ part ∈ parts, x ∉ part) : (parts.flatMap (· ++ [x])).splitOn x = parts ++ [[]] := by
  induction parts with
  | nil => rfl
  | cons part rest ih =>
    have whole : part.splitOnP (· == x) = [part] :=
      List.splitOnP_eq_singleton fun y hy =>
        beq_false_of_ne fun he => h part List.mem_cons_self (he ▸ hy)
    have later := ih fun part hp => h part (List.mem_cons_of_mem _ hp)
    rw [List.splitOn_eq_splitOnP] at later ⊢
    rw [List.flatMap_cons, List.append_assoc, List.singleton_append,
      List.splitOnP_append_cons (p := (· == x)) _ _ (beq_self_eq_true x), whole, later]
    rfl

end Dialogue.Text
