import Dialogue.Proofs.LineFrame
import Dialogue.Localization.Mode
import Mathlib.Data.String.Basic

/-!
# Which texts a table replaces

A text is taken from a string table if its reference can be read, the table has a row with its key,
and the last such row has a text. The texts are looked up in the sorted view of the table, in which
each key is left once; a look-up in the table itself goes through the rows from the end. Both find
the same, so that nothing else of the table matters.

Results:
* `StringTable.mem_sorted_iff`: the sorted view has exactly the rows that look-ups answer.
* `Line.translate_translate`: a text that was replaced is replaced by itself.
* `Template.toLiteral_congr`, `Template.toLiteral_toLiteral`: only the answers to look-ups matter,
  and taking the texts once more changes none.
* **`Template.toLiteral_texts`**: which texts are replaced, and by what.
-/

namespace Dialogue

/-! ## The sorted view -/

namespace StringTable

/-- The keys of rows ascend, so that none repeats. -/
def Ascending (rows : List Row) : Prop := rows.Pairwise (·.key < ·.key)

theorem mem_of_mem_insertSorted {r s : Row} {rows : List Row} (h : s ∈ insertSorted r rows) :
    s = r ∨ s ∈ rows := by
  induction rows with
  | nil => exact Or.inl (List.mem_singleton.mp h)
  | cons e rest ih =>
    unfold insertSorted at h
    split at h
    · exact (List.mem_cons.mp h).imp_right (List.mem_cons_of_mem e)
    · split at h
      · exact List.mem_cons.mp h
      · rcases List.mem_cons.mp h with rfl | h
        · exact Or.inr List.mem_cons_self
        · exact (ih h).imp_right (List.mem_cons_of_mem e)

theorem Ascending.insertSorted (r : Row) {rows : List Row} (h : Ascending rows) :
    Ascending (insertSorted r rows) := by
  induction rows with
  | nil => exact List.pairwise_singleton _ _
  | cons e rest ih =>
    obtain ⟨first, later⟩ := List.pairwise_cons.mp h
    unfold StringTable.insertSorted
    split
    · rename_i same
      exact List.pairwise_cons.mpr ⟨fun s hs => same ▸ first s hs, later⟩
    · rename_i differ
      split
      · rename_i less
        refine List.pairwise_cons.mpr ⟨fun s hs => ?_, h⟩
        rcases List.mem_cons.mp hs with rfl | hs
        · exact less
        · exact less.trans (first s hs)
      · rename_i not_less
        refine List.pairwise_cons.mpr ⟨fun s hs => ?_, ih later⟩
        rcases mem_of_mem_insertSorted hs with rfl | hs
        · exact lt_of_le_of_ne (not_lt.mp not_less) (Ne.symm differ)
        · exact first s hs

theorem ascending_sorted (t : StringTable) : Ascending t.sorted := by
  unfold sorted
  generalize hrows : ([] : List Row) = rows
  have start : Ascending rows := hrows ▸ List.Pairwise.nil
  clear hrows
  induction t.rows generalizing rows with
  | nil => exact start
  | cons r rest ih => exact ih _ (start.insertSorted r)

/-- In rows whose keys ascend, each row is found. -/
theorem lookup_eq_some_iff {rows : List Row} (h : Ascending rows) {key value : String} :
    lookup key rows = some value ↔ ⟨key, value⟩ ∈ rows := by
  induction rows with
  | nil => simp [lookup]
  | cons e rest ih =>
    obtain ⟨first, later⟩ := List.pairwise_cons.mp h
    by_cases hk : e.key = key
    · have apart : (⟨key, value⟩ : Row) ∉ rest := fun hm => (first _ hm).ne hk
      rw [List.mem_cons, or_iff_left apart]
      cases e
      simp [lookup, ← hk, eq_comm]
    · have ne : (⟨key, value⟩ : Row) ≠ e := fun he => hk (he ▸ rfl)
      rw [List.mem_cons, or_iff_right ne, ← ih later]
      simp [lookup, hk]

/-- **The sorted view has exactly the rows that look-ups answer.** -/
theorem mem_sorted_iff {t : StringTable} {r : Row} :
    r ∈ t.sorted ↔ t.get? r.key = some r.value := by
  rw [← lookup_sorted, lookup_eq_some_iff t.ascending_sorted]

end StringTable

/-! ## Lines -/

namespace Line

/-- A text that was replaced is replaced by itself. -/
theorem translate_translate (textOf? : String → Option String) (l : Line) :
    (l.translate textOf?).translate textOf? = l.translate textOf? := by
  rw [translate_eq textOf? (l.translate textOf?), keyId?_translate, translate_eq]
  cases (l.keyId?.bind textOf?).filter (! ·.isEmpty) <;> rfl

/-- Tables that answer every look-up alike give the same texts. -/
theorem toLiteral_congr {table other : StringTable} (h : ∀ key, other.get? key = table.get? key)
    (l : Line) : l.toLiteral other = l.toLiteral table := by
  rw [toLiteral_eq, toLiteral_eq, funext h]

theorem toLiteral_toLiteral (table : StringTable) (l : Line) :
    (l.toLiteral table).toLiteral table = l.toLiteral table :=
  l.translate_translate _

end Line

/-! ## Templates -/

namespace Template

theorem toLiteral_congr {table other : StringTable} (h : ∀ key, other.get? key = table.get? key)
    (t : Template) : t.toLiteral other = t.toLiteral table := by
  have lines : Line.toLiteral other = Line.toLiteral table := funext (Line.toLiteral_congr h)
  exact eq_of_toArena_eq
    (congrArg (fun f => (t.toArena.mapLines f).withLocalized false) lines)

theorem toLiteral_toLiteral (t : Template) (table : StringTable) :
    (t.toLiteral table).toLiteral table = t.toLiteral table := by
  have lines := Arena.mapLines_mapLines (Line.toLiteral table) (Line.toLiteral table) t.toArena
  simp only [Line.toLiteral_toLiteral] at lines
  have again := congrArg (Arena.withLocalized false) lines
  exact eq_of_toArena_eq again

/-- **A table replaces exactly the texts that it has.** In literal mode, each text is the one that
looking up its key in the table answers, unless its reference cannot be read, the table has no row
with the key, or the text in the last such row is empty: then it stays. All else but the mode stays
in any case. A look-up in the table, and in the sorted view that is used for all texts, answers the
last row with the key. So nothing but the answers to look-ups matters, and taking the texts once
more changes none. -/
theorem toLiteral_texts (t : Template) (table : StringTable) :
    (∃ textOf : Line → String,
      (t.toLiteral table).toArena =
        (t.toArena.mapLines fun l => { l with text := textOf l }).withLocalized false ∧
      ∀ l : Line,
        (∀ id text, l.keyId? = some id → table.get? id = some text → text ≠ "" → textOf l = text) ∧
        ((∀ id, l.keyId? = some id → ∀ text, table.get? id = some text → text = "") →
          textOf l = l.text)) ∧
      (∀ key, StringTable.lookup key table.sorted = table.get? key ∧
        (∀ text, ⟨key, text⟩ ∈ table.sorted ↔ table.get? key = some text) ∧
        (∀ text, table.get? key = some text ↔
          ∃ before after, table.rows = before ++ ⟨key, text⟩ :: after ∧ ∀ r ∈ after, r.key ≠ key) ∧
        (table.get? key = none ↔ ∀ r ∈ table.rows, r.key ≠ key)) ∧
      (∀ other : StringTable, (∀ key, other.get? key = table.get? key) →
        t.toLiteral other = t.toLiteral table) ∧
      (t.toLiteral table).toLiteral table = t.toLiteral table := by
  refine ⟨⟨fun l => (l.toLiteral table).text, ?_, fun l => ⟨?_, fun h => ?_⟩⟩, fun key => ?_,
    fun other h => toLiteral_congr h t, t.toLiteral_toLiteral table⟩
  · have line : Line.toLiteral table = fun l => { l with text := (l.toLiteral table).text } := by
      funext l
      rw [Line.toLiteral_eq, Line.translate_eq]
    exact congrArg (fun f => (t.toArena.mapLines f).withLocalized false) line
  · intro id text hid found ne_empty
    show (l.toLiteral table).text = text
    rw [Line.toLiteral_eq, Line.translate_of_some hid found ne_empty]
  · show (l.toLiteral table).text = l.text
    rw [Line.toLiteral_eq, Line.translate_of_forall h]
  · exact ⟨table.lookup_sorted key, fun text => StringTable.mem_sorted_iff,
      fun text => StringTable.get?_eq_some_iff, StringTable.get?_eq_none_iff⟩

/-- A bakery whose texts have keys in a table, but for the last, whose reference cannot be read. -/
def bakery : Template :=
  .ofDraft
    { name := "bakery"
      localized := true
      screens :=
        [{ id := ⟨1⟩, name := "counter", text := "Rolls?", key := some "@town:s_1"
           choices :=
             [{ text := "Two.", key := some "@town:s_2" },
              { text := "None.", key := some "s_1" }] }] }
    (by decide)

/-- A table in which the last row for the first key is empty, and the last one for the second is
not. -/
def bakeryTable : StringTable :=
  ⟨[⟨"s_1", "Bread?"⟩, ⟨"s_2", ""⟩, ⟨"s_2", "Three."⟩, ⟨"s_1", ""⟩]⟩

/-- The bakery keeps its first text: the empty row hides the other one. -/
theorem toLiteral_texts_bakery :
    bakeryTable.get? "s_1" = some "" ∧ bakeryTable.get? "s_2" = some "Three." ∧
      StringTable.lookup "s_2" bakeryTable.sorted = some "Three." ∧
      (bakery.toLiteral bakeryTable).lines.map (·.text) = ["Rolls?", "Three.", "None."] ∧
      bakery.toLiteral ⟨[⟨"s_2", "Three."⟩, ⟨"s_1", ""⟩]⟩ = bakery.toLiteral bakeryTable ∧
      (bakery.toLiteral bakeryTable).toLiteral bakeryTable = bakery.toLiteral bakeryTable := by
  obtain ⟨-, lookups, answers, again⟩ := bakery.toLiteral_texts bakeryTable
  have second : bakeryTable.get? "s_2" = some "Three." := by rfl
  refine ⟨by rfl, second, (lookups "s_2").1.trans second, ?_, answers _ fun key => ?_, again⟩
  · rw [lines_toLiteral]
    simp only [Line.toLiteral_eq]
    rfl
  · by_cases first : "s_1" = key
    · subst first
      rfl
    · by_cases other : "s_2" = key
      · subst other
        rfl
      · simp [StringTable.get?, bakeryTable, first, other]

end Template

end Dialogue
