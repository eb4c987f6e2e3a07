/-!
# String tables

A string table is an ordered list of rows. Keys may repeat: every row keeps its place, and a look-up
answers the last row with the key.

Results:
* **`StringTable.get?_push`**: a pushed row hides the earlier ones with its key.
* `StringTable.get?_eq_some_iff`, `StringTable.get?_eq_none_iff`: a look-up answers the row that no
  later one hides, if there is one.
* `StringTable.lookup_sorted`: the sorted view answers every look-up as the table does.
-/

namespace Dialogue

/-- A text under its key. -/
structure Row where
  /-- The key. -/
  key : String
  /-- The text. -/
  value : String
  deriving DecidableEq, Repr

/-- Texts and their keys, in the order in which they were added. -/
structure StringTable where
  /-- The rows in order. -/
  rows : List Row := []
  deriving DecidableEq, Repr

namespace StringTable

/-- The table with one more row at the end. -/
def push (t : StringTable) (r : Row) : StringTable := ⟨t.rows ++ [r]⟩

/-- The number of rows. -/
def size (t : StringTable) : Nat := t.rows.length

/-- The table has no rows. -/
def isEmpty (t : StringTable) : Bool := t.rows.isEmpty

/-- The text of the last row with the key. -/
def get? (t : StringTable) (key : String) : Option String :=
  (t.rows.reverse.find? (·.key == key)).map (·.value)

@[simp] theorem get?_empty (key : String) : (⟨[]⟩ : StringTable).get? key = none := rfl

/-- **A pushed row hides the earlier ones with its key.** -/
theorem get?_push (t : StringTable) (r : Row) (key : String) :
    (t.push r).get? key = if r.key = key then some r.value else t.get? key := by
  by_cases h : r.key = key <;> simp [get?, push, h]

/-- A look-up answers the row with the key behind which there is no other one. -/
theorem get?_eq_some_iff {t : StringTable} {key value : String} :
    t.get? key = some value ↔
      ∃ before after, t.rows = before ++ ⟨key, value⟩ :: after ∧ ∀ r ∈ after, r.key ≠ key := by
  unfold get?
  rw [Option.map_eq_some_iff]
  constructor
  · rintro ⟨r, hr, rfl⟩
    obtain ⟨hk, later, earlier, hrows, hlater⟩ := List.find?_eq_some_iff_append.mp hr
    obtain rfl : r.key = key := by simpa using hk
    refine ⟨earlier.reverse, later.reverse, ?_, fun s hs => ?_⟩
    · simpa using congrArg List.reverse hrows
    · simpa using hlater s (List.mem_reverse.mp hs)
  · rintro ⟨before, after, hrows, hafter⟩
    refine ⟨⟨key, value⟩, List.find?_eq_some_iff_append.mpr ?_, rfl⟩
    refine ⟨beq_self_eq_true key, after.reverse, before.reverse, ?_, fun s hs => ?_⟩
    · simp [hrows]
    · simpa using hafter s (List.mem_reverse.mp hs)

/-- A look-up answers nothing exactly where no row has the key. -/
theorem get?_eq_none_iff {t : StringTable} {key : String} :
    t.get? key = none ↔ ∀ r ∈ t.rows, r.key ≠ key := by
  simp [get?]

/-! ## The sorted view -/

/-- Puts a row into rows sorted by key, in place of the one with its key if there is one. -/
def insertSorted (r : Row) : List Row → List Row
  | [] => [r]
  | e :: rest =>
    if r.key = e.key then r :: rest
    else if r.key < e.key then r :: e :: rest
    else e :: insertSorted r rest

/-- The last row of each key, sorted by key in the order of code points. -/
def sorted (t : StringTable) : List Row := t.rows.foldl (fun rows r => insertSorted r rows) []

/-- The text under a key in rows without repeated keys. -/
def lookup (key : String) (rows : List Row) : Option String :=
  (rows.find? (·.key == key)).map (·.value)

theorem lookup_insertSorted (r : Row) (rows : List Row) (key : String) :
    lookup key (insertSorted r rows) = if r.key = key then some r.value else lookup key rows := by
  induction rows with
  | nil => by_cases h : r.key = key <;> simp [insertSorted, lookup, h]
  | cons e rest ih =>
    unfold insertSorted
    split
    · rename_i he
      by_cases h : r.key = key <;> simp [lookup, h, ← he]
    · rename_i he
      split
      · by_cases h : r.key = key <;> simp [lookup, h]
      · by_cases h' : e.key = key
        · have : r.key ≠ key := fun h => he (h.trans h'.symm)
          simp [lookup, h', this]
        · simpa [lookup, h'] using ih

/-- The sorted view answers every look-up as the table does. -/
theorem lookup_sorted (t : StringTable) (key : String) : lookup key t.sorted = t.get? key := by
  suffices h : ∀ rows : List Row, lookup key (rows.reverse.foldl
      (fun rows r => insertSorted r rows) []) = get? ⟨rows.reverse⟩ key by
    simpa [sorted] using h t.rows.reverse
  intro rows
  induction rows with
  | nil => rfl
  | cons r rows ih =>
    have := get?_push ⟨rows.reverse⟩ r key
    simp only [push] at this
    rw [List.reverse_cons, this, List.foldl_append]
    simp only [List.foldl_cons, List.foldl_nil, lookup_insertSorted, ih]

end StringTable

end Dialogue
