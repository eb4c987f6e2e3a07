import Dialogue.Proofs.KeyedLines
import Mathlib.Data.List.Forall2

/-!
# Which text has no key

A localized template yields one row for each of its texts, or none at all. The texts are gone through
screen by screen, each screen's own before those of its choices. The first whose reference is missing
or cannot be read is reported, whatever the texts behind it look like.

* `Line.Keyed`, `Line.Yields`: a line has a key, and yields a row.
* `Line.Keyless`, `Screen.Rowless`, `Template.Rowless`: why a line has no key, and a screen or a
  template yields no rows.

Results:
* `Line.row_eq`: a line has the row for its key, or a reason to have none.
* `Screen.keyFault?_eq_some_iff`: the reason of a screen is that of its first line without a key.
* `Template.conversationRows_eq_elim`: the rows of a template, or the reason of its first screen
  that has one.
* **`Template.conversationRows_reports`**: when a template yields rows, which they are, and the
  reason otherwise.
-/

namespace Dialogue

open Decimal

/-! ## Lines -/

namespace Line

/-- The line has a reference that can be read. -/
def Keyed (l : Line) : Prop :=
  ∃ reference r, l.key = some reference ∧ KeyReference.parse? reference = some r

/-- The row has the text of the line under the key that its reference is read with. -/
def Yields (l : Line) (row : Row) : Prop :=
  ∃ reference r, l.key = some reference ∧ KeyReference.parse? reference = some r ∧
    row = ⟨r.key, l.text⟩

/-- Why a line of the given owner has no key. -/
inductive Keyless (owner : String) (l : Line) : LocalizationError → Prop
  /-- There is no reference. -/
  | missing (absent : l.key = none) : Keyless owner l (.missingKey owner)
  /-- The reference cannot be read. -/
  | malformed {reference : String} (present : l.key = some reference)
      (unreadable : KeyReference.parse? reference = none) :
      Keyless owner l (.malformedKey reference)

/-- The reason for which a line of the given owner has no key, if there is one. -/
def keyFault? (owner : String) (l : Line) : Option LocalizationError :=
  match l.key with
  | none => some (.missingKey owner)
  | some reference =>
    if (KeyReference.parse? reference).isNone then some (.malformedKey reference) else none

variable {owner : String} {l : Line}

theorem row_eq (owner : String) (l : Line) :
    l.row owner = (l.keyFault? owner).elim (.ok l.keyedRow) .error := by
  unfold row keyFault? keyedRow keyId?
  cases l.key with
  | none => rfl
  | some reference => cases h : KeyReference.parse? reference <;> simp [h]

theorem keyFault?_eq_none_iff : l.keyFault? owner = none ↔ l.Keyed := by
  unfold keyFault? Keyed
  cases l.key with
  | none => simp
  | some reference => cases h : KeyReference.parse? reference <;> simp [h]

theorem keyFault?_eq_some_iff {cause : LocalizationError} :
    l.keyFault? owner = some cause ↔ l.Keyless owner cause := by
  unfold keyFault?
  constructor
  · cases hkey : l.key with
    | none =>
      rintro ⟨⟩
      exact .missing hkey
    | some reference =>
      simp only [Option.ite_none_right_eq_some, Option.some.injEq, Option.isNone_iff_eq_none]
      rintro ⟨unreadable, rfl⟩
      exact .malformed hkey unreadable
  · rintro (absent | ⟨present, unreadable⟩)
    · rw [absent]
    · simp [present, unreadable]

/-- A line with a key yields the row under that key, and no other line yields one. -/
theorem yields_iff {row : Row} : l.Yields row ↔ l.Keyed ∧ l.keyedRow = row := by
  constructor
  · rintro ⟨reference, r, present, read, rfl⟩
    refine ⟨⟨reference, r, present, read⟩, ?_⟩
    simp [keyedRow, keyId?, present, read]
  · rintro ⟨⟨reference, r, present, read⟩, rfl⟩
    refine ⟨reference, r, present, read, ?_⟩
    simp [keyedRow, keyId?, present, read]

/-- Lines that have keys yield their rows one by one. -/
theorem forall₂_yields_iff {ls : List Line} {rows : List Row} :
    List.Forall₂ Yields ls rows ↔ (∀ l ∈ ls, l.Keyed) ∧ ls.map keyedRow = rows := by
  induction ls generalizing rows with
  | nil => simp [List.forall₂_nil_left_iff, eq_comm]
  | cons l ls ih =>
    rw [List.forall₂_cons_left_iff, List.forall_mem_cons, List.map_cons]
    constructor
    · rintro ⟨row, rest, here, later, rfl⟩
      obtain ⟨keyed, rfl⟩ := yields_iff.mp here
      obtain ⟨others, rfl⟩ := ih.mp later
      exact ⟨⟨keyed, others⟩, rfl⟩
    · rintro ⟨⟨keyed, others⟩, rfl⟩
      exact ⟨_, _, yields_iff.mpr ⟨keyed, rfl⟩, ih.mpr ⟨others, rfl⟩, rfl⟩

end Line

/-! ## Screens -/

/-- The reason for which the choice at a position of a screen has no key, if there is one. -/
def Choice.keyFault? (screen : String) (c : Choice) (position : Nat) : Option LocalizationError :=
  c.toLine.keyFault? (choiceOwner position screen)

theorem Choice.keyFault?_eq_none_iff {screen : String} (c : Choice) (position : Nat) :
    c.keyFault? screen position = none ↔ c.toLine.Keyed :=
  Line.keyFault?_eq_none_iff

namespace Screen

/-- Why a screen yields no rows: the reason of its first line without a key. Choices are named by
their position, counted from 1. -/
inductive Rowless (s : Screen) (cause : LocalizationError) : Prop
  /-- The screen's own line has no key. -/
  | own (lacks : s.toLine.Keyless ("Screen '" ++ s.name ++ "'") cause)
  /-- The screen's own line has a key, and so have the choices in front of one that has none. -/
  | choice {before after : List Choice} {c : Choice} (own : s.toLine.Keyed)
      (split : s.choices = before ++ c :: after) (earlier : ∀ b ∈ before, b.toLine.Keyed)
      (lacks : c.toLine.Keyless
        ("Option " ++ numeral (before.length + 1) ++ " of screen '" ++ s.name ++ "'") cause)

/-- The reason for which a screen yields no rows, if there is one. -/
def keyFault? (s : Screen) : Option LocalizationError :=
  s.ownedLines.findSome? fun p => p.2.keyFault? p.1

variable {s : Screen}

theorem forall_mem_lines {P : Line → Prop} :
    (∀ l ∈ s.lines, P l) ↔ P s.toLine ∧ ∀ c ∈ s.choices, P c.toLine := by
  simp [lines]

theorem keyFault?_eq (s : Screen) :
    s.keyFault? = (s.toLine.keyFault? (screenOwner s.name)).or
      ((s.choices.zipIdx 1).findSome? fun p => p.1.keyFault? s.name p.2) := by
  rw [keyFault?, ownedLines, List.findSome?_cons, List.findSome?_map]
  cases s.toLine.keyFault? (screenOwner s.name) <;> rfl

theorem keyFault?_eq_none_iff : s.keyFault? = none ↔ ∀ l ∈ s.lines, l.Keyed := by
  rw [keyFault?_eq, Option.or_eq_none_iff, Line.keyFault?_eq_none_iff, forall_mem_lines,
    findSome?_zipIdx_eq_none_iff Choice.keyFault?_eq_none_iff]

theorem keyFault?_eq_some_iff {cause : LocalizationError} :
    s.keyFault? = some cause ↔ s.Rowless cause := by
  rw [keyFault?_eq, Option.or_eq_some_iff, Line.keyFault?_eq_some_iff, Line.keyFault?_eq_none_iff,
    findSome?_zipIdx_eq_some_iff Choice.keyFault?_eq_none_iff]
  constructor
  · rintro (lacks | ⟨own, before, c, after, split, earlier, lacks⟩)
    · exact .own lacks
    · rw [Nat.add_comm] at lacks
      exact .choice own split earlier (Line.keyFault?_eq_some_iff.mp lacks)
  · rintro (lacks | ⟨own, split, earlier, lacks⟩)
    · exact .inl lacks
    · rw [Nat.add_comm] at lacks
      exact .inr ⟨own, _, _, _, split, earlier, Line.keyFault?_eq_some_iff.mpr lacks⟩

end Screen

/-! ## Templates -/

namespace Template

/-- Why a template yields no rows. -/
inductive Rowless (t : Template) : LocalizationError → Prop
  /-- The template shows its texts literally. -/
  | literal (mode : t.localized = false) : Rowless t (.notLocalized t.name)
  /-- The template is localized, and all lines of the screens in front of one have keys. -/
  | screen {before after : List Screen} {s : Screen} {cause : LocalizationError}
      (mode : t.localized = true) (split : t.screens = before ++ s :: after)
      (earlier : ∀ r ∈ before, ∀ l ∈ r.lines, l.Keyed) (lacks : s.Rowless cause) : Rowless t cause

variable {t : Template}

/-- **The rows of a localized template are those of its lines**, unless one of its screens has a
reason to yield none. -/
theorem conversationRows_eq_elim (h : t.localized = true) :
    t.conversationRows =
      (t.screens.findSome? Screen.keyFault?).elim (.ok (t.lines.map Line.keyedRow)) .error := by
  have faults : t.ownedLines.findSome? (fun p => p.2.keyFault? p.1) =
      t.screens.findSome? Screen.keyFault? := findSome?_flatMap _ _ t.screens
  have rows : t.ownedLines.map (fun p => p.2.keyedRow) = t.lines.map Line.keyedRow := by
    rw [← map_snd_ownedLines, List.map_map]
    rfl
  rw [conversationRows_eq h, mapM_eq_findSome? fun p : String × Line => p.2.row_eq p.1, faults, rows]

theorem conversationRows_of_literal (h : t.localized = false) :
    t.conversationRows = .error (.notLocalized t.name) := by
  simp [conversationRows, h]

theorem findSome?_keyFault?_eq_none_iff :
    t.screens.findSome? Screen.keyFault? = none ↔ ∀ l ∈ t.lines, l.Keyed := by
  rw [List.findSome?_eq_none_iff, Draft.lines, List.forall_mem_flatMap]
  exact forall₂_congr fun s _ => Screen.keyFault?_eq_none_iff

/-- A template yields the rows of its lines exactly if it is localized and all of them have keys. -/
theorem conversationRows_eq_ok_iff_keyed {rows : List Row} :
    t.conversationRows = .ok rows ↔
      t.localized = true ∧ (∀ l ∈ t.lines, l.Keyed) ∧ t.lines.map Line.keyedRow = rows := by
  cases mode : t.localized with
  | false => simp [conversationRows_of_literal mode]
  | true =>
    rw [conversationRows_eq_elim mode, ← findSome?_keyFault?_eq_none_iff]
    cases t.screens.findSome? Screen.keyFault? <;> simp

theorem conversationRows_eq_error_iff {cause : LocalizationError} :
    t.conversationRows = .error cause ↔ t.Rowless cause := by
  cases mode : t.localized with
  | false =>
    rw [conversationRows_of_literal mode, Except.error.injEq]
    constructor
    · rintro rfl
      exact .literal mode
    · intro h
      cases h with
      | literal => rfl
      | screen localized => simp [mode] at localized
  | true =>
    have faulty : t.conversationRows = .error cause ↔
        t.screens.findSome? Screen.keyFault? = some cause := by
      rw [conversationRows_eq_elim mode]
      cases t.screens.findSome? Screen.keyFault? <;> simp
    rw [faulty, List.findSome?_eq_some_iff]
    constructor
    · rintro ⟨before, s, after, split, lacks, none⟩
      exact .screen mode split (fun r hr => Screen.keyFault?_eq_none_iff.mp (none r hr))
        (Screen.keyFault?_eq_some_iff.mp lacks)
    · intro h
      cases h with
      | literal literal => simp [mode] at literal
      | screen _ split earlier lacks =>
        exact ⟨_, _, _, split, Screen.keyFault?_eq_some_iff.mpr lacks,
          fun r hr => Screen.keyFault?_eq_none_iff.mpr (earlier r hr)⟩

/-- **A template yields rows exactly if it is localized and every text has a reference that can be
read.** Then there is one row for each text in the order of the lines, with the key of its reference.
Otherwise the error says that the template is not localized, or else which is the first text without
a key: the screen or the position of the choice if it has no reference, and the reference if that
cannot be read. -/
theorem conversationRows_reports (t : Template) :
    ((∃ rows, t.conversationRows = .ok rows) ↔
        t.localized = true ∧ ∀ s ∈ t.screens, s.toLine.Keyed ∧ ∀ c ∈ s.choices, c.toLine.Keyed) ∧
      (∀ rows, t.conversationRows = .ok rows ↔
        t.localized = true ∧ List.Forall₂ Line.Yields t.lines rows) ∧
      ∀ cause, t.conversationRows = .error cause ↔ t.Rowless cause := by
  refine ⟨?_, fun rows => ?_, fun cause => conversationRows_eq_error_iff⟩
  · simp only [conversationRows_eq_ok_iff_keyed, Draft.lines, List.forall_mem_flatMap,
      Screen.forall_mem_lines]
    constructor
    · rintro ⟨_, mode, keyed, _⟩
      exact ⟨mode, keyed⟩
    · rintro ⟨mode, keyed⟩
      exact ⟨_, mode, keyed, rfl⟩
  · rw [conversationRows_eq_ok_iff_keyed, Line.forall₂_yields_iff]

/-- A wharf with a choice that has no reference, and a screen behind it whose reference has no key.
The crane in front of both may lack a reference of its own. -/
def wharf (keyed : Bool) : Template :=
  .ofDraft
    { name := "wharf"
      localized := true
      screens :=
        [{ id := ⟨1⟩, name := "crane", text := "Mind the load."
           key := if keyed then some "wharf:s_1" else none
           choices := [{ text := "Lower it.", key := some "wharf:s_2" }, { text := "Wait." }] },
          { id := ⟨2⟩, name := "barge", text := "All aboard.", key := some "s_3" }] }
    (by cases keyed <;> decide)

/-- The crane is reported by its name, or else its second choice by its position. -/
theorem conversationRows_reports_wharf :
    (wharf false).conversationRows = .error (.missingKey "Screen 'crane'") ∧
      (wharf true).conversationRows = .error (.missingKey "Option 2 of screen 'crane'") := by
  have own : (wharf false).Rowless (.missingKey "Screen 'crane'") := by
    refine .screen rfl (List.nil_append _).symm nofun (.own ?_)
    exact .missing rfl
  have choice : (wharf true).Rowless (.missingKey "Option 2 of screen 'crane'") := by
    refine .screen rfl (List.nil_append _).symm nofun ?_
    have lower : ∀ b ∈ [({ text := "Lower it.", key := some "wharf:s_2" } : Choice)],
        b.toLine.Keyed := fun b hb => List.mem_singleton.mp hb ▸ ⟨_, _, rfl, rfl⟩
    exact .choice ⟨_, _, rfl, rfl⟩ rfl lower (.missing rfl)
  obtain ⟨-, -, bare⟩ := conversationRows_reports (wharf false)
  obtain ⟨-, -, keyed⟩ := conversationRows_reports (wharf true)
  exact ⟨(bare _).mpr own, (keyed _).mpr choice⟩

end Template

end Dialogue
