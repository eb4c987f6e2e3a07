import Dialogue.Proofs.Json.Brackets

/-!
# Layouts are read as they were written

A layout writes a value over several lines, indented by the number of brackets around it. Whatever
that number is, a reader takes the value off the text.

* `Layout.Writes`: at any depth, a layout writes what a reader takes for the given value.
* `Layout.Keeps`: at any depth, a member of an object has the given name and stores what the given
  function stores.

Results:
* `Layout.writes_text`, `Layout.writes_boolean`, `Layout.writes_natural`, `Layout.writes_optional`:
  simple values are read back.
* `Layout.exists_enclosed_bracket`: what is written between the characters of a bracket are its
  members, be it opened up over several lines or empty.
* **`Layout.writes_list`**, **`Layout.writes_object`**: hence lists and objects are read back.
* `Layout.parse_render`: so is a whole text.
-/

namespace Dialogue.Json

open Decimal

namespace Layout

/-- At any depth, the layout writes what the reader takes for the value `a`. -/
def Writes {α : Type} (reader : Reader α) (layout : Layout) (a : α) : Prop :=
  ∀ depth, Takes reader (layout depth) a

/-! ## Simple values -/

theorem writes_text (s : String) : Writes Reader.text (.text s) s := fun _ => takes_text s

theorem writes_boolean (b : Bool) : Writes Reader.boolean (.boolean b) b := takes_boolean b

theorem writes_natural (n : UInt64) : Writes Reader.natural (.natural n) n := fun _ => takes_natural n

/-- A value that may be absent is read back, if it never looks like `null`. -/
theorem writes_optional {α : Type} {reader : Reader α} {layout : α → Layout} {o : Option α}
    (h : ∀ a, Writes reader (layout a) a) (hn : ∀ a depth, (layout a depth).head? ≠ some 'n') :
    Writes (Reader.optional reader) (.optional layout o) o := by
  intro depth
  cases o with
  | none => exact takes_null
  | some a => exact takes_some (h a depth) (hn a depth)

theorem writes_optional_text (o : Option String) :
    Writes (Reader.optional Reader.text) (.optional .text o) o :=
  writes_optional writes_text fun _ _ => by
    show some '"' ≠ some 'n'
    decide

theorem head?_natural (n : UInt64) (depth : Nat) : (natural n depth).head? ≠ some 'n' := by
  intro h
  have hmem : 'n' ∈ digits n.toNat := List.mem_of_head? h
  cases isDigit_of_mem_digits hmem

/-! ## Brackets -/

/-- Commas stand between the members of a bracket. -/
theorem members_cons (depth : Nat) (m : Layout) (ms : List Layout) :
    members depth (m :: ms) =
      newLine depth ++ (m depth ++ ms.flatMap fun m => ',' :: (newLine depth ++ m depth)) := by
  induction ms generalizing m with
  | nil => simp [members]
  | cons n ms ih => simp [members, ih]

theorem all_isGap_newLine (depth : Nat) : (newLine depth).all isGap = true := by
  unfold newLine
  rw [List.all_cons, List.all_replicate]
  simp [isGap]

/-- What is written between the characters of a bracket are its members. -/
theorem exists_enclosed_bracket (b : Bracket) (opening : Char) {ms : List Layout} {depth : Nat}
    (begins : ∀ m ∈ ms, beginsItem (m (depth + 1)) = true) :
    ∃ inside, bracket opening b.close ms depth = opening :: inside ∧
      Enclosed b true (ms.map (· (depth + 1))) inside := by
  have later : ∀ {ms : List Layout}, (∀ m ∈ ms, beginsItem (m (depth + 1)) = true) →
      Enclosed b false (ms.map (· (depth + 1)))
        ((ms.flatMap fun m => ',' :: (newLine (depth + 1) ++ m (depth + 1))) ++
          (newLine depth ++ [b.close])) := by
    intro ms begins
    induction ms with
    | nil => exact .finished (all_isGap_newLine depth)
    | cons m ms ih =>
      have rest := ih fun n hn => begins n (List.mem_cons_of_mem m hn)
      have here := Enclosed.next all_isGap_nil (all_isGap_newLine (depth + 1))
        (begins m List.mem_cons_self) rest
      rw [List.flatMap_cons, List.cons_append, List.cons_append, List.append_assoc,
        List.append_assoc]
      exact here
  cases ms with
  | nil => exact ⟨[b.close], rfl, .finished all_isGap_nil⟩
  | cons m ms =>
    have rest := later fun n hn => begins n (List.mem_cons_of_mem m hn)
    have here := Enclosed.first (all_isGap_newLine (depth + 1)) (begins m List.mem_cons_self) rest
    refine ⟨_, ?_, here⟩
    unfold bracket
    rw [members_cons]
    simp

/-- **A list is read back.** -/
theorem writes_list {α : Type} {reader : Reader α} {layout : α → Layout} {as : List α}
    (h : ∀ a ∈ as, Writes reader (layout a) a) :
    Writes (Reader.list reader) (.list (as.map layout)) as := by
  intro depth
  have takes : ∀ a ∈ as, Takes reader (layout a (depth + 1)) a := fun a ha => h a ha (depth + 1)
  have begins : ∀ m ∈ as.map layout, beginsItem (m (depth + 1)) = true := by
    intro m hm
    obtain ⟨a, ha, rfl⟩ := List.mem_map.mp hm
    exact (takes a ha).begins
  obtain ⟨inside, written, enclosed⟩ := exists_enclosed_bracket .list '[' begins
  have written : list (as.map layout) depth = '[' :: inside := written
  rw [written]
  refine takes_list enclosed ?_
  rw [List.map_map, List.forall₂_map_left_iff]
  exact List.forall₂_same.mpr takes

section

variable {α β : Type} {r : Record α}

/-- The member of an object, at any depth, has the name of the entry and stores what it stores. -/
def Keeps (r : Record α) (m : String × Layout) (entry : String × (α → α)) : Prop :=
  ∀ depth, r.Stores (member m.1 m.2 depth) entry.1 entry.2

/-- A member with a known name keeps its value. -/
theorem keeps_field {reader : Reader β} (name : String) {set : β → α → α} {required : Bool}
    {layout : Layout} {b : β}
    (found : r.fields.find? (·.name == name) = some (field name reader set required))
    (h : Writes reader layout b) : Keeps r (name, layout) (name, set b) :=
  have blank : [' '].all isGap = true := rfl
  fun depth => Record.stores_field found (text_quotedText name) all_isGap_nil blank (h depth)

/-- **An object is read as what its members keep**, if none of their names repeats and none that is
required is missing. -/
theorem writes_object {ms : List (String × Layout)} {entries : List (String × (α → α))}
    (names : List String) (keeps : List.Forall₂ (Keeps r) ms entries)
    (hnames : entries.map (·.1) = names) (nodup : names.Nodup)
    (complete : ∀ f ∈ r.fields, f.required = true → f.name ∈ names) :
    Writes r.read (.object ms) (entries.foldl (fun value entry => entry.2 value) r.blank) := by
  intro depth
  have begins : ∀ m ∈ ms.map fun m => member m.1 m.2, beginsItem (m (depth + 1)) = true := by
    intro m hm
    obtain ⟨n, -, rfl⟩ := List.mem_map.mp hm
    rfl
  obtain ⟨inside, written, enclosed⟩ := exists_enclosed_bracket .object '\x7b' begins
  have written : object ms depth = '\x7b' :: inside := written
  rw [List.map_map] at enclosed
  have stores : List.Forall₂ (fun piece (entry : String × (α → α)) => r.Stores piece entry.1 entry.2)
      (ms.map fun m => member m.1 m.2 (depth + 1)) entries :=
    List.forall₂_map_left_iff.mpr (keeps.imp fun _ _ h => h (depth + 1))
  rw [written]
  exact Record.takes_object enclosed stores (hnames ▸ nodup.filter _) (hnames ▸ complete)

end

/-- A text that holds nothing but a written value is read back. -/
theorem parse_render {α : Type} {reader : Reader α} {layout : Layout} {a : α}
    (h : Writes reader layout a) : parse reader layout.render = .ok a := by
  have written : layout.render.toList = [] ++ (layout 0 ++ []) := by simp [render]
  exact (h 0).parse_eq written all_isGap_nil all_isGap_nil

end Layout

end Dialogue.Json
