import Dialogue.Proofs.Json.Skipping
import Mathlib.Data.List.Nodup

/-!
# The forms of values

A value may be written in many ways: the members of an object stand in any order, with members of
other names between them and blanks around everything, and what holds its default may be left out.
A form says which characters are a way to write a value, without regard to the writer. A reader that
takes each of them for the value depends on none of these choices.

* `NamedPart`: a part of a value that an object holds under a name, with what it is when the object
  lacks it.
* `Form.object`: the ways to write a value with the given parts as an object.
* `Record.Fits`: each field of the record reads and stores one of the parts.

Results:
* `reads_text`, `reads_natural`, `reads_boolean`, `reads_optional`, `reads_list`: simple values and
  lists are read in each of their forms.
* **`Record.reads_object`**: so are objects, if the record fits.
* `parse_of_whole`: so are whole texts.
-/

namespace Dialogue.Json

open Decimal

/-! ## Simple values and lists -/

section

variable {α : Type} {reader : Reader α} {form : Form α}

/-- A number is written in decimal digits. -/
def Form.natural : Form UInt64 := fun n cs => cs = digits n.toNat

/-- A truth value is written as a word. -/
def Form.boolean : Form Bool := fun b cs =>
  cs = if b then ['t', 'r', 'u', 'e'] else ['f', 'a', 'l', 's', 'e']

/-- A value that is absent is written as a word, too. -/
def Form.optional (form : Form α) : Form (Option α)
  | none, cs => cs = ['n', 'u', 'l', 'l']
  | some a, cs => form a cs

/-- A list is written with its values in brackets. -/
def Form.list (form : Form α) : Form (List α) := fun values cs =>
  ∃ pieces inside, cs = '[' :: inside ∧ Enclosed .list true pieces inside ∧
    List.Forall₂ (fun piece value => form value piece) pieces values

/-- The reader takes a value from each of its forms. -/
def Reads (reader : Reader α) (form : Form α) : Prop := ∀ a cs, form a cs → Takes reader cs a

theorem reads_text : Reads Reader.text Form.text := fun _ _ => takes_form_text

theorem reads_natural : Reads Reader.natural Form.natural := by
  rintro n cs rfl
  exact takes_natural n

theorem reads_boolean : Reads Reader.boolean Form.boolean := by
  rintro b cs rfl
  exact takes_boolean b 0

/-- A value that may be absent is read, if it never looks like the word for its absence. -/
theorem reads_optional (h : Reads reader form)
    (apart : ∀ a cs, form a cs → cs.head? ≠ some 'n') :
    Reads (Reader.optional reader) form.optional := by
  intro o cs hcs
  cases o with
  | none =>
    obtain rfl := hcs
    exact takes_null
  | some a => exact takes_some (h a cs hcs) (apart a cs hcs)

theorem head?_of_text {s : String} {cs : List Char} (h : Form.text s cs) :
    cs.head? ≠ some 'n' := by
  obtain ⟨body, -, rfl⟩ := h
  show some '"' ≠ some 'n'
  decide

theorem head?_of_natural {n : UInt64} {cs : List Char} (h : Form.natural n cs) :
    cs.head? ≠ some 'n' := by
  obtain rfl := h
  intro head
  cases isDigit_of_mem_digits (List.mem_of_head? head)

theorem reads_list (h : Reads reader form) : Reads (Reader.list reader) form.list := by
  rintro values cs ⟨pieces, inside, rfl, enclosed, forms⟩
  exact takes_list enclosed (forms.imp fun piece value => h value piece)

end

/-! ## Objects -/

/-- A part of a value that an object holds under a name. -/
structure NamedPart (α : Type) where
  /-- The type of the part. -/
  type : Type
  /-- Its name. -/
  name : String
  /-- The part of a value. -/
  get : α → type
  /-- How it may be written. -/
  form : Form type
  /-- What it is when the object lacks it; none if it is required. -/
  default : Option type

namespace NamedPart

variable {α β : Type}

/-- A part that must be there. -/
abbrev required (name : String) (get : α → β) (form : Form β) : NamedPart α :=
  ⟨β, name, get, form, none⟩

/-- A part that may be left out where it is the given value. -/
abbrev defaulted (name : String) (get : α → β) (form : Form β) (default : β) : NamedPart α :=
  ⟨β, name, get, form, some default⟩

/-- A part that may be absent. -/
abbrev optional (name : String) (get : α → Option β) (form : Form β) : NamedPart α :=
  defaulted name get form.optional none

/-- A member of an object for a value with the given parts. It holds the part of its name, and if
there is none, it may hold anything. -/
structure IsMember (parts : List (NamedPart α)) (a : α) (m : Member) (name : String) : Prop where
  /-- The name may be spelled in any way. -/
  label : Form.text name m.label
  /-- There may be blanks around the colon. -/
  spaced : m.IsSpaced
  /-- The part of that name. -/
  known : ∀ p ∈ parts, p.name = name → p.form (p.get a) m.value
  /-- Any value. -/
  unknown : (∀ p ∈ parts, p.name ≠ name) → IsValue m.value

end NamedPart

section

variable {α : Type} {parts : List (NamedPart α)} {r : Record α} {a : α}

/-- A value is written as an object whose members come in any order. None of its parts comes twice,
and what is left out has its default. -/
def Form.object (parts : List (NamedPart α)) : Form α := fun a cs =>
  ∃ members names inside, cs = '\x7b' :: inside ∧
    Enclosed .object true (members.map Member.chars) inside ∧
    List.Forall₂ (NamedPart.IsMember parts a) members names ∧
    ∀ p ∈ parts, names.count p.name ≤ 1 ∧ (p.name ∉ names → p.default = some (p.get a))

/-- The field reads the part, and stores it without a change to the others. -/
inductive Field.Fits (parts : List (NamedPart α)) : Field α → NamedPart α → Prop
  /-- What has a default is not required. -/
  | stores {β : Type} {name : String} {reader : Reader β} {set : β → α → α} {required : Bool}
      {get : α → β} {form : Form β} {default : Option β} (reads : Reads reader form)
      (get_set : ∀ b v, get (set b v) = b)
      (apart : ∀ p ∈ parts, p.name ≠ name → ∀ b v, p.get (set b v) = p.get v)
      (needed : required = true → default = none) :
    Field.Fits parts (field name reader set required) ⟨β, name, get, form, default⟩

theorem Field.Fits.name_eq {f : Field α} {p : NamedPart α} (h : Field.Fits parts f p) :
    f.name = p.name := by
  cases h
  rfl

theorem Field.Fits.default_eq_none {f : Field α} {p : NamedPart α} (h : Field.Fits parts f p)
    (required : f.required = true) : p.default = none := by
  cases h with
  | stores reads get_set apart needed => exact needed required

namespace Record

/-- The record reads values with the given parts. -/
structure Fits (r : Record α) (parts : List (NamedPart α)) : Prop where
  /-- Each field reads a part. -/
  fields : List.Forall₂ (Field.Fits parts) r.fields parts
  /-- The names differ. -/
  nodup : (parts.map (·.name)).Nodup
  /-- Where nothing has been stored, parts are their defaults. -/
  blank : ∀ p ∈ parts, ∀ b, p.default = some b → p.get r.blank = b
  /-- There are no other parts. -/
  ext : ∀ v w, (∀ p ∈ parts, p.get v = p.get w) → v = w

theorem map_name_of_fits {fields : List (Field α)} {others : List (NamedPart α)}
    (h : List.Forall₂ (Field.Fits parts) fields others) :
    fields.map (·.name) = others.map (·.name) := by
  induction h with
  | nil => rfl
  | cons here _ ih => rw [List.map_cons, List.map_cons, here.name_eq, ih]

theorem exists_find?_of_fits {fields : List (Field α)} {others : List (NamedPart α)}
    {p : NamedPart α} (h : List.Forall₂ (Field.Fits parts) fields others)
    (nodup : (others.map (·.name)).Nodup) (hp : p ∈ others) :
    ∃ f, fields.find? (·.name == p.name) = some f ∧ Field.Fits parts f p := by
  induction h with
  | nil => cases hp
  | @cons f q fields others here later ih =>
    have name := here.name_eq
    rw [List.map_cons, List.nodup_cons] at nodup
    rcases List.mem_cons.mp hp with rfl | hp
    · exact ⟨f, List.find?_cons_of_pos (beq_iff_eq.mpr name), here⟩
    · obtain ⟨g, found, fits⟩ := ih nodup.2 hp
      have apart : f.name ≠ p.name := by
        intro same
        exact nodup.1 (name ▸ same ▸ List.mem_map_of_mem hp)
      exact ⟨g, by rwa [List.find?_cons_of_neg (by simpa using apart)], fits⟩

/-- A required field has a part without a default. -/
theorem exists_part_of_fits {fields : List (Field α)} {others : List (NamedPart α)} {f : Field α}
    (h : List.Forall₂ (Field.Fits parts) fields others) (hf : f ∈ fields)
    (required : f.required = true) : ∃ p ∈ others, p.name = f.name ∧ p.default = none := by
  induction h with
  | nil => cases hf
  | @cons g p fields others here _ ih =>
    rcases List.mem_cons.mp hf with rfl | hf
    · exact ⟨p, List.mem_cons_self, here.name_eq.symm, here.default_eq_none required⟩
    · obtain ⟨q, hq, found⟩ := ih hf
      exact ⟨q, List.mem_cons_of_mem p hq, found⟩

theorem Fits.knows_iff (h : r.Fits parts) (name : String) :
    r.knows name = true ↔ ∃ p ∈ parts, p.name = name := by
  have names := map_name_of_fits h.fields
  calc r.knows name = true ↔ name ∈ r.fields.map (·.name) := by simp [knows, List.any_eq_true]
    _ ↔ name ∈ parts.map (·.name) := by rw [names]
    _ ↔ ∃ p ∈ parts, p.name = name := List.mem_map

/-- A member of an unknown name stores nothing. -/
theorem stores_unknown {m : Member} {name : String} (unknown : r.knows name = false)
    (hname : Form.text name m.label) (spaced : m.IsSpaced) (h : IsValue m.value) :
    r.Stores m.chars name id := by
  refine ⟨beginsItem_append (beginsItem_of_text hname), fun seen value rest hrest _ =>
    ⟨m.before ++ ':' :: (m.after ++ (m.value ++ rest)), ?_, ?_⟩⟩
  · unfold Member.chars
    rw [List.append_assoc, memberName_of_text hname]
    simp
  · have absent : r.fields.find? (·.name == name) = none := by
      rw [List.find?_eq_none]
      intro f hf same
      have known : r.knows name = true := List.any_eq_true.mpr ⟨f, hf, same⟩
      rw [unknown] at known
      cases known
    unfold member
    rw [absent]
    simp only [colon_append spaced.before, skipValue_of_isValue h spaced.after hrest, bind,
      Except.bind]
    rfl

/-- Of the given parts, the function replaces the one of the given name by that of `a`. -/
def Brings (parts : List (NamedPart α)) (a : α) (name : String) (store : α → α) : Prop :=
  ∀ p ∈ parts, ∀ v, (p.name = name → p.get (store v) = p.get a) ∧
    (p.name ≠ name → p.get (store v) = p.get v)

/-- **A member is read, and it brings the part of its name.** -/
theorem Fits.exists_stores (h : r.Fits parts) {m : Member} {name : String}
    (hm : NamedPart.IsMember parts a m name) :
    ∃ store, r.Stores m.chars name store ∧ Brings parts a name store := by
  by_cases known : ∃ p ∈ parts, p.name = name
  · obtain ⟨p, hp, rfl⟩ := known
    obtain ⟨f, found, fits⟩ := exists_find?_of_fits h.fields h.nodup hp
    have form := hm.known p hp rfl
    cases fits with
    | @stores β name reader set required get form default reads get_set apart =>
      refine ⟨set (get a), stores_field found hm.label hm.spaced.before hm.spaced.after
        (reads _ _ form), fun q hq v => ⟨fun same => ?_, fun other => apart q hq other _ v⟩⟩
      obtain rfl := List.inj_on_of_nodup_map h.nodup hq hp same
      exact get_set (get a) v
  · have unknown : ∀ p ∈ parts, p.name ≠ name := fun p hp same => known ⟨p, hp, same⟩
    have notKnown : r.knows name = false :=
      Bool.eq_false_iff.mpr (mt (h.knows_iff name).mp known)
    exact ⟨id, stores_unknown notKnown hm.label hm.spaced (hm.unknown unknown),
      fun q hq v => ⟨fun same => absurd same (unknown q hq), fun _ => rfl⟩⟩

theorem Fits.exists_entries (h : r.Fits parts) {members : List Member} {names : List String}
    (hm : List.Forall₂ (NamedPart.IsMember parts a) members names) :
    ∃ entries : List (String × (α → α)), entries.map (·.1) = names ∧
      List.Forall₂ (fun piece entry => r.Stores piece entry.1 entry.2) (members.map Member.chars)
        entries ∧
      ∀ entry ∈ entries, Brings parts a entry.1 entry.2 := by
  induction hm with
  | nil => exact ⟨[], rfl, .nil, fun _ h => nomatch h⟩
  | @cons m name members names here _ ih =>
    obtain ⟨store, stores, brings⟩ := h.exists_stores here
    obtain ⟨entries, rfl, later, bring⟩ := ih
    exact ⟨(name, store) :: entries, rfl, .cons stores later,
      List.forall_mem_cons.mpr ⟨brings, bring⟩⟩

/-- What has been brought stays, and so does what was there from the beginning. -/
theorem get_foldl {entries : List (String × (α → α))}
    (brings : ∀ entry ∈ entries, Brings parts a entry.1 entry.2) {p : NamedPart α} (hp : p ∈ parts)
    {v : α} (h : p.name ∉ entries.map (·.1) → p.get v = p.get a) :
    p.get (entries.foldl (fun value entry => entry.2 value) v) = p.get a := by
  induction entries generalizing v with
  | nil => exact h (List.not_mem_nil)
  | cons entry entries ih =>
    obtain ⟨brought, kept⟩ := brings entry List.mem_cons_self p hp v
    refine ih (fun e he => brings e (List.mem_cons_of_mem _ he)) fun absent => ?_
    by_cases same : p.name = entry.1
    · exact brought same
    · rw [kept same]
      exact h (by simp [same, absent])

/-- **An object is read in each of its forms**, if the record fits. -/
theorem reads_object (h : r.Fits parts) : Reads r.read (Form.object parts) := by
  rintro a cs ⟨members, names, inside, rfl, enclosed, forms, once⟩
  obtain ⟨entries, rfl, stores, brings⟩ := h.exists_entries forms
  have nodup : ((entries.map (·.1)).filter r.knows).Nodup := by
    refine List.nodup_iff_count_le_one.mpr fun name => ?_
    by_cases known : r.knows name = true
    · obtain ⟨p, hp, rfl⟩ := (h.knows_iff name).mp known
      exact (List.filter_sublist.count_le p.name).trans (once p hp).1
    · have absent : name ∉ (entries.map (·.1)).filter r.knows :=
        fun hname => known (List.mem_filter.mp hname).2
      rw [List.count_eq_zero_of_not_mem absent]
      exact Nat.zero_le 1
  have complete : ∀ f ∈ r.fields, f.required = true → f.name ∈ entries.map (·.1) := by
    intro f hf required
    obtain ⟨p, hp, name, none⟩ := exists_part_of_fits h.fields hf required
    by_contra absent
    have default := (once p hp).2 (name ▸ absent)
    rw [none] at default
    cases default
  have whole : entries.foldl (fun value entry => entry.2 value) r.blank = a :=
    h.ext _ _ fun p hp => get_foldl brings hp fun absent =>
      h.blank p hp _ ((once p hp).2 absent)
  exact whole ▸ takes_object enclosed stores nodup complete

end Record

end

/-! ## Whole texts -/

section

variable {α : Type} {reader : Reader α} {form : Form α}

/-- A whole text holds the value in one of its forms, and nothing else but blanks. -/
def Form.Whole (form : Form α) (a : α) (text : String) : Prop :=
  ∃ gap cs gap', text.toList = gap ++ (cs ++ gap') ∧ gap.all isGap = true ∧
    gap'.all isGap = true ∧ form a cs

/-- **A whole text is read in each of its forms.** -/
theorem parse_of_whole (h : Reads reader form) {a : α} {text : String} (ht : form.Whole a text) :
    parse reader text = .ok a := by
  obtain ⟨gap, cs, gap', written, hgap, hgap', hcs⟩ := ht
  exact (h a cs hcs).parse_eq written hgap hgap'

end

end Dialogue.Json
