import Dialogue.Proofs.Json.Values
import Mathlib.Data.List.Forall2

/-!
# Reading lists and objects

Between the characters of a bracket stand its items, with commas in between and blanks anywhere. The
items of a list are values of one kind. Those of an object have names, and each says what to store;
which it is does not depend on the place where it stands.

* `Enclosed`: the items of a bracket, the blanks and commas between them, and its closing character.
* `Record.Stores`: an item of an object has the given name and stores what the given function stores.

Results:
* **`takes_list`**: a list of values that are read back is read back.
* **`Record.takes_object`**: an object is read as what its items store, one after the other, if no
  known name repeats and none that is required is missing.
-/

namespace Dialogue.Json

/-! ## Inside of brackets -/

/-- The given items stand in an open bracket, from in front of the first of them or from behind an
earlier one, up to the character that closes the bracket. -/
inductive Enclosed (b : Bracket) : (isFirst : Bool) → (pieces : List (List Char)) → List Char → Prop
  /-- There are no items left. -/
  | finished {isFirst : Bool} {gap : List Char} (hgap : gap.all isGap = true) :
    Enclosed b isFirst [] (gap ++ [b.close])
  /-- The first item. -/
  | first {gap piece cs : List Char} {pieces : List (List Char)} (hgap : gap.all isGap = true)
      (begins : beginsItem piece = true) (later : Enclosed b false pieces cs) :
    Enclosed b true (piece :: pieces) (gap ++ (piece ++ cs))
  /-- An item behind a comma. -/
  | next {gap gap' piece cs : List Char} {pieces : List (List Char)} (hgap : gap.all isGap = true)
      (hgap' : gap'.all isGap = true) (begins : beginsItem piece = true)
      (later : Enclosed b false pieces cs) :
    Enclosed b false (piece :: pieces) (gap ++ ',' :: (gap' ++ (piece ++ cs)))

variable {b : Bracket} {cs rest : List Char} {pieces : List (List Char)}

/-- Behind blanks, a comma or the closing character ends a value. -/
theorem endsValue_append {gap : List Char} {c : Char} (hgap : gap.all isGap = true)
    (h : endsValue (c :: cs) = true) : endsValue (gap ++ c :: cs) = true := by
  cases gap with
  | nil => exact h
  | cons d gap =>
    rw [List.all_cons, Bool.and_eq_true] at hgap
    simp [endsValue, hgap.1]

theorem Enclosed.endsValue (h : Enclosed b false pieces cs) (rest : List Char) :
    endsValue (cs ++ rest) = true := by
  cases h with
  | finished hgap =>
    rw [List.append_assoc]
    exact endsValue_append hgap (by cases b <;> rfl)
  | next hgap =>
    rw [List.append_assoc]
    exact endsValue_append hgap rfl

/-- Each item takes up a character, and so does the closing of the bracket. -/
theorem Enclosed.length_lt {isFirst : Bool} (h : Enclosed b isFirst pieces cs) :
    pieces.length < cs.length := by
  have nonempty : ∀ piece, beginsItem piece = true → 0 < piece.length := by
    rintro (_ | ⟨c, piece⟩) hb
    · exact absurd hb Bool.false_ne_true
    · exact Nat.succ_pos _
  induction h with
  | finished => simp
  | first _ begins _ ih =>
    have := nonempty _ begins
    simp only [List.length_cons, List.length_append]
    omega
  | next _ _ begins _ ih =>
    have := nonempty _ begins
    simp only [List.length_cons, List.length_append]
    omega

/-- So going through the text step by step does not end before the bracket. -/
theorem Enclosed.length_lt_append {isFirst : Bool} (h : Enclosed b isFirst pieces cs)
    (rest : List Char) : pieces.length < (cs ++ rest).length := by
  have := h.length_lt
  rw [List.length_append]
  omega

theorem not_isGap_close (b : Bracket) : isGap b.close = false := by cases b <;> rfl

theorem skipGaps_close {gap : List Char} (hgap : gap.all isGap = true) :
    skipGaps (gap ++ [b.close] ++ rest) = b.close :: rest := by
  rw [List.append_assoc]
  exact skipGaps_append_cons hgap (not_isGap_close b)

theorem ne_close_of_beginsItem {c : Char} (h : beginsItem (c :: cs) = true) : c ≠ b.close := by
  unfold beginsItem at h
  simp only [Bool.and_eq_true, bne_iff_ne, ne_eq] at h
  cases b
  · exact h.1.2
  · exact h.2

theorem nextItem_finished {gap : List Char} {isFirst : Bool} (hgap : gap.all isGap = true) :
    nextItem b.close isFirst (gap ++ [b.close] ++ rest) = .ok (.finished rest) := by
  unfold nextItem
  rw [skipGaps_close hgap]
  exact if_pos rfl

theorem nextItem_first {gap : List Char} (hgap : gap.all isGap = true)
    (h : beginsItem cs = true) : nextItem b.close true (gap ++ cs) = .ok (.item cs) := by
  unfold nextItem
  rw [skipGaps_append hgap, skipGaps_of_beginsItem h]
  cases cs with
  | nil => exact absurd h Bool.false_ne_true
  | cons c cs => simp [ne_close_of_beginsItem h]

theorem nextItem_next {gap gap' : List Char} (hgap : gap.all isGap = true)
    (hgap' : gap'.all isGap = true) (h : beginsItem cs = true) :
    nextItem b.close false (gap ++ ',' :: (gap' ++ cs)) = .ok (.item cs) := by
  have apart : ',' ≠ b.close := by cases b <;> decide
  unfold nextItem
  rw [skipGaps_append_cons hgap rfl]
  simp only [if_neg apart, Bool.false_eq_true, if_false, if_true]
  rw [skipGaps_append hgap', skipGaps_of_beginsItem h]
  cases cs with
  | nil => exact absurd h Bool.false_ne_true
  | cons c cs => simp [ne_close_of_beginsItem h]

/-- Where there are no items left, the bracket is closed. -/
theorem Enclosed.nextItem_nil {isFirst : Bool} (h : Enclosed b isFirst [] cs) :
    nextItem b.close isFirst (cs ++ rest) = .ok (.finished rest) := by
  cases h with
  | finished hgap => exact nextItem_finished hgap

/-- Otherwise the next item is found, and the others follow. -/
theorem Enclosed.nextItem_cons {isFirst : Bool} {piece : List Char}
    (h : Enclosed b isFirst (piece :: pieces) cs) (rest : List Char) :
    ∃ later, nextItem b.close isFirst (cs ++ rest) = .ok (.item (piece ++ (later ++ rest))) ∧
      Enclosed b false pieces later := by
  cases h with
  | @first gap _ later _ hgap begins h =>
    refine ⟨later, ?_, h⟩
    rw [List.append_assoc, List.append_assoc]
    exact nextItem_first hgap (beginsItem_append begins)
  | @next gap gap' _ later _ hgap hgap' begins h =>
    refine ⟨later, ?_, h⟩
    rw [List.append_assoc, List.cons_append, List.append_assoc, List.append_assoc]
    exact nextItem_next hgap hgap' (beginsItem_append begins)

/-! ## Lists -/

section

variable {α : Type} {reader : Reader α} {step : Char} {steps : List Char} {read : List α}

theorem items_of_finished (h : nextItem ']' read.isEmpty cs = .ok (.finished rest)) :
    items reader (step :: steps) read cs = .ok (read.reverse, rest) := by
  simp only [items, h, bind, Except.bind]
  rfl

theorem items_of_item {later : List Char} {value : α}
    (h : nextItem ']' read.isEmpty cs = .ok (.item later))
    (hread : reader later = .ok (value, rest)) :
    items reader (step :: steps) read cs = items reader steps (value :: read) rest := by
  simp only [items, h, hread, bind, Except.bind]

theorem items_enclosed {values : List α} (h : Enclosed .list read.isEmpty pieces cs)
    (takes : List.Forall₂ (Takes reader) pieces values) (hsteps : pieces.length < steps.length) :
    items reader steps read (cs ++ rest) = .ok (read.reverse ++ values, rest) := by
  induction takes generalizing cs steps read with
  | nil =>
    cases steps with
    | nil => exact absurd hsteps (Nat.not_lt_zero _)
    | cons step steps =>
      rw [items_of_finished h.nextItem_nil, List.append_nil]
  | @cons piece value pieces values here _ ih =>
    cases steps with
    | nil => exact absurd hsteps (Nat.not_lt_zero _)
    | cons step steps =>
      obtain ⟨later, found, hlater⟩ := h.nextItem_cons rest
      have taken := here.eq_of_endsValue (hlater.endsValue rest)
      have others : items reader steps (value :: read) (later ++ rest) =
          .ok ((value :: read).reverse ++ values, rest) :=
        ih hlater (Nat.lt_of_succ_lt_succ hsteps)
      rw [items_of_item found taken, others, List.reverse_cons, List.append_assoc]
      rfl

theorem Reader.list_skipGaps (cs : List Char) :
    Reader.list reader (skipGaps cs) = Reader.list reader cs := by
  unfold Reader.list
  rw [skipGaps_skipGaps]

/-- **A list of values that are read back is read back.** -/
theorem takes_list {values : List α} (h : Enclosed .list true pieces cs)
    (takes : List.Forall₂ (Takes reader) pieces values) :
    Takes (Reader.list reader) ('[' :: cs) values := by
  refine .of_skips Reader.list_skipGaps rfl fun rest _ => ?_
  have read : items reader (cs ++ rest) [] (cs ++ rest) = .ok ([].reverse ++ values, rest) :=
    items_enclosed h takes (h.length_lt_append rest)
  exact read

end

/-! ## Objects -/

namespace Record

variable {α β : Type} {r : Record α}

/-- There is a field with the name. -/
def knows (r : Record α) (name : String) : Bool := r.fields.any (·.name == name)

/-- The characters `piece` are an item of an object. It has the given name, which must not come twice
if the object knows it, and stores in a value what `store` stores. -/
structure Stores (r : Record α) (piece : List Char) (name : String) (store : α → α) : Prop where
  /-- They can begin an item. -/
  begins : beginsItem piece = true
  /-- The name is read, then the value is read and stored. -/
  eq : ∀ seen value rest, endsValue rest = true → (r.knows name = true → name ∉ seen) →
    ∃ after, memberName (piece ++ rest) = .ok (name, after) ∧
      r.member seen name value after = .ok (store value, rest)

theorem colon_append {gap : List Char} (hgap : gap.all isGap = true) :
    colon (gap ++ ':' :: cs) = .ok cs := by
  unfold colon
  rw [skipGaps_append_cons hgap rfl]
  rfl

theorem beginsItem_of_text {name : String} {label : List Char} (h : Form.text name label) :
    beginsItem label = true := by
  obtain ⟨body, -, rfl⟩ := h
  rfl

/-- A name is read, however it is spelled. -/
theorem memberName_of_text {name : String} {label : List Char} (h : Form.text name label)
    (rest : List Char) : memberName (label ++ rest) = .ok (name, rest) := by
  obtain ⟨body, spelled, rfl⟩ := h
  rw [List.cons_append, List.append_assoc]
  exact textBody_of_spelled spelled rest

/-- A known field stores its value. -/
theorem stores_field {reader : Reader β} {name : String} {set : β → α → α} {required : Bool}
    {label gap gap' : List Char} {b : β}
    (found : r.fields.find? (·.name == name) = some (field name reader set required))
    (hname : Form.text name label) (hgap : gap.all isGap = true) (hgap' : gap'.all isGap = true)
    (h : Takes reader cs b) :
    r.Stores (label ++ (gap ++ ':' :: (gap' ++ cs))) name (set b) := by
  refine ⟨beginsItem_append (beginsItem_of_text hname), fun seen value rest hrest fresh =>
    ⟨gap ++ ':' :: (gap' ++ (cs ++ rest)), ?_, ?_⟩⟩
  · rw [List.append_assoc, memberName_of_text hname]
    simp
  · have known : r.knows name = true := by
      obtain ⟨hname, -⟩ := List.find?_eq_some_iff_append.mp found
      exact List.any_eq_true.mpr ⟨_, List.mem_of_find?_eq_some found, hname⟩
    have new : seen.contains name = false := by simpa using fresh known
    unfold member
    rw [found]
    simp only [new, Bool.false_eq_true, if_false, colon_append hgap, field, h.eq gap' rest hgap' hrest,
      bind, Except.bind, Except.map]
    rfl

section

variable {step : Char} {steps : List Char} {seen : List String} {isFirst : Bool} {value : α}

theorem members_of_finished (h : nextItem '\x7d' isFirst cs = .ok (.finished rest))
    (complete : r.missing? seen = none) :
    r.members (step :: steps) seen isFirst value cs = .ok (value, rest) := by
  simp only [members, h, complete, bind, Except.bind]
  rfl

theorem members_of_item {later after : List Char} {name : String} {stored : α}
    (h : nextItem '\x7d' isFirst cs = .ok (.item later))
    (hname : memberName later = .ok (name, after))
    (hmember : r.member seen name value after = .ok (stored, rest)) :
    r.members (step :: steps) seen isFirst value cs =
      r.members steps (name :: seen) false stored rest := by
  simp only [members, h, hname, hmember, bind, Except.bind]

/-- What the items of an object store is stored one after the other. The names that have been seen
and those that are to come make up one list, in which no known name repeats and each required one
is found. -/
theorem members_enclosed {entries : List (String × (α → α))} (h : Enclosed .object isFirst pieces cs)
    (stores : List.Forall₂ (fun piece entry => r.Stores piece entry.1 entry.2) pieces entries)
    (nodup : ((seen.reverse ++ entries.map (·.1)).filter r.knows).Nodup)
    (complete : ∀ f ∈ r.fields, f.required = true → f.name ∈ seen.reverse ++ entries.map (·.1))
    (hsteps : pieces.length < steps.length) :
    r.members steps seen isFirst value (cs ++ rest) =
      .ok (entries.foldl (fun value entry => entry.2 value) value, rest) := by
  induction stores generalizing cs steps seen isFirst value with
  | nil =>
    cases steps with
    | nil => exact absurd hsteps (Nat.not_lt_zero _)
    | cons step steps =>
      refine members_of_finished h.nextItem_nil (List.find?_eq_none.mpr fun f hf hmissing => ?_)
      rw [Bool.and_eq_true, Bool.not_eq_true'] at hmissing
      have present := complete f hf hmissing.1
      rw [List.map_nil, List.append_nil, List.mem_reverse] at present
      rw [List.contains_iff_mem.mpr present] at hmissing
      exact Bool.noConfusion hmissing.2
  | @cons piece entry pieces entries here _ ih =>
    cases steps with
    | nil => exact absurd hsteps (Nat.not_lt_zero _)
    | cons step steps =>
      obtain ⟨later, found, hlater⟩ := h.nextItem_cons rest
      -- The name moves on to those that have been seen; all names together stay the same.
      have split : seen.reverse ++ (entry :: entries).map (·.1) =
          (entry.1 :: seen).reverse ++ entries.map (·.1) := by
        simp
      have fresh : r.knows entry.1 = true → entry.1 ∉ seen := by
        intro known hseen
        rw [List.filter_append, List.map_cons, List.filter_cons_of_pos known, List.nodup_append]
          at nodup
        have before := List.mem_filter.mpr ⟨List.mem_reverse.mpr hseen, known⟩
        exact nodup.2.2 _ before _ List.mem_cons_self rfl
      obtain ⟨after, name, stored⟩ := here.eq seen value (later ++ rest) (hlater.endsValue rest) fresh
      rw [members_of_item found name stored, List.foldl_cons]
      rw [split] at nodup complete
      exact ih hlater nodup complete (Nat.lt_of_succ_lt_succ hsteps)

theorem read_skipGaps (cs : List Char) : r.read (skipGaps cs) = r.read cs := by
  unfold read
  rw [skipGaps_skipGaps]

/-- **An object is read as what its items store**, if no known name repeats and none that is required
is missing. -/
theorem takes_object {entries : List (String × (α → α))} (h : Enclosed .object true pieces cs)
    (stores : List.Forall₂ (fun piece entry => r.Stores piece entry.1 entry.2) pieces entries)
    (nodup : ((entries.map (·.1)).filter r.knows).Nodup)
    (complete : ∀ f ∈ r.fields, f.required = true → f.name ∈ entries.map (·.1)) :
    Takes r.read ('\x7b' :: cs) (entries.foldl (fun value entry => entry.2 value) r.blank) := by
  refine .of_skips read_skipGaps rfl fun rest _ => ?_
  have members : r.members (cs ++ rest) [] true r.blank (cs ++ rest) =
      .ok (entries.foldl (fun value entry => entry.2 value) r.blank, rest) :=
    members_enclosed h stores nodup complete (h.length_lt_append rest)
  exact members

end

end Record

end Dialogue.Json
