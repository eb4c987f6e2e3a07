import Dialogue.Json.Skip

/-!
# Readers of JSON values

A reader takes a value of a known kind off the front of a text. Objects with known fields may be
written with their fields in any order, with further fields that are skipped, or as a list of the
fields in their declared order.

* `Record` describes such an object: its fields, and the value that stands for one without fields.
* `parse` reads a whole text.
-/

namespace Dialogue.Json

/-- Takes a value off the front of a text and returns what is left. -/
abbrev Reader (α : Type) := List Char → Except Problem (α × List Char)

/-- The problem with a text that starts with a value of another kind. The value is read first, since
a problem within it comes before. -/
def mistyped (expected : String) (cs : List Char) : Problem :=
  let found (result : Except Problem Found) : Problem :=
    match result with
    | .ok found => .mismatch (.invalidType found expected)
    | .error problem => problem
  match cs with
  | [] => .cut
  | c :: rest =>
    if c = 'n' then found ((word ['u', 'l', 'l'] rest).map fun _ => .null)
    else if c = 't' then found ((word ['r', 'u', 'e'] rest).map fun _ => .boolean true)
    else if c = 'f' then found ((word ['a', 'l', 's', 'e'] rest).map fun _ => .boolean false)
    else if c = '"' then found ((textBody rest).map fun (text, _) => .text text)
    else if c = '[' then found (.ok .list)
    else if c = '\x7b' then found (.ok .object)
    else if c = '-' ∨ c.isDigit then found ((Number.read cs).map fun (number, _) => .number number)
    else .malformed

/-! ## Simple values -/

/-- Reads a text. -/
def Reader.text : Reader String := fun cs =>
  match skipGaps cs with
  | '"' :: rest => textBody rest
  | cs => .error (mistyped "a string" cs)

/-- Reads a truth value. -/
def Reader.boolean : Reader Bool := fun cs =>
  match skipGaps cs with
  | 't' :: rest => (word ['r', 'u', 'e'] rest).map (true, ·)
  | 'f' :: rest => (word ['a', 'l', 's', 'e'] rest).map (false, ·)
  | cs => .error (mistyped "a boolean" cs)

/-- The value of a number that is to fit into a word. -/
def Number.toWord (n : Number) : Except Problem UInt64 :=
  match n with
  | .natural value => .ok (UInt64.ofNat value)
  | .negative _ => .error (.mismatch (.invalidValue (.number n) "u64"))
  | .float _ _ => .error (.mismatch (.invalidType (.number n) "u64"))

/-- Reads a natural number of at most 64 bits. -/
def Reader.natural : Reader UInt64 := fun cs =>
  match skipGaps cs with
  | [] => .error .cut
  | c :: rest =>
    if c = '-' ∨ c.isDigit then do
      let (number, rest) ← Number.read (c :: rest)
      let value ← number.toWord
      pure (value, rest)
    else .error (mistyped "u64" (c :: rest))

/-- Reads a value that may be `null`. -/
def Reader.optional {α : Type} (reader : Reader α) : Reader (Option α) := fun cs =>
  match skipGaps cs with
  | 'n' :: rest => (word ['u', 'l', 'l'] rest).map (none, ·)
  | cs => (reader cs).map fun (value, rest) => (some value, rest)

/-! ## Lists -/

/-- What comes next inside a bracket. -/
inductive Next where
  /-- The closing bracket, which has been read. -/
  | finished (rest : List Char)
  /-- A member. -/
  | item (rest : List Char)
  deriving DecidableEq, Repr

/-- Reads the comma in front of a member other than the first, or the closing bracket. -/
def nextItem (close : Char) (isFirst : Bool) (cs : List Char) : Except Problem Next :=
  match skipGaps cs with
  | [] => .error .cut
  | c :: rest =>
    if c = close then .ok (.finished rest)
    else if isFirst then .ok (.item (c :: rest))
    else if c = ',' then
      match skipGaps rest with
      | [] => .error .cut
      | d :: rest => if d = close then .error .malformed else .ok (.item (d :: rest))
    else .error .malformed

/-- Reads the members of a list and its closing bracket; `read` holds those before, the last one
first. -/
def items {α : Type} (reader : Reader α) : (steps : List Char) → (read : List α) → Reader (List α)
  | [], _ => fun _ => .error .cut
  | _ :: steps, read => fun cs => do
    match ← nextItem ']' read.isEmpty cs with
    | .finished rest => pure (read.reverse, rest)
    | .item rest =>
      let (value, rest) ← reader rest
      items reader steps (value :: read) rest

/-- Reads a list. -/
def Reader.list {α : Type} (reader : Reader α) : Reader (List α) := fun cs =>
  match skipGaps cs with
  | '[' :: rest => items reader rest [] rest
  | cs => .error (mistyped "a sequence" cs)

/-! ## Objects with known fields -/

/-- A field of an object. -/
structure Field (α : Type) where
  /-- The name of the field. -/
  name : String
  /-- The field must be present. -/
  required : Bool := false
  /-- Reads the field's value and says how to store it. -/
  store : Reader (α → α)

/-- The field with the given name, whose value replaces a part of the object. -/
def field {α β : Type} (name : String) (reader : Reader β) (set : β → α → α)
    (required : Bool := false) : Field α :=
  { name, required, store := fun cs => (reader cs).map fun (value, rest) => (set value, rest) }

/-- An object with known fields. -/
structure Record (α : Type) where
  /-- How messages name the object. -/
  title : String
  /-- The object before any field is stored. -/
  blank : α
  /-- The fields in their declared order. -/
  fields : List (Field α)

namespace Record

variable {α : Type} (r : Record α)

/-- Reads the name of a member. -/
def memberName : Reader String := fun cs =>
  match cs with
  | '"' :: rest => textBody rest
  | _ => .error .malformed

/-- Reads the colon behind a name. -/
def colon (cs : List Char) : Except Problem (List Char) :=
  match skipGaps cs with
  | [] => .error .cut
  | c :: rest => if c = ':' then .ok rest else .error .malformed

/-- Reads the value of a member with the given name and stores it. A known field must not come
twice. -/
def member (seen : List String) (name : String) (value : α) : Reader α := fun cs =>
  match r.fields.find? (·.name == name) with
  | some field =>
    if seen.contains name then .error (.mismatch (.duplicateField name))
    else do
      let (store, rest) ← field.store (← colon cs)
      pure (store value, rest)
  | none => do
    let rest ← skipValue (← colon cs)
    pure (value, rest)

/-- The first required field that has not been seen. -/
def missing? (seen : List String) : Option (Field α) :=
  r.fields.find? fun field => field.required && ! seen.contains field.name

/-- Reads the members of an object and its closing bracket. -/
def members : (steps : List Char) → (seen : List String) → (isFirst : Bool) → (value : α) → Reader α
  | [], _, _, _ => fun _ => .error .cut
  | _ :: steps, seen, isFirst, value => fun cs => do
    match ← nextItem '\x7d' isFirst cs with
    | .finished rest =>
      match r.missing? seen with
      | some field => throw (.mismatch (.missingField field.name))
      | none => pure (value, rest)
    | .item rest =>
      let (name, rest) ← memberName rest
      let (value, rest) ← r.member seen name value rest
      members steps (name :: seen) false value rest

/-- Reads the closing bracket of a list whose members have all been read. -/
def closing (value : α) : Reader α := fun cs =>
  match skipGaps cs with
  | [] => .error .cut
  | c :: rest => if c = ']' then .ok (value, rest) else .error .malformed

/-- Reads the values of the given fields, of which the first has the given index, from a list. -/
def elements : List (Field α) → (index : Nat) → (value : α) → Reader α
  | [], _, value => closing value
  | field :: fields, index, value => fun cs => do
    match ← nextItem ']' (index == 0) cs with
    | .finished rest =>
      match (field :: fields).findIdx? (·.required) with
      | some k => throw (.mismatch (.invalidLength (index + k)
          (r.title ++ " with " ++ Decimal.numeral r.fields.length ++ " elements")))
      | none => pure (value, rest)
    | .item rest =>
      let (store, rest) ← field.store rest
      elements fields (index + 1) (store value) rest

/-- Reads an object, or the list of its fields. -/
def read : Reader α := fun cs =>
  match skipGaps cs with
  | '[' :: rest => r.elements r.fields 0 r.blank rest
  | '\x7b' :: rest => r.members rest [] true r.blank rest
  | cs => .error (mistyped r.title cs)

end Record

/-! ## Whole texts -/

/-- Reads a text that holds one value and nothing else. -/
def parse {α : Type} (reader : Reader α) (text : String) : Except Problem α := do
  let (value, rest) ← reader text.toList
  if (skipGaps rest).isEmpty then pure value else throw .malformed

end Dialogue.Json
