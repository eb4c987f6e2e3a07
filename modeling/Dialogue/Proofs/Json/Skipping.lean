import Dialogue.Proofs.Json.Brackets

/-!
# Skipping values

The value of an unknown field may be anything that the grammar of JSON allows, nested to any depth.
It is skipped as a whole, and nothing behind it is.

* `IsNumber`, `IsValue`: the grammar of numbers and of values, with blanks wherever they may stand.
* `Skips`: wherever a value is found, skipping goes on behind it, whatever brackets are around it.

Results:
* `skipNumber_of_isNumber`, `skipScalar_of_isScalar`: what is not in brackets is skipped.
* `skips_enclosed`: so are the items of a bracket, and the bracket is left behind them.
* **`skipValue_of_isValue`**: so is every value.
-/

namespace Dialogue.Json

variable {cs rest : List Char}

/-! ## Numbers -/

/-- One or more decimal digits. -/
structure IsDigits (ds : List Char) : Prop where
  /-- There is a digit. -/
  ne_nil : ds ≠ []
  /-- There is nothing else. -/
  isDigit : ∀ d ∈ ds, d.isDigit = true

/-- The digits in front of the point. -/
inductive IsInteger : List Char → Prop
  /-- Zero stands alone. -/
  | zero : IsInteger ['0']
  /-- Other numbers do not start with it. -/
  | positive {d : Char} {ds : List Char} (h : d ≠ '0') (hds : IsDigits (d :: ds)) :
    IsInteger (d :: ds)

/-- The point with the digits behind it. -/
inductive IsFraction : List Char → Prop
  /-- There is none. -/
  | none : IsFraction []
  /-- There are digits. -/
  | places {ds : List Char} (h : IsDigits ds) : IsFraction ('.' :: ds)

/-- The exponent with its letter. -/
inductive IsExponent : List Char → Prop
  /-- There is none. -/
  | none : IsExponent []
  /-- It may have a sign. -/
  | power {e : Char} {sign ds : List Char} (he : e = 'e' ∨ e = 'E')
      (hsign : sign = [] ∨ sign = ['+'] ∨ sign = ['-']) (h : IsDigits ds) :
    IsExponent (e :: (sign ++ ds))

/-- A number. -/
inductive IsNumber : List Char → Prop
  /-- Only the digits in front of the point are needed. -/
  | parts {sign integer fraction exponent : List Char} (hsign : sign = [] ∨ sign = ['-'])
      (hinteger : IsInteger integer) (hfraction : IsFraction fraction)
      (hexponent : IsExponent exponent) :
    IsNumber (sign ++ (integer ++ (fraction ++ exponent)))

theorem dropWhile_digits {ds : List Char} (hds : ∀ d ∈ ds, d.isDigit = true)
    (h : startsWithDigit cs = false) : (ds ++ cs).dropWhile Char.isDigit = cs := by
  rw [List.dropWhile_append_of_pos hds]
  cases cs with
  | nil => rfl
  | cons c cs => exact List.dropWhile_cons_of_neg (by simpa [startsWithDigit] using h)

theorem IsDigits.exists_cons {ds : List Char} (h : IsDigits ds) :
    ∃ d later, ds = d :: later ∧ d.isDigit = true := by
  obtain ⟨d, later, rfl⟩ := List.exists_cons_of_ne_nil h.ne_nil
  exact ⟨d, later, rfl, h.isDigit d List.mem_cons_self⟩

theorem IsDigits.startsWithDigit {ds : List Char} (h : IsDigits ds) (rest : List Char) :
    startsWithDigit (ds ++ rest) = true := by
  obtain ⟨d, later, rfl, hd⟩ := h.exists_cons
  exact hd

theorem startsWithDigit_of_endsValue (h : endsValue rest = true) :
    startsWithDigit rest = false := by
  cases rest with
  | nil => rfl
  | cons c rest => exact (stopsNumber_of_endsValue h).1

/-- The digits of an exponent are not taken for its sign. -/
theorem exponentSign_append {sign ds : List Char}
    (hsign : sign = [] ∨ sign = ['+'] ∨ sign = ['-']) (h : IsDigits ds) (rest : List Char) :
    (exponentSign (sign ++ (ds ++ rest))).2 = ds ++ rest := by
  obtain ⟨d, later, rfl, hd⟩ := h.exists_cons
  rcases hsign with rfl | rfl | rfl
  · show (exponentSign (d :: (later ++ rest))).2 = _
    unfold exponentSign
    split
    · rename_i heq
      cases heq
      cases hd
    · rename_i heq
      cases heq
      cases hd
    · rfl
  · rfl
  · rfl

theorem skipExponent_of_isExponent (h : IsExponent cs) (hrest : endsValue rest = true) :
    skipExponent (cs ++ rest) = .ok rest := by
  cases h with
  | none =>
    cases rest with
    | nil => rfl
    | cons c rest =>
      obtain ⟨-, -, hletter⟩ := stopsNumber_of_endsValue hrest
      simp [skipExponent, hletter]
  | @power e sign ds he hsign h =>
    have letter : isExponentLetter e = true := by rcases he with rfl | rfl <;> rfl
    have digits := dropWhile_digits h.isDigit (startsWithDigit_of_endsValue hrest)
    simp only [List.cons_append, List.append_assoc, skipExponent, letter, if_true,
      exponentSign_append hsign h, h.startsWithDigit, digits]

/-- Neither a digit nor a point comes behind the digits that are followed by an exponent or by the
end of the number. -/
theorem stops_of_isExponent (h : IsExponent cs) (hrest : endsValue rest = true) :
    startsWithDigit (cs ++ rest) = false ∧ ∀ places, cs ++ rest ≠ '.' :: places := by
  cases h with
  | none =>
    refine ⟨startsWithDigit_of_endsValue hrest, fun places h => ?_⟩
    obtain rfl : rest = '.' :: places := h
    exact (stopsNumber_of_endsValue hrest).2.1 rfl
  | power he =>
    rcases he with rfl | rfl
    · exact ⟨rfl, fun places h => by cases h⟩
    · exact ⟨rfl, fun places h => by cases h⟩

theorem skipPlaces_append {fraction exponent : List Char} (hfraction : IsFraction fraction)
    (hexponent : IsExponent exponent) (hrest : endsValue rest = true) :
    startsWithDigit (fraction ++ (exponent ++ rest)) = false ∧
      skipPlaces (fraction ++ (exponent ++ rest)) = .ok rest := by
  obtain ⟨digit, point⟩ := stops_of_isExponent hexponent hrest
  have last := skipExponent_of_isExponent hexponent hrest
  cases hfraction with
  | none =>
    refine ⟨digit, ?_⟩
    rw [List.nil_append]
    unfold skipPlaces
    split
    · rename_i heq
      exact absurd heq (point _)
    · exact last
  | places h =>
    refine ⟨rfl, ?_⟩
    simp only [List.cons_append, skipPlaces, h.startsWithDigit, if_true,
      dropWhile_digits h.isDigit digit, last]

theorem skipMagnitude_append {integer fraction exponent : List Char} (hinteger : IsInteger integer)
    (hfraction : IsFraction fraction) (hexponent : IsExponent exponent)
    (hrest : endsValue rest = true) :
    skipMagnitude (integer ++ (fraction ++ (exponent ++ rest))) = .ok rest := by
  obtain ⟨digit, last⟩ := skipPlaces_append hfraction hexponent hrest
  cases hinteger with
  | zero =>
    simp only [List.cons_append, List.nil_append, skipMagnitude, if_true, digit,
      Bool.false_eq_true, if_false, last]
  | @positive d ds h hds =>
    have first : d.isDigit = true := hds.isDigit d List.mem_cons_self
    have others : ∀ e ∈ ds, e.isDigit = true :=
      fun e he => hds.isDigit e (List.mem_cons_of_mem d he)
    simp only [List.cons_append, skipMagnitude, if_neg h, first, if_true,
      dropWhile_digits others digit, last]

/-- A number starts with its sign or with a digit. -/
theorem IsNumber.exists_cons (h : IsNumber cs) :
    ∃ c later, cs = c :: later ∧ (c = '-' ∨ c.isDigit = true) := by
  obtain ⟨hsign, hinteger, -, -⟩ := h
  rcases hsign with rfl | rfl
  · cases hinteger with
    | zero => exact ⟨'0', _, rfl, .inr rfl⟩
    | @positive d ds h hds => exact ⟨d, _, rfl, .inr (hds.isDigit d List.mem_cons_self)⟩
  · exact ⟨'-', _, rfl, .inl rfl⟩

/-- **A number is skipped**, whatever it is written like. -/
theorem skipNumber_of_isNumber (h : IsNumber cs) (hrest : endsValue rest = true) :
    skipNumber (cs ++ rest) = .ok rest := by
  obtain ⟨hsign, hinteger, hfraction, hexponent⟩ := h
  have last := skipMagnitude_append hinteger hfraction hexponent hrest
  simp only [List.append_assoc]
  rcases hsign with rfl | rfl
  · rw [List.nil_append]
    unfold skipNumber
    split
    · rename_i heq
      cases hinteger with
      | zero => cases heq
      | positive h hds =>
        cases heq
        cases hds.isDigit '-' List.mem_cons_self
    · exact last
  · exact last

/-! ## Values -/

/-- Characters that may stand between quotation marks, with these. -/
def IsQuoted (cs : List Char) : Prop := ∃ body, IsTextBody body ∧ cs = '"' :: (body ++ ['"'])

/-- A value that is neither a list nor an object. -/
inductive IsScalar : List Char → Prop
  /-- The absent value. -/
  | null : IsScalar ['n', 'u', 'l', 'l']
  /-- A truth value. -/
  | yes : IsScalar ['t', 'r', 'u', 'e']
  /-- The other truth value. -/
  | no : IsScalar ['f', 'a', 'l', 's', 'e']
  /-- A text. -/
  | text {cs : List Char} (h : IsQuoted cs) : IsScalar cs
  /-- A number. -/
  | number {cs : List Char} (h : IsNumber cs) : IsScalar cs

/-- The parts of a member of an object. -/
structure Member where
  /-- The name with its quotation marks. -/
  label : List Char
  /-- The blanks in front of the colon. -/
  before : List Char
  /-- The blanks behind the colon. -/
  after : List Char
  /-- The value. -/
  value : List Char

namespace Member

/-- The parts of a member in a row. -/
def chars (m : Member) : List Char := m.label ++ (m.before ++ ':' :: (m.after ++ m.value))

/-- Around the colon there is nothing but blanks. -/
structure IsSpaced (m : Member) : Prop where
  /-- In front of it. -/
  before : m.before.all isGap = true
  /-- Behind it. -/
  after : m.after.all isGap = true

end Member

/-- A value. -/
inductive IsValue : List Char → Prop
  /-- A value that is neither a list nor an object. -/
  | scalar {cs : List Char} (h : IsScalar cs) : IsValue cs
  /-- A list of values. -/
  | list {pieces : List (List Char)} {inside : List Char} (h : Enclosed .list true pieces inside)
      (values : ∀ piece ∈ pieces, IsValue piece) : IsValue ('[' :: inside)
  /-- An object, whose names may repeat. -/
  | object {members : List Member} {inside : List Char}
      (h : Enclosed .object true (members.map Member.chars) inside)
      (labels : ∀ m ∈ members, IsQuoted m.label) (spaced : ∀ m ∈ members, m.IsSpaced)
      (values : ∀ m ∈ members, IsValue m.value) : IsValue ('\x7b' :: inside)

/-- The first character of a value tells whether it is in brackets. -/
theorem IsScalar.exists_cons (h : IsScalar cs) :
    ∃ c later, cs = c :: later ∧ c ≠ '[' ∧ c ≠ '\x7b' ∧ beginsItem (c :: later) = true := by
  cases h with
  | null => exact ⟨_, _, rfl, by decide, by decide, rfl⟩
  | yes => exact ⟨_, _, rfl, by decide, by decide, rfl⟩
  | no => exact ⟨_, _, rfl, by decide, by decide, rfl⟩
  | text h =>
    obtain ⟨body, -, rfl⟩ := h
    exact ⟨_, _, rfl, by decide, by decide, rfl⟩
  | number h =>
    obtain ⟨c, later, rfl, rfl | digit⟩ := h.exists_cons
    · exact ⟨_, _, rfl, by decide, by decide, rfl⟩
    · refine ⟨c, later, rfl, ?_, ?_, beginsItem_of_isDigit digit⟩
      · rintro rfl
        cases digit
      · rintro rfl
        cases digit

theorem IsValue.begins (h : IsValue cs) : beginsItem cs = true := by
  cases h with
  | scalar h =>
    obtain ⟨c, later, rfl, -, -, begins⟩ := h.exists_cons
    exact begins
  | list => rfl
  | object => rfl

theorem skipText_of_isQuoted (h : IsQuoted cs) (rest : List Char) :
    ∃ later, cs ++ rest = '"' :: later ∧ skipText later = .ok rest := by
  obtain ⟨body, hbody, rfl⟩ := h
  refine ⟨body ++ '"' :: rest, ?_, skipText_of_isTextBody hbody rest⟩
  simp

/-- **What is not in brackets is skipped.** -/
theorem skipScalar_of_isScalar (h : IsScalar cs) (hrest : endsValue rest = true) :
    skipScalar (cs ++ rest) = .ok rest := by
  cases h with
  | null => rfl
  | yes => rfl
  | no => rfl
  | text h =>
    obtain ⟨later, opened, skipped⟩ := skipText_of_isQuoted h rest
    rw [opened]
    exact skipped
  | number h =>
    have skipped := skipNumber_of_isNumber h hrest
    obtain ⟨c, later, rfl, first⟩ := h.exists_cons
    have other : ∀ d : Char, d ≠ '-' → d.isDigit = false → c ≠ d := by
      rintro d sign digit rfl
      rcases first with rfl | first
      · exact sign rfl
      · rw [digit] at first
        cases first
    rw [List.cons_append] at skipped ⊢
    simp only [skipScalar, if_neg (other 'n' (by decide) rfl), if_neg (other 't' (by decide) rfl),
      if_neg (other 'f' (by decide) rfl), if_neg (other '"' (by decide) rfl), if_pos first, skipped]

/-! ## Brackets -/

/-- The brackets around what stands at a spot. -/
def Spot.inside (outer : List Bracket) : Spot → List Bracket
  | .value => outer
  | .first bracket | .next bracket => bracket :: outer

/-- The spot in an open bracket, in front of its first item or behind an earlier one. -/
def Bracket.spot (b : Bracket) : (isFirst : Bool) → Spot
  | true => .first b
  | false => .next b

/-- Going on behind a value, inside of the given brackets. -/
def resume (steps : List Char) (rest : List Char) : List Bracket → Except Problem (List Char)
  | [] => .ok rest
  | bracket :: outer => skipFrom steps outer (.next bracket) rest

section

variable {step : Char} {steps : List Char} {outer : List Bracket} {spot : Spot} {b : Bracket}

theorem skipFrom_of_closed (h : approach spot cs = .ok (.closed rest)) :
    skipFrom (step :: steps) outer spot cs = resume steps rest outer := by
  simp only [skipFrom, h, bind, Except.bind]
  cases outer <;> rfl

theorem skipFrom_of_scalar {value : List Char} (h : IsScalar value)
    (found : approach spot cs = .ok (.value (value ++ rest))) (hrest : endsValue rest = true) :
    skipFrom (step :: steps) outer spot cs = resume steps rest (spot.inside outer) := by
  have skipped := skipScalar_of_isScalar h hrest
  obtain ⟨c, later, rfl, notList, notObject, -⟩ := h.exists_cons
  rw [List.cons_append] at skipped found
  simp only [skipFrom, found, bind, Except.bind, if_neg notList, if_neg notObject, skipped]
  cases spot with
  | value => cases outer <;> rfl
  | first bracket => rfl
  | next bracket => rfl

theorem skipFrom_of_list {later : List Char}
    (found : approach spot cs = .ok (.value ('[' :: later))) :
    skipFrom (step :: steps) outer spot cs =
      skipFrom steps (spot.inside outer) (Bracket.list.spot true) later := by
  simp only [skipFrom, found, bind, Except.bind, if_true]
  cases spot <;> rfl

theorem skipFrom_of_object {later : List Char}
    (found : approach spot cs = .ok (.value ('\x7b' :: later))) :
    skipFrom (step :: steps) outer spot cs =
      skipFrom steps (spot.inside outer) (Bracket.object.spot true) later := by
  have apart : ¬ '\x7b' = '[' := by decide
  simp only [skipFrom, found, bind, Except.bind, if_neg apart, if_true]
  cases spot <;> rfl

end

section

variable {gap : List Char} {b : Bracket}

theorem approach_value (hgap : gap.all isGap = true) (begins : beginsItem cs = true) :
    approach .value (gap ++ cs) = .ok (.value cs) := by
  unfold approach
  rw [skipGaps_append hgap, skipGaps_of_beginsItem begins]
  cases cs with
  | nil => exact absurd begins Bool.false_ne_true
  | cons c cs => rfl

theorem approach_finished (hgap : gap.all isGap = true) (isFirst : Bool) :
    approach (b.spot isFirst) (gap ++ [b.close] ++ rest) = .ok (.closed rest) := by
  unfold approach
  rw [skipGaps_close hgap]
  cases isFirst <;> exact if_pos rfl

theorem approach_first (hgap : gap.all isGap = true) (begins : beginsItem cs = true) :
    approach (b.spot true) (gap ++ cs) =
      (b.skipLabel cs).map fun rest => .value (skipGaps rest) := by
  unfold approach
  rw [skipGaps_append hgap, skipGaps_of_beginsItem begins]
  cases cs with
  | nil => exact absurd begins Bool.false_ne_true
  | cons c cs => exact if_neg (ne_close_of_beginsItem begins)

theorem approach_next (hgap : gap.all isGap = true) :
    approach (b.spot false) (gap ++ ',' :: cs) =
      (b.skipLabel cs).map fun rest => .value (skipGaps rest) := by
  have apart : ',' ≠ b.close := by cases b <;> decide
  unfold approach
  rw [skipGaps_append_cons hgap rfl]
  simp only [Bracket.spot, if_neg apart, if_true]

end

/-- Wherever a value is found, skipping goes on behind it, and uses up no more steps than the value
has characters. -/
def Skips (value : List Char) : Prop :=
  ∀ (steps : List Char) (outer : List Bracket) (spot : Spot) (cs rest : List Char),
    approach spot cs = .ok (.value (value ++ rest)) → endsValue rest = true →
    value.length ≤ steps.length →
    ∃ later, steps.length ≤ later.length + value.length ∧
      skipFrom steps outer spot cs = resume later rest (spot.inside outer)

/-- An item of a bracket is a value that skips, behind what the bracket puts in front of it. -/
structure SkipsItem (b : Bracket) (piece value : List Char) : Prop where
  /-- The value is a part of the item. -/
  length_le : value.length ≤ piece.length
  /-- What stands in front of it is read. -/
  label : ∀ gap rest, gap.all isGap = true →
    (b.skipLabel (gap ++ (piece ++ rest))).map skipGaps = .ok (value ++ rest)
  /-- The value skips. -/
  skips : Skips value

theorem SkipsItem.approach_eq {b : Bracket} {piece value gap cs : List Char} {spot : Spot}
    (h : SkipsItem b piece value) (hgap : gap.all isGap = true) (rest : List Char)
    (found : approach spot cs =
      (b.skipLabel (gap ++ (piece ++ rest))).map fun rest => .value (skipGaps rest)) :
    approach spot cs = .ok (.value (value ++ rest)) := by
  have label := h.label gap rest hgap
  rw [found]
  cases hl : b.skipLabel (gap ++ (piece ++ rest)) with
  | error problem =>
    rw [hl] at label
    cases label
  | ok after =>
    rw [hl] at label
    exact congrArg (fun cs => Except.ok (Approach.value cs)) (Except.ok.inj label)

/-- **The items of a bracket are skipped, and the bracket is left behind them.** -/
theorem skips_enclosed {b : Bracket} {isFirst : Bool} {pieces : List (List Char)}
    {inside : List Char} (h : Enclosed b isFirst pieces inside)
    (items : ∀ piece ∈ pieces, ∃ value, SkipsItem b piece value) (steps : List Char)
    (outer : List Bracket) (rest : List Char) (enough : inside.length ≤ steps.length) :
    ∃ later, steps.length ≤ later.length + inside.length ∧
      skipFrom steps outer (b.spot isFirst) (inside ++ rest) = resume later rest outer := by
  induction h generalizing steps with
  | @finished isFirst gap hgap =>
    cases steps with
    | nil => simp at enough
    | cons step steps =>
      refine ⟨steps, ?_, skipFrom_of_closed (approach_finished hgap isFirst)⟩
      simp only [List.length_cons, List.length_append, List.length_nil]
      omega
  | @first gap piece cs pieces hgap begins h ih =>
    obtain ⟨value, item⟩ := items piece List.mem_cons_self
    have found : approach (b.spot true) (gap ++ (piece ++ cs) ++ rest) =
        .ok (.value (value ++ (cs ++ rest))) := by
      rw [List.append_assoc, List.append_assoc]
      refine item.approach_eq all_isGap_nil (cs ++ rest) ?_
      exact approach_first hgap (beginsItem_append begins)
    have shorter := item.length_le
    simp only [List.length_append] at enough ⊢
    obtain ⟨left, used, skipped⟩ := item.skips steps outer _ _ _ found (h.endsValue rest)
      (by omega)
    obtain ⟨later, used', skipped'⟩ := ih (fun piece hp => items piece (List.mem_cons_of_mem _ hp))
      left (by omega)
    exact ⟨later, by omega, skipped.trans skipped'⟩
  | @next gap gap' piece cs pieces hgap hgap' begins h ih =>
    obtain ⟨value, item⟩ := items piece List.mem_cons_self
    have found : approach (b.spot false) (gap ++ ',' :: (gap' ++ (piece ++ cs)) ++ rest) =
        .ok (.value (value ++ (cs ++ rest))) := by
      rw [List.append_assoc, List.cons_append, List.append_assoc, List.append_assoc]
      exact item.approach_eq hgap' (cs ++ rest) (approach_next hgap)
    have shorter := item.length_le
    simp only [List.length_append, List.length_cons] at enough ⊢
    obtain ⟨left, used, skipped⟩ := item.skips steps outer _ _ _ found (h.endsValue rest)
      (by omega)
    obtain ⟨later, used', skipped'⟩ := ih (fun piece hp => items piece (List.mem_cons_of_mem _ hp))
      left (by omega)
    exact ⟨later, by omega, skipped.trans skipped'⟩

/-- An item of a list is a value. -/
theorem skipsItem_list {value : List Char} (begins : beginsItem value = true) (h : Skips value) :
    SkipsItem .list value value := by
  refine ⟨Nat.le_refl _, fun gap rest hgap => ?_, h⟩
  show Except.ok (skipGaps (gap ++ (value ++ rest))) = _
  rw [skipGaps_append hgap, skipGaps_of_beginsItem (beginsItem_append begins)]

/-- The name of a member and its colon are read. -/
theorem skipName_append {label before gap : List Char} (hlabel : IsQuoted label)
    (hbefore : before.all isGap = true) (hgap : gap.all isGap = true) (rest : List Char) :
    skipName (gap ++ (label ++ (before ++ ':' :: rest))) = .ok rest := by
  obtain ⟨later, opened, skipped⟩ := skipText_of_isQuoted hlabel (before ++ ':' :: rest)
  have colon : skipGaps (before ++ ':' :: rest) = ':' :: rest := skipGaps_append_cons hbefore rfl
  unfold skipName
  rw [opened, skipGaps_append_cons hgap rfl]
  simp only [if_true, skipped, bind, Except.bind, colon]
  rfl

/-- An item of an object is a member. -/
theorem skipsItem_object {m : Member} (hlabel : IsQuoted m.label) (spaced : m.IsSpaced)
    (begins : beginsItem m.value = true) (h : Skips m.value) :
    SkipsItem .object m.chars m.value := by
  refine ⟨?_, fun gap rest hgap => ?_, h⟩
  · simp only [Member.chars, List.length_append, List.length_cons]
    omega
  · have name : Bracket.object.skipLabel (gap ++ (m.chars ++ rest)) =
        .ok (m.after ++ (m.value ++ rest)) := by
      simp only [Member.chars, List.append_assoc, List.cons_append]
      exact skipName_append hlabel spaced.before hgap _
    rw [name]
    show Except.ok (skipGaps (m.after ++ (m.value ++ rest))) = _
    rw [skipGaps_append spaced.after, skipGaps_of_beginsItem (beginsItem_append begins)]

/-- Wherever a value is found, skipping goes on behind it. -/
theorem skips_of_isValue {value : List Char} (h : IsValue value) : Skips value := by
  induction h with
  | scalar h =>
    intro steps outer spot cs rest found hrest enough
    obtain ⟨c, later, rfl, -⟩ := h.exists_cons
    cases steps with
    | nil => simp at enough
    | cons step steps =>
      refine ⟨steps, ?_, skipFrom_of_scalar h found hrest⟩
      simp only [List.length_cons]
      omega
  | @list pieces inside h values ih =>
    intro steps outer spot cs rest found hrest enough
    cases steps with
    | nil => simp at enough
    | cons step steps =>
      have items : ∀ piece ∈ pieces, ∃ value, SkipsItem .list piece value :=
        fun piece hp => ⟨piece, skipsItem_list (values piece hp).begins (ih piece hp)⟩
      rw [skipFrom_of_list found]
      simp only [List.length_cons] at enough ⊢
      obtain ⟨later, used, skipped⟩ :=
        skips_enclosed h items steps (spot.inside outer) rest (by omega)
      exact ⟨later, by omega, skipped⟩
  | @object members inside h labels spaced values ih =>
    intro steps outer spot cs rest found hrest enough
    cases steps with
    | nil => simp at enough
    | cons step steps =>
      have items : ∀ piece ∈ members.map Member.chars, ∃ value, SkipsItem .object piece value := by
        intro piece hp
        obtain ⟨m, hm, rfl⟩ := List.mem_map.mp hp
        exact ⟨m.value,
          skipsItem_object (labels m hm) (spaced m hm) (values m hm).begins (ih m hm)⟩
      rw [skipFrom_of_object found]
      simp only [List.length_cons] at enough ⊢
      obtain ⟨later, used, skipped⟩ :=
        skips_enclosed h items steps (spot.inside outer) rest (by omega)
      exact ⟨later, by omega, skipped⟩

/-- **A value is skipped as a whole, and nothing behind it is.** -/
theorem skipValue_of_isValue {gap : List Char} (h : IsValue cs) (hgap : gap.all isGap = true)
    (hrest : endsValue rest = true) : skipValue (gap ++ (cs ++ rest)) = .ok rest := by
  have found : approach .value (gap ++ (cs ++ rest)) = .ok (.value (cs ++ rest)) :=
    approach_value hgap (beginsItem_append h.begins)
  have enough : cs.length ≤ (gap ++ (cs ++ rest)).length := by
    simp only [List.length_append]
    omega
  obtain ⟨later, -, skipped⟩ := skips_of_isValue h _ [] _ _ _ found hrest enough
  exact skipped

end Dialogue.Json
