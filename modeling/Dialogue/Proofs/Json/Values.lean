import Dialogue.Json.Reader
import Dialogue.Proofs.Json.Spelling
import Mathlib.Data.List.DropRight

/-!
# Reading simple values

A reader takes a value off the front of a text. What it needs to know about the rest of the text is
that the value does not go on there: a number ends where no digit follows. Inside of brackets this is
so because a comma, a closing bracket or a blank comes next.

* `Takes`: in front of any such rest, and behind any blanks, a reader takes the given characters for
  the given value.

Results:
* `takes_form_text`, `takes_text`: a text is read, however it is spelled.
* `takes_natural`: so is a number of 64 bits.
* `takes_boolean`, `takes_null`, `takes_some`: so are truth values, and values that may be absent.
-/

namespace Dialogue.Json

open Decimal

/-! ## Where values begin and end -/

/-- An item of a bracket can begin here: there is no blank, and the bracket is not closed. -/
def beginsItem : List Char → Bool
  | [] => false
  | c :: _ => ! isGap c && c != ']' && c != '\x7d'

/-- A value that has been read does not go on here. -/
def endsValue : List Char → Bool
  | [] => true
  | c :: _ => isGap c || c == ',' || c == ']' || c == '\x7d'

/-- Nor does a number go on there. -/
theorem stopsNumber_of_endsValue {c : Char} {cs : List Char} (h : endsValue (c :: cs) = true) :
    c.isDigit = false ∧ c ≠ '.' ∧ isExponentLetter c = false := by
  simp only [endsValue, isGap, Bool.or_eq_true, beq_iff_eq] at h
  rcases h with ((((((rfl | rfl) | rfl) | rfl) | rfl) | rfl) | rfl) <;> decide

variable {cs rest : List Char}

theorem beginsItem_append (h : beginsItem cs = true) : beginsItem (cs ++ rest) = true := by
  cases cs with
  | nil => exact absurd h Bool.false_ne_true
  | cons c cs => exact h

theorem all_isGap_nil : ([] : List Char).all isGap = true := rfl

theorem skipGaps_append {gap : List Char} (h : gap.all isGap = true) :
    skipGaps (gap ++ cs) = skipGaps cs :=
  List.dropWhile_append_of_pos (List.all_eq_true.mp h)

theorem skipGaps_cons {c : Char} (h : isGap c = false) : skipGaps (c :: cs) = c :: cs :=
  List.dropWhile_cons_of_neg (by rw [h]; exact Bool.false_ne_true)

theorem skipGaps_append_cons {gap : List Char} {c : Char} (hgap : gap.all isGap = true)
    (h : isGap c = false) : skipGaps (gap ++ c :: cs) = c :: cs := by
  rw [skipGaps_append hgap, skipGaps_cons h]

theorem skipGaps_of_beginsItem (h : beginsItem cs = true) : skipGaps cs = cs := by
  cases cs with
  | nil => rfl
  | cons c cs =>
    unfold beginsItem at h
    simp only [Bool.and_eq_true, Bool.not_eq_true'] at h
    exact skipGaps_cons h.1.1

theorem skipGaps_skipGaps (cs : List Char) : skipGaps (skipGaps cs) = skipGaps cs :=
  List.dropWhile_idempotent _ cs

/-- The characters `cs` are read as the value `a`, wherever the value ends behind them. -/
structure Takes {α : Type} (reader : Reader α) (cs : List Char) (a : α) : Prop where
  /-- They can begin an item. -/
  begins : beginsItem cs = true
  /-- Blanks in front of them are skipped, and the rest is left. -/
  eq : ∀ gap rest, gap.all isGap = true → endsValue rest = true →
    reader (gap ++ (cs ++ rest)) = .ok (a, rest)

section

variable {α : Type} {reader : Reader α} {a : α}

/-- A reader that skips blanks only has to be looked at without them. -/
theorem Takes.of_skips (skips : ∀ cs, reader (skipGaps cs) = reader cs)
    (begins : beginsItem cs = true)
    (eq : ∀ rest, endsValue rest = true → reader (cs ++ rest) = .ok (a, rest)) :
    Takes reader cs a := by
  refine ⟨begins, fun gap rest hgap hrest => ?_⟩
  rw [← skips, skipGaps_append hgap, skips]
  exact eq rest hrest

theorem Takes.eq_of_endsValue (h : Takes reader cs a) (hrest : endsValue rest = true) :
    reader (cs ++ rest) = .ok (a, rest) :=
  h.eq [] rest rfl hrest

/-- A text that holds such characters and nothing else but blanks is read. -/
theorem Takes.parse_eq (h : Takes reader cs a) {gap gap' : List Char} {text : String}
    (written : text.toList = gap ++ (cs ++ gap')) (hgap : gap.all isGap = true)
    (hgap' : gap'.all isGap = true) : parse reader text = .ok a := by
  have ends : endsValue gap' = true := by
    cases gap' with
    | nil => rfl
    | cons c gap' =>
      rw [List.all_cons, Bool.and_eq_true] at hgap'
      simp [endsValue, hgap'.1]
  have finished : skipGaps gap' = [] := List.dropWhile_eq_nil_iff.mpr (List.all_eq_true.mp hgap')
  unfold parse
  rw [written, h.eq gap gap' hgap ends]
  simp only [bind, Except.bind, finished, List.isEmpty_nil, if_true]
  rfl

end

/-! ## Texts -/

theorem Reader.text_skipGaps (cs : List Char) : Reader.text (skipGaps cs) = Reader.text cs := by
  unfold Reader.text
  rw [skipGaps_skipGaps]

/-- **A text is read**, whatever it holds and however it is spelled. -/
theorem takes_form_text {s : String} (h : Form.text s cs) : Takes Reader.text cs s := by
  obtain ⟨body, spelled, rfl⟩ := h
  refine .of_skips Reader.text_skipGaps rfl fun rest _ => ?_
  rw [List.cons_append, List.append_assoc]
  exact textBody_of_spelled spelled rest

theorem takes_text (s : String) : Takes Reader.text (Layout.quotedText s) s :=
  takes_form_text (text_quotedText s)

/-! ## Numbers -/

theorem le_ofDigitChars (ds : List Char) (value : Nat) : value ≤ Nat.ofDigitChars 10 ds value := by
  induction ds generalizing value with
  | nil => exact Nat.le_refl value
  | cons d ds ih =>
    rw [Nat.ofDigitChars_cons]
    have := ih (10 * value + (d.toNat - '0'.toNat))
    omega

/-- All digits of a number are kept, if the number fits. -/
theorem significand_append {ds : List Char} (value : Nat) (hds : ∀ d ∈ ds, d.isDigit = true)
    (hrest : endsValue rest = true) (hfit : Nat.ofDigitChars 10 ds value < wordLimit) :
    significand value (ds ++ rest) = (Nat.ofDigitChars 10 ds value, rest) := by
  induction ds generalizing value with
  | nil =>
    cases rest with
    | nil => rfl
    | cons c rest =>
      obtain ⟨hc, -⟩ := stopsNumber_of_endsValue hrest
      simp [significand, hc]
  | cons d ds ih =>
    rw [Nat.ofDigitChars_cons] at hfit ⊢
    have next : value * 10 + digitValue d = 10 * value + (d.toNat - '0'.toNat) := by
      rw [Nat.mul_comm]
      rfl
    have fits : value * 10 + digitValue d < wordLimit := by
      have := le_ofDigitChars ds (10 * value + (d.toNat - '0'.toNat))
      omega
    have hd : d.isDigit = true := hds d List.mem_cons_self
    rw [List.cons_append, significand, if_pos ⟨hd, fits⟩, next]
    exact ih _ (fun e he => hds e (List.mem_cons_of_mem d he)) hfit

/-- A number without point and exponent is a natural number. -/
theorem afterInteger_eq (n : Nat) (h : endsValue rest = true) :
    afterInteger false n 0 rest = .ok (.natural n, rest) := by
  cases rest with
  | nil => rfl
  | cons c rest =>
    obtain ⟨-, hpoint, hletter⟩ := stopsNumber_of_endsValue h
    unfold afterInteger
    split
    · rename_i heq
      cases heq
      exact absurd rfl hpoint
    · simp [hletter, Number.ofInteger, Except.map]

theorem magnitude_digits {n : Nat} (hn : n < wordLimit) (h : endsValue rest = true) :
    magnitude false (digits n ++ rest) = .ok (.natural n, rest) := by
  have noDigits : rest.takeWhile Char.isDigit = [] ∧ rest.dropWhile Char.isDigit = rest ∧
      startsWithDigit rest = false := by
    cases rest with
    | nil => exact ⟨rfl, rfl, rfl⟩
    | cons c rest =>
      obtain ⟨hc, -⟩ := stopsNumber_of_endsValue h
      simp [startsWithDigit, hc]
  obtain ⟨noneTaken, noneDropped, noStart⟩ := noDigits
  rcases Nat.eq_zero_or_pos n with rfl | hpos
  · have zero : digits 0 = ['0'] := rfl
    rw [zero]
    simp only [List.cons_append, List.nil_append, magnitude, if_true, noStart]
    exact afterInteger_eq 0 h
  · obtain ⟨d, ds, hd, hne⟩ := digits_eq_cons hpos
    have all : ∀ c ∈ d :: ds, c.isDigit = true := fun c hc => isDigit_of_mem_digits (hd ▸ hc)
    have value : Nat.ofDigitChars 10 ds (digitValue d) = n := by
      have whole : Nat.ofDigitChars 10 (digits n) 0 = n := Nat.ofDigitChars_ten_toDigits
      rwa [hd, Nat.ofDigitChars_cons, Nat.mul_zero, Nat.zero_add] at whole
    have read : significand (digitValue d) (ds ++ rest) = (n, rest) := by
      rw [significand_append (digitValue d) (fun c hc => all c (List.mem_cons_of_mem d hc)) h
        (value ▸ hn), value]
    rw [hd, List.cons_append, magnitude, if_neg hne, if_pos (all d List.mem_cons_self), read]
    simp only [noneTaken, noneDropped]
    exact afterInteger_eq n h

theorem Reader.natural_skipGaps (cs : List Char) :
    Reader.natural (skipGaps cs) = Reader.natural cs := by
  unfold Reader.natural
  rw [skipGaps_skipGaps]

theorem beginsItem_of_isDigit {c : Char} (h : c.isDigit = true) : beginsItem (c :: cs) = true := by
  have apart : ∀ d : Char, d.isDigit = false → c ≠ d := by
    rintro d hd rfl
    rw [h] at hd
    cases hd
  simp [beginsItem, isGap, apart ' ' rfl, apart '\n' rfl, apart '\t' rfl, apart '\r' rfl,
    apart ']' rfl, apart '\x7d' rfl]

/-- **A number of 64 bits is read back.** -/
theorem takes_natural (n : UInt64) : Takes Reader.natural (digits n.toNat) n := by
  obtain ⟨d, ds, hd⟩ := List.exists_cons_of_ne_nil (Nat.toDigits_ne_nil (n := n.toNat) (b := 10))
  have hd : digits n.toNat = d :: ds := hd
  have digit : d.isDigit = true := isDigit_of_mem_digits (hd ▸ List.mem_cons_self)
  refine .of_skips Reader.natural_skipGaps (hd ▸ beginsItem_of_isDigit digit) fun rest hrest => ?_
  have begins : beginsItem (d :: (ds ++ rest)) = true := beginsItem_of_isDigit digit
  have sign : d ≠ '-' := by
    rintro rfl
    cases digit
  have fits : n.toNat < wordLimit := n.toNat_lt
  have read : Number.read (d :: (ds ++ rest)) = .ok (.natural n.toNat, rest) := by
    have magnitude := magnitude_digits fits hrest
    rw [hd, List.cons_append] at magnitude
    unfold Number.read
    split
    · rename_i heq
      cases heq
      exact absurd rfl sign
    · exact magnitude
  rw [hd, List.cons_append, Reader.natural, skipGaps_of_beginsItem begins]
  simp only [if_pos (Or.inr digit), read, Number.toWord, bind, Except.bind,
    UInt64.ofNat_toNat]
  rfl

/-! ## Words -/

theorem Reader.boolean_skipGaps (cs : List Char) :
    Reader.boolean (skipGaps cs) = Reader.boolean cs := by
  unfold Reader.boolean
  rw [skipGaps_skipGaps]

theorem takes_boolean (b : Bool) (depth : Nat) :
    Takes Reader.boolean (Layout.boolean b depth) b := by
  cases b with
  | true => exact .of_skips Reader.boolean_skipGaps rfl fun rest _ => rfl
  | false => exact .of_skips Reader.boolean_skipGaps rfl fun rest _ => rfl

section

variable {α β : Type} {reader : Reader α} {a : α}

theorem Reader.optional_skipGaps (cs : List Char) :
    Reader.optional reader (skipGaps cs) = Reader.optional reader cs := by
  unfold Reader.optional
  rw [skipGaps_skipGaps]

theorem takes_null : Takes (Reader.optional reader) ['n', 'u', 'l', 'l'] none :=
  .of_skips Reader.optional_skipGaps rfl fun _ _ => rfl

/-- A value that is present is read as such, since it does not look like `null`. -/
theorem takes_some (h : Takes reader cs a) (hn : cs.head? ≠ some 'n') :
    Takes (Reader.optional reader) cs (some a) := by
  refine .of_skips Reader.optional_skipGaps h.begins fun rest hrest => ?_
  have present := h.eq_of_endsValue hrest
  have begins : beginsItem (cs ++ rest) = true := beginsItem_append h.begins
  unfold Reader.optional
  rw [skipGaps_of_beginsItem begins]
  split
  · rename_i heq
    cases cs with
    | nil => exact absurd h.begins Bool.false_ne_true
    | cons c cs =>
      cases heq
      exact absurd rfl hn
  · rw [present]
    rfl

/-- A value is read along with what is made of it. -/
theorem takes_map {read : Reader β} (f : α → β)
    (hread : ∀ cs, read cs = (reader cs).map fun p => (f p.1, p.2)) (h : Takes reader cs a) :
    Takes read cs (f a) := by
  refine ⟨h.begins, fun gap rest hgap hrest => ?_⟩
  rw [hread, h.eq gap rest hgap hrest]
  rfl

end


end Dialogue.Json
