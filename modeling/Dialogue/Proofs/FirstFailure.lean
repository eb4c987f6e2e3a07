/-!
# The first failure counts

A list is gone through from the front, and what goes wrong first is reported. A step that may fail is
given by its fault, if it has one, and by what it makes otherwise.

Results:
* `mapM_eq_ok_iff`: steps that may fail succeed one by one.
* **`mapM_eq_findSome?`**: of steps that go wrong, the first counts.
* `findSome?_flatMap`: faults of the parts of a list are looked for part by part.
* `findSome?_zipIdx_eq_some_iff`: the first fault in a numbered list, if the number tells nothing
  about whether there is a fault.
-/

namespace Dialogue

variable {ε α β γ : Type}

/-! ## Steps that may fail -/

/-- Where `f` succeeds exactly as `g` does, so does going through a list. -/
theorem mapM_eq_ok_iff {f : α → Except ε β} {g : α → Option β}
    (h : ∀ a b, f a = .ok b ↔ g a = some b) {as : List α} {bs : List β} :
    as.mapM f = .ok bs ↔ as.map g = bs.map some := by
  induction as generalizing bs with
  | nil => cases bs <;> simp [pure, Except.pure]
  | cons a as ih =>
    rw [List.mapM_cons]
    cases ha : f a with
    | error e => cases bs <;> simp [bind, Except.bind, ← h, ha]
    | ok b =>
      cases hs : as.mapM f with
      | error e => cases bs <;> simp [bind, Except.bind, ← ih, hs]
      | ok cs => cases bs <;> simp [bind, Except.bind, pure, Except.pure, ← ih, ← h, ha, hs]

/-- Of steps that go wrong, the first counts. -/
theorem mapM_eq_findSome? {f : α → Except ε β} {fault? : α → Option ε} {g : α → β}
    (h : ∀ a, f a = (fault? a).elim (.ok (g a)) .error) (as : List α) :
    as.mapM f = (as.findSome? fault?).elim (.ok (as.map g)) .error := by
  induction as with
  | nil => rfl
  | cons a as ih =>
    rw [List.mapM_cons, h, ih, List.findSome?_cons]
    cases fault? a with
    | some fault => rfl
    | none => cases as.findSome? fault? <;> rfl

/-! ## The first fault -/

/-- The faults of the parts that a list is made of are looked for part by part. -/
theorem findSome?_flatMap (f : α → List β) (fault? : β → Option γ) (as : List α) :
    (as.flatMap f).findSome? fault? = as.findSome? fun a => (f a).findSome? fault? := by
  induction as with
  | nil => rfl
  | cons a as ih =>
    rw [List.flatMap_cons, List.findSome?_append, List.findSome?_cons, ih]
    cases (f a).findSome? fault? <;> rfl

section

variable {fault? : α → Nat → Option γ} {Fine : α → Prop} (h : ∀ a n, fault? a n = none ↔ Fine a)
  {as : List α} {number : Nat}
include h

theorem findSome?_zipIdx_eq_none_iff :
    ((as.zipIdx number).findSome? fun p => fault? p.1 p.2) = none ↔ ∀ a ∈ as, Fine a := by
  induction as generalizing number with
  | nil => simp
  | cons a as ih =>
    rw [List.zipIdx_cons, List.findSome?_cons, List.forall_mem_cons, ← h a number]
    cases fault? a number with
    | some fault => simp
    | none => simpa using ih

/-- Members are numbered by those in front of them, all of which are fine where the first fault is
found. -/
theorem findSome?_zipIdx_eq_some_iff {fault : γ} :
    ((as.zipIdx number).findSome? fun p => fault? p.1 p.2) = some fault ↔
      ∃ before a after, as = before ++ a :: after ∧ (∀ b ∈ before, Fine b) ∧
        fault? a (number + before.length) = some fault := by
  rw [List.findSome?_eq_some_iff]
  constructor
  · rintro ⟨front, p, back, split, found, none⟩
    obtain ⟨before, rest, rfl, rfl, hrest⟩ := List.zipIdx_eq_append_iff.mp split
    obtain ⟨a, after, rfl, rfl, -⟩ := List.zipIdx_eq_cons_iff.mp hrest.symm
    have fine := (findSome?_zipIdx_eq_none_iff h).mp (List.findSome?_eq_none_iff.mpr none)
    exact ⟨before, a, after, rfl, fine, found⟩
  · rintro ⟨before, a, after, rfl, fine, found⟩
    refine ⟨before.zipIdx number, (a, number + before.length),
      after.zipIdx (number + before.length + 1), ?_, found, ?_⟩
    · rw [List.zipIdx_append, List.zipIdx_cons]
    · exact List.findSome?_eq_none_iff.mp ((findSome?_zipIdx_eq_none_iff h).mpr fine)

end

end Dialogue
