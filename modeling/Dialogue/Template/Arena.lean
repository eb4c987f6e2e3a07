import Dialogue.Template.Draft

/-!
# Arenas

Once a draft has been checked, its screens are kept in an arena: in the order in which they are
declared, beside an index that says at which position each identifier is found. The index is made
when the draft is checked. Whatever later changes the screens in place takes the index along as it
is.

* `Draft.assemble` checks a draft and makes its arena.
* `Arena.Sound` is what the arena of a checked draft guarantees.

Results:
* `Draft.assemble_eq_ok_iff`: a draft makes a sound arena, or none.
* **`Arena.Sound.screen?_eq_find?`**: looking up an identifier in a sound arena is the same as going
  through the screens.
* `Arena.Sound.of_outlines`: screens may be changed in place, as long as validation does not notice.
-/

namespace Dialogue

/-! ## The index -/

/-- The positions of screens by identifier. The entry in front counts. -/
abbrev ScreenIndex := List (ScreenId × Nat)

/-- The index with the entries for screens that start at a position. -/
def ScreenIndex.enter (index : ScreenIndex) (position : Nat) : List Screen → ScreenIndex
  | [] => index
  | s :: rest => enter ((s.id, position) :: index) (position + 1) rest

/-- The index of a list of screens. -/
def ScreenIndex.of (screens : List Screen) : ScreenIndex := ScreenIndex.enter [] 0 screens

/-- With distinct identifiers, the index finds a screen where a scan of the list finds it. -/
theorem ScreenIndex.lookup_enter {screens : List Screen} (h : (screens.map (·.id)).Nodup)
    (index : ScreenIndex) (position : Nat) (id : ScreenId) :
    (index.enter position screens).lookup id =
      ((screens.findIdx? (·.id == id)).map (· + position)).or (index.lookup id) := by
  induction screens generalizing index position with
  | nil => rfl
  | cons s rest ih =>
    rw [List.map_cons, List.nodup_cons] at h
    rw [ScreenIndex.enter, ih h.2, List.findIdx?_cons]
    by_cases hs : s.id = id
    · have hrest : rest.findIdx? (·.id == id) = none := by
        rw [List.findIdx?_eq_none_iff]
        intro r hr
        have : r.id ≠ id := fun e => h.1 (List.mem_map.mpr ⟨r, hr, e.trans hs.symm⟩)
        simpa using this
      rw [hrest]
      simp [hs]
    · have hne : (id == s.id) = false := by simpa using fun e => hs e.symm
      rw [List.lookup_cons, hne]
      simp [hs, Option.map_map, Function.comp_def, Nat.add_assoc, Nat.add_comm 1]

theorem ScreenIndex.lookup_of {screens : List Screen} (h : (screens.map (·.id)).Nodup)
    (id : ScreenId) : (ScreenIndex.of screens).lookup id = screens.findIdx? (·.id == id) := by
  rw [ScreenIndex.of, ScreenIndex.lookup_enter h]
  simp

/-- The index sees the identifiers of the screens and nothing else. -/
theorem ScreenIndex.enter_congr {ss rs : List Screen} (h : ss.map (·.id) = rs.map (·.id))
    (index : ScreenIndex) (position : Nat) :
    index.enter position ss = index.enter position rs := by
  induction ss generalizing rs index position with
  | nil =>
    obtain rfl : rs = [] := by simpa using h.symm
    rfl
  | cons s ss ih =>
    obtain ⟨r, rs, rfl, hr, hrs⟩ := List.map_eq_cons_iff.mp h.symm
    rw [ScreenIndex.enter, ScreenIndex.enter, hr]
    exact ih hrs.symm _ _

/-! ## Arenas -/

/-- The parts of a template together with the index of its screens. -/
structure Arena extends Draft where
  /-- Where the screens are found. -/
  index : ScreenIndex
  deriving DecidableEq, Repr

/-- Checks the parts of a draft: the index of its screens, or its earliest fault. -/
def Draft.check (d : Draft) : Except Fault ScreenIndex :=
  match d.fault? with
  | some fault => .error fault
  | none => .ok (ScreenIndex.of d.screens)

/-- The arena of a draft, or the draft's earliest fault. -/
def Draft.assemble (d : Draft) : Except Fault Arena :=
  d.check.map fun index => { d with index }

namespace Arena

/-- The screen that the index has for an identifier. -/
def screen? (a : Arena) (id : ScreenId) : Option Screen :=
  (a.index.lookup id).bind (a.screens[·]?)

/-- Checks the parts once more. -/
def validate (a : Arena) : Except Fault Unit := a.check.map fun _ => ()

/-- What the arena of a checked draft guarantees. -/
structure Sound (a : Arena) : Prop where
  /-- The parts have no fault. -/
  wellFormed : a.toDraft.WellFormed
  /-- The index is that of the screens. -/
  index_eq : a.index = ScreenIndex.of a.screens

namespace Sound

variable {a b : Arena}

theorem lookup_index (h : a.Sound) (id : ScreenId) :
    a.index.lookup id = a.screens.findIdx? (·.id == id) := by
  rw [h.index_eq]
  exact ScreenIndex.lookup_of h.wellFormed.ids_nodup id

/-- The index never leads out of the arena. -/
theorem position_lt (h : a.Sound) {id : ScreenId} {i : Nat} (hi : a.index.lookup id = some i) :
    i < a.screens.length := by
  rw [h.lookup_index] at hi
  obtain ⟨hlt, -⟩ := List.findIdx?_eq_some_iff_getElem.mp hi
  exact hlt

/-- **Looking up an identifier is the same as going through the screens.** -/
theorem screen?_eq_find? (h : a.Sound) (id : ScreenId) :
    a.screen? id = a.screens.find? (·.id == id) := by
  rw [screen?, h.lookup_index]
  exact List.find?_eq_bind_findIdx?_getElem?.symm

/-- The look-up finds the one screen with the identifier. -/
theorem screen?_eq_some_iff (h : a.Sound) {id : ScreenId} {s : Screen} :
    a.screen? id = some s ↔ s ∈ a.screens ∧ s.id = id := by
  rw [h.screen?_eq_find?]
  constructor
  · intro hs
    exact ⟨List.mem_of_find?_eq_some hs, by simpa using List.find?_some hs⟩
  · rintro ⟨hm, rfl⟩
    cases hf : a.screens.find? (·.id == s.id) with
    | none =>
      have := List.find?_eq_none.mp hf s hm
      simp at this
    | some r =>
      have hr := List.mem_of_find?_eq_some hf
      have hi : r.id = s.id := by simpa using List.find?_some hf
      rw [h.wellFormed.eq_of_id_eq hr hm hi]

theorem screen?_eq_none_iff (h : a.Sound) {id : ScreenId} :
    a.screen? id = none ↔ ∀ s ∈ a.screens, s.id ≠ id := by
  rw [h.screen?_eq_find?]
  simp

/-- Validation finds nothing. -/
theorem validate_eq (h : a.Sound) : a.validate = .ok () := by
  rw [validate, Draft.check, Draft.fault?_eq_none_iff.mpr h.wellFormed]
  rfl

/-- Screens may be changed in place, as long as their outlines stay. -/
theorem of_outlines (ha : a.Sound) (hn : b.name = a.name)
    (hs : b.screens.map Screen.outline = a.screens.map Screen.outline) (hi : b.index = a.index) :
    b.Sound := by
  have ids : b.screens.map (·.id) = a.screens.map (·.id) := by
    simpa [Screen.outline, Function.comp_def] using congrArg (List.map Outline.id) hs
  refine ⟨ha.wellFormed.of_outlines hn hs, ?_⟩
  rw [hi, ha.index_eq, ScreenIndex.of, ScreenIndex.of]
  exact ScreenIndex.enter_congr ids.symm [] 0

end Sound

end Arena

/-- A draft makes the sound arena with its parts, or none. -/
theorem Draft.assemble_eq_ok_iff {d : Draft} {a : Arena} :
    d.assemble = .ok a ↔ a.toDraft = d ∧ a.Sound := by
  unfold Draft.assemble Draft.check
  cases h : d.fault? with
  | some fault =>
    simp only [Except.map, reduceCtorEq, false_iff, not_and]
    rintro rfl hs
    rw [Draft.fault?_eq_none_iff.mpr hs.wellFormed] at h
    cases h
  | none =>
    constructor
    · intro ha
      cases ha
      exact ⟨rfl, Draft.fault?_eq_none_iff.mp h, rfl⟩
    · rintro ⟨rfl, hs⟩
      rw [← hs.index_eq]
      rfl

theorem Draft.assemble_eq_error_iff {d : Draft} {fault : Fault} :
    d.assemble = .error fault ↔ d.fault? = some fault := by
  unfold Draft.assemble Draft.check
  cases h : d.fault? <;> simp [Except.map]

end Dialogue
