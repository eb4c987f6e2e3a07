import Dialogue.Template.Basic

/-!
# Walking through the lines of a template

The lines of a template have an order: screen by screen, each screen's own line before those of its
choices. Changing lines in this order, with a state that is handed from line to line and a value
that is collected at each, happens in place: the index of the arena is taken along. The arena stays
sound, because validation does not look at lines.

Results:
* `Arena.lines_mapLines`: changing lines one by one changes the list of lines.
* `Arena.lines_mapAccumLines`, `Arena.values_mapAccumLines`, `Arena.state_mapAccumLines`: so does
  changing them with a state, screens and choices notwithstanding.
* `Arena.mapLines_mapAccumLines`, `Arena.mapLines_mapLines`: one change after the other is one
  change.
* `Arena.mapAccumLines_mapLines`: two changes of which one has a state can be made in either order,
  if those of each line can.
* `Arena.mapLines_eq_self`, `Arena.mapAccumLines_eq_self`: a change that leaves each line alone
  leaves the arena alone.
* `Arena.outlines_mapLines`, `Arena.outlines_mapAccumLines`: nothing else of a screen that
  validation looks at changes.
* `Arena.Sound.mapLines`, `Arena.Sound.mapAccumLines`: a sound arena stays sound.
-/

namespace Dialogue

/-! ## Lists with a state -/

section MapAccum

variable {σ α β γ δ ε : Type}

/-- Replaces the members of a list from left to right, handing a state along. -/
def mapAccum (f : σ → α → β × σ) : σ → List α → List β × σ
  | state, [] => ([], state)
  | state, a :: as =>
    let (b, state) := f state a
    let (bs, state) := mapAccum f state as
    (b :: bs, state)

theorem map_mapAccum {f : σ → α → β × σ} {g : β → γ} {h : α → γ}
    (hf : ∀ state a, g (f state a).1 = h a) (state : σ) (as : List α) :
    (mapAccum f state as).1.map g = as.map h := by
  induction as generalizing state with
  | nil => rfl
  | cons a as ih => simp [mapAccum, hf, ih]

/-- What has been put in place of the members was found by replacing one of them, in a state with a
property that replacing keeps. -/
theorem mem_mapAccum_of_step {f : σ → α → β × σ} {P : σ → Prop}
    (step : ∀ state a, P state → P (f state a).2) {state : σ} (hP : P state) {as : List α} {b : β}
    (h : b ∈ (mapAccum f state as).1) : ∃ state, P state ∧ ∃ a ∈ as, b = (f state a).1 := by
  induction as generalizing state with
  | nil => cases h
  | cons a as ih =>
    rcases List.mem_cons.mp h with rfl | h
    · exact ⟨state, hP, a, List.mem_cons_self, rfl⟩
    · obtain ⟨state, hP, c, hc, rfl⟩ := ih (step state a hP) h
      exact ⟨state, hP, c, List.mem_cons_of_mem a hc, rfl⟩

/-- What has been put in place of the members was found by replacing one of them. -/
theorem mem_mapAccum {f : σ → α → β × σ} {state : σ} {as : List α} {b : β}
    (h : b ∈ (mapAccum f state as).1) : ∃ state, ∃ a ∈ as, b = (f state a).1 := by
  obtain ⟨state, -, found⟩ :=
    mem_mapAccum_of_step (P := fun _ => True) (fun _ _ _ => trivial) trivial h
  exact ⟨state, found⟩

/-- A member is replaced in the state that replacing those before it leaves behind. -/
theorem getElem?_mapAccum (f : σ → α → β × σ) (state : σ) (as : List α) (i : Nat) :
    (mapAccum f state as).1[i]? =
      as[i]?.map fun a => (f (mapAccum f state (as.take i)).2 a).1 := by
  induction as generalizing state i with
  | nil => rfl
  | cons a as ih =>
    cases i with
    | zero => rfl
    | succ i =>
      rw [mapAccum, List.getElem?_cons_succ, List.getElem?_cons_succ, ih, List.take_succ_cons,
        mapAccum]

/-- Where the state is always left as it is, the members are replaced one by one. -/
theorem mapAccum_eq_map {f : σ → α → β × σ} {g : α → β} {state : σ} {as : List α}
    (h : ∀ a ∈ as, f state a = (g a, state)) : mapAccum f state as = (as.map g, state) := by
  induction as with
  | nil => rfl
  | cons a as ih =>
    have rest : mapAccum f state as = (as.map g, state) :=
      ih fun b hb => h b (List.mem_cons_of_mem a hb)
    simp only [mapAccum, h a List.mem_cons_self, rest, List.map_cons]

/-- The members of a list in two parts are replaced part by part. -/
theorem mapAccum_append (f : σ → α → β × σ) (state : σ) (as bs : List α) :
    mapAccum f state (as ++ bs) =
      ((mapAccum f state as).1 ++ (mapAccum f (mapAccum f state as).2 bs).1,
        (mapAccum f (mapAccum f state as).2 bs).2) := by
  induction as generalizing state with
  | nil => rfl
  | cons a as ih => simp [mapAccum, ih]

/-- A property of the state that replacing one member keeps holds after all of them. -/
theorem mapAccum_of_step {f : σ → α → β × σ} {P : σ → Prop}
    (step : ∀ state a, P state → P (f state a).2) {state : σ} (hP : P state) (as : List α) :
    P (mapAccum f state as).2 := by
  induction as generalizing state with
  | nil => exact hP
  | cons a as ih => exact ih (step state a hP)

/-- Replacing parts of the members by `f` is replacing the members by `g`, in the states with a
property that replacing keeps. -/
theorem mapAccum_map_of_step {g : σ → α → β × σ} {f : σ → γ → δ × σ} {part : α → γ} {view : β → δ}
    {P : σ → Prop} (step : ∀ state a, P state → P (g state a).2)
    (h : ∀ state a, P state → f state (part a) = (view (g state a).1, (g state a).2)) {state : σ}
    (hP : P state) (as : List α) :
    mapAccum f state (as.map part) = ((mapAccum g state as).1.map view, (mapAccum g state as).2) := by
  induction as generalizing state with
  | nil => rfl
  | cons a as ih => simp [mapAccum, h state a hP, ih (step state a hP)]

/-- Replacing members by what is replaced of a part `view` of them. -/
theorem mapAccum_map {g : σ → α → β × σ} {f : σ → γ → δ × σ} {part : α → γ} {view : β → δ}
    (h : ∀ state a, f state (part a) = (view (g state a).1, (g state a).2)) (state : σ)
    (as : List α) :
    mapAccum f state (as.map part) = ((mapAccum g state as).1.map view, (mapAccum g state as).2) :=
  mapAccum_map_of_step (P := fun _ => True) (fun _ _ _ => trivial) (fun state a _ => h state a)
    trivial as

/-- Replacing members by what is replaced of the parts that they are made of. -/
theorem mapAccum_flatMap {g : σ → α → β × σ} {f : σ → γ → δ × σ} {parts : α → List γ}
    {view : β → List ε} {part : δ → ε}
    (hview : ∀ state a, view (g state a).1 = (mapAccum f state (parts a)).1.map part)
    (hstate : ∀ state a, (g state a).2 = (mapAccum f state (parts a)).2) (state : σ)
    (as : List α) :
    (mapAccum g state as).1.flatMap view = (mapAccum f state (as.flatMap parts)).1.map part ∧
      (mapAccum g state as).2 = (mapAccum f state (as.flatMap parts)).2 := by
  induction as generalizing state with
  | nil => exact ⟨rfl, rfl⟩
  | cons a as ih =>
    obtain ⟨views, states⟩ := ih (g state a).2
    rw [List.flatMap_cons, mapAccum_append, ← hstate]
    constructor
    · rw [mapAccum, List.flatMap_cons, hview, List.map_append, views]
    · rw [mapAccum, states]

end MapAccum

/-! ## Screens -/

variable {σ β : Type}

/-- Changes the line of a choice. -/
def Choice.mapAccumLine (f : σ → Line → (Line × β) × σ) (state : σ) (c : Choice) :
    (Choice × β) × σ :=
  let ((line, value), state) := f state c.toLine
  (({ c with toLine := line }, value), state)

/-- Changes the lines of a screen in order, handing a state along and collecting a value of each. -/
def Screen.mapAccumLines (f : σ → Line → (Line × β) × σ) (state : σ) (s : Screen) :
    (Screen × List β) × σ :=
  let ((own, value), state) := f state s.toLine
  let (changed, state) := mapAccum (Choice.mapAccumLine f) state s.choices
  (({ s with toLine := own, choices := changed.map (·.1) }, value :: changed.map (·.2)), state)

@[simp] theorem Screen.outline_mapAccumLines (f : σ → Line → (Line × β) × σ) (state : σ)
    (s : Screen) : (s.mapAccumLines f state).1.1.outline = s.outline := rfl

section

variable (f : σ → Line → (Line × β) × σ) (state : σ) (s : Screen)

/-- The choices of a screen are changed as their lines are. -/
theorem mapAccum_toLine (choices : List Choice) :
    mapAccum f state (choices.map (·.toLine)) =
      ((mapAccum (Choice.mapAccumLine f) state choices).1.map
        (fun changed => (changed.1.toLine, changed.2)),
      (mapAccum (Choice.mapAccumLine f) state choices).2) := by
  refine mapAccum_map ?_ state choices
  intro state c
  rfl

theorem Screen.lines_mapAccumLines :
    (s.mapAccumLines f state).1.1.lines = (mapAccum f state s.lines).1.map (·.1) := by
  simp only [Screen.lines, mapAccum, mapAccum_toLine, Screen.mapAccumLines, List.map_cons,
    List.map_map, Function.comp_def]

theorem Screen.values_mapAccumLines :
    (s.mapAccumLines f state).1.2 = (mapAccum f state s.lines).1.map (·.2) := by
  simp only [Screen.lines, mapAccum, mapAccum_toLine, Screen.mapAccumLines, List.map_cons,
    List.map_map, Function.comp_def]

theorem Screen.state_mapAccumLines :
    (s.mapAccumLines f state).2 = (mapAccum f state s.lines).2 := by
  simp only [Screen.lines, mapAccum, mapAccum_toLine, Screen.mapAccumLines]

end

/-- What one change made of the lines is changed once more. -/
theorem Screen.mapLines_mapAccumLines {f : σ → Line → (Line × β) × σ} {g h : Line → Line}
    (hf : ∀ state l, g (f state l).1.1 = h l) (state : σ) (s : Screen) :
    (s.mapAccumLines f state).1.1.mapLines g = s.mapLines h := by
  have choice : ∀ state (c : Choice), (c.mapAccumLine f state).1.1.mapLine g = c.mapLine h := by
    intro state c
    simp only [Choice.mapAccumLine, Choice.mapLine, hf]
  simp only [Screen.mapAccumLines, Screen.mapLines, List.map_map, hf]
  congr 1
  exact map_mapAccum (g := fun changed : Choice × β => changed.1.mapLine g) choice _ s.choices

theorem Screen.mapLines_eq_self {f : Line → Line} {s : Screen} (h : ∀ l ∈ s.lines, f l = l) :
    s.mapLines f = s := by
  have own : f s.toLine = s.toLine := h s.toLine List.mem_cons_self
  have choices : s.choices.map (·.mapLine f) = s.choices := by
    refine (List.map_congr_left fun c hc => ?_).trans (List.map_id s.choices)
    have : f c.toLine = c.toLine := h c.toLine (List.mem_cons_of_mem _ (List.mem_map_of_mem hc))
    rw [Choice.mapLine, this]
    rfl
  rw [Screen.mapLines, own, choices]

/-- A second change is made of what the first has made. -/
theorem Screen.mapLines_mapLines (f g : Line → Line) (s : Screen) :
    (s.mapLines f).mapLines g = s.mapLines fun l => g (f l) := by
  unfold Screen.mapLines
  rw [List.map_map]
  rfl

/-- A screen whose lines are left alone, and the state with them, only has values collected. -/
theorem Screen.mapAccumLines_eq_self {f : σ → Line → (Line × β) × σ} {value : Line → β} {state : σ}
    {s : Screen} (h : ∀ l ∈ s.lines, f state l = ((l, value l), state)) :
    s.mapAccumLines f state = ((s, s.lines.map value), state) := by
  have own : f state s.toLine = ((s.toLine, value s.toLine), state) := h _ List.mem_cons_self
  have choices : mapAccum (Choice.mapAccumLine f) state s.choices =
      (s.choices.map fun c => (c, value c.toLine), state) := by
    refine mapAccum_eq_map fun c hc => ?_
    have line : f state c.toLine = ((c.toLine, value c.toLine), state) :=
      h _ (List.mem_cons_of_mem _ (List.mem_map_of_mem hc))
    rw [Choice.mapAccumLine, line]
  have kept : (s.choices.map fun c => (c, value c.toLine)).map (·.1) = s.choices := by
    rw [List.map_map]
    exact List.map_id s.choices
  have values : (s.choices.map fun c => (c, value c.toLine)).map (·.2) =
      (s.choices.map (·.toLine)).map value := by
    rw [List.map_map, List.map_map]
    rfl
  simp only [Screen.mapAccumLines, own, choices, kept, values, Screen.lines, List.map_cons]

section Commute

variable {f g : σ → Line → (Line × β) × σ} {before after : Line → Line} {P : σ → Prop}
  (step : ∀ state l, P state → P (g state l).2)
  (commute : ∀ state l, P state →
    f state (before l) = ((after (g state l).1.1, (g state l).1.2), (g state l).2))
include step

theorem Screen.state_mapAccumLines_of_step {state : σ} (hP : P state) (s : Screen) :
    P (s.mapAccumLines g state).2 := by
  rw [s.state_mapAccumLines g state]
  exact mapAccum_of_step step hP s.lines

include commute

/-- A change with a state behind another change, if both can be made in the other order as well. -/
theorem Screen.mapAccumLines_mapLines {state : σ} (hP : P state) (s : Screen) :
    (s.mapLines before).mapAccumLines f state =
      (((s.mapAccumLines g state).1.1.mapLines after, (s.mapAccumLines g state).1.2),
        (s.mapAccumLines g state).2) := by
  have choices : mapAccum (Choice.mapAccumLine f) (g state s.toLine).2
      (s.choices.map (·.mapLine before)) =
        ((mapAccum (Choice.mapAccumLine g) (g state s.toLine).2 s.choices).1.map
          (fun changed => (changed.1.mapLine after, changed.2)),
        (mapAccum (Choice.mapAccumLine g) (g state s.toLine).2 s.choices).2) := by
    have kept : ∀ state (c : Choice), P state → P (c.mapAccumLine g state).2 :=
      fun state c => step state c.toLine
    refine mapAccum_map_of_step kept ?_ (step state s.toLine hP) s.choices
    intro state c hP
    simp only [Choice.mapAccumLine, Choice.mapLine, commute state c.toLine hP]
  simp only [Screen.mapAccumLines, Screen.mapLines, commute state s.toLine hP, choices,
    List.map_map, Function.comp_def]

end Commute

theorem map_outline_mapAccum (f : σ → Line → (Line × β) × σ) (state : σ) (ss : List Screen) :
    (mapAccum (fun state (s : Screen) => s.mapAccumLines f state) state ss).1.map
      (fun changed => changed.1.outline) = ss.map Screen.outline :=
  map_mapAccum (h := Screen.outline) (fun state s => s.outline_mapAccumLines f state) state ss

/-! ## Templates -/

/-- The lines of a draft in the order in which they are emitted. -/
def Draft.lines (d : Draft) : List Line := d.screens.flatMap (·.lines)

theorem Draft.mem_lines {d : Draft} {s : Screen} {l : Line} (hs : s ∈ d.screens) (hl : l ∈ s.lines) :
    l ∈ d.lines :=
  List.mem_flatMap.mpr ⟨s, hs, hl⟩

namespace Arena

/-- The arena with each line changed in place. -/
def mapLines (f : Line → Line) (a : Arena) : Arena :=
  { a with screens := a.screens.map (·.mapLines f) }

/-- Changes the lines of an arena in place and in order, handing a state along and collecting a
value of each. -/
def mapAccumLines (f : σ → Line → (Line × β) × σ) (state : σ) (a : Arena) :
    (Arena × List β) × σ :=
  let changed := mapAccum (fun state (s : Screen) => s.mapAccumLines f state) state a.screens
  (({ a with screens := changed.1.map (·.1) }, (changed.1.map (·.2)).flatten), changed.2)

/-- The arena in the given mode. -/
def withLocalized (localized : Bool) (a : Arena) : Arena := { a with localized }

/-- The arena with another prefix for its references. -/
def withKeyPrefix (keyPrefix : String) (a : Arena) : Arena := { a with keyPrefix }

@[simp] theorem lines_mapLines (f : Line → Line) (a : Arena) :
    (a.mapLines f).lines = a.lines.map f := by
  simp [Draft.lines, mapLines, List.flatMap_map, List.map_flatMap]

@[simp] theorem outlines_mapLines (f : Line → Line) (a : Arena) :
    (a.mapLines f).screens.map Screen.outline = a.screens.map Screen.outline := by
  simp [mapLines, Function.comp_def]

@[simp] theorem outlines_mapAccumLines (f : σ → Line → (Line × β) × σ) (state : σ) (a : Arena) :
    (a.mapAccumLines f state).1.1.screens.map Screen.outline = a.screens.map Screen.outline := by
  simpa [mapAccumLines, Function.comp_def] using map_outline_mapAccum f state a.screens

theorem mapLines_mapAccumLines {f : σ → Line → (Line × β) × σ} {g h : Line → Line}
    (hf : ∀ state l, g (f state l).1.1 = h l) (state : σ) (a : Arena) :
    (a.mapAccumLines f state).1.1.mapLines g = a.mapLines h := by
  simp only [mapLines, mapAccumLines, List.map_map]
  congr 1
  congr 1
  exact map_mapAccum (g := fun changed : Screen × List β => changed.1.mapLines g)
    (Screen.mapLines_mapAccumLines hf) state a.screens

theorem mapLines_eq_self {f : Line → Line} {a : Arena} (h : ∀ l ∈ a.lines, f l = l) :
    a.mapLines f = a := by
  have screens : a.screens.map (·.mapLines f) = a.screens := by
    refine (List.map_congr_left fun s hs => ?_).trans (List.map_id a.screens)
    exact Screen.mapLines_eq_self fun l hl => h l (Draft.mem_lines hs hl)
  rw [mapLines, screens]

theorem mapLines_mapLines (f g : Line → Line) (a : Arena) :
    (a.mapLines f).mapLines g = a.mapLines fun l => g (f l) := by
  have screens : (a.screens.map (·.mapLines f)).map (·.mapLines g) =
      a.screens.map (·.mapLines fun l => g (f l)) := by
    rw [List.map_map]
    exact List.map_congr_left fun s _ => s.mapLines_mapLines f g
  unfold mapLines
  rw [screens]

/-- An arena whose lines are left alone, and the state with them, only has values collected. -/
theorem mapAccumLines_eq_self {f : σ → Line → (Line × β) × σ} {value : Line → β} {state : σ}
    {a : Arena} (h : ∀ l ∈ a.lines, f state l = ((l, value l), state)) :
    a.mapAccumLines f state = ((a, a.lines.map value), state) := by
  have screens : mapAccum (fun state (s : Screen) => s.mapAccumLines f state) state a.screens =
      (a.screens.map fun s => (s, s.lines.map value), state) :=
    mapAccum_eq_map fun s hs => Screen.mapAccumLines_eq_self fun l hl => h l (Draft.mem_lines hs hl)
  have kept : (a.screens.map fun s => (s, s.lines.map value)).map (·.1) = a.screens := by
    rw [List.map_map]
    exact List.map_id a.screens
  have values : ((a.screens.map fun s => (s, s.lines.map value)).map (·.2)).flatten =
      a.lines.map value := by
    rw [List.map_map, ← List.flatMap_def, Draft.lines, List.map_flatMap]
    rfl
  simp only [mapAccumLines, screens, kept, values]

/-- A change with a state behind another change, if both can be made in the other order as well. -/
theorem mapAccumLines_mapLines {f g : σ → Line → (Line × β) × σ} {before after : Line → Line}
    {P : σ → Prop} (step : ∀ state l, P state → P (g state l).2)
    (commute : ∀ state l, P state →
      f state (before l) = ((after (g state l).1.1, (g state l).1.2), (g state l).2))
    {state : σ} (hP : P state) (a : Arena) :
    (a.mapLines before).mapAccumLines f state =
      (((a.mapAccumLines g state).1.1.mapLines after, (a.mapAccumLines g state).1.2),
        (a.mapAccumLines g state).2) := by
  have kept : ∀ state (s : Screen), P state → P (s.mapAccumLines g state).2 :=
    fun _ s hP => Screen.state_mapAccumLines_of_step step hP s
  have screen : ∀ state (s : Screen), P state → (s.mapLines before).mapAccumLines f state =
      (((s.mapAccumLines g state).1.1.mapLines after, (s.mapAccumLines g state).1.2),
        (s.mapAccumLines g state).2) :=
    fun _ s hP => Screen.mapAccumLines_mapLines step commute hP s
  have screens : mapAccum (fun state (s : Screen) => s.mapAccumLines f state) state
      (a.screens.map (·.mapLines before)) =
        ((mapAccum (fun state (s : Screen) => s.mapAccumLines g state) state a.screens).1.map
          (fun changed => (changed.1.mapLines after, changed.2)),
        (mapAccum (fun state (s : Screen) => s.mapAccumLines g state) state a.screens).2) :=
    mapAccum_map_of_step kept screen hP a.screens
  simp only [mapAccumLines, mapLines, screens, List.map_map, Function.comp_def]

section

variable (f : σ → Line → (Line × β) × σ) (state : σ) (a : Arena)

/-- The lines are changed one after the other, whatever screens they are on. -/
theorem lines_mapAccumLines :
    (a.mapAccumLines f state).1.1.lines = (mapAccum f state a.lines).1.map (·.1) := by
  rw [mapAccumLines, Draft.lines, List.flatMap_map]
  exact (mapAccum_flatMap (fun state s => s.lines_mapAccumLines f state)
    (fun state s => s.state_mapAccumLines f state) state a.screens).1

/-- A value is collected of each line, in order. -/
theorem values_mapAccumLines :
    (a.mapAccumLines f state).1.2 = (mapAccum f state a.lines).1.map (·.2) := by
  rw [mapAccumLines, ← List.flatMap_def]
  exact (mapAccum_flatMap (fun state s => s.values_mapAccumLines f state)
    (fun state s => s.state_mapAccumLines f state) state a.screens).1

/-- The state is handed from line to line. -/
theorem state_mapAccumLines :
    (a.mapAccumLines f state).2 = (mapAccum f state a.lines).2 :=
  (mapAccum_flatMap (fun state s => s.values_mapAccumLines f state)
    (fun state s => s.state_mapAccumLines f state) state a.screens).2

end

namespace Sound

variable {a : Arena}

theorem mapLines (h : a.Sound) (f : Line → Line) : (a.mapLines f).Sound :=
  h.of_outlines rfl (outlines_mapLines f a) rfl

theorem mapAccumLines (h : a.Sound) (f : σ → Line → (Line × β) × σ) (state : σ) :
    (a.mapAccumLines f state).1.1.Sound :=
  h.of_outlines rfl (outlines_mapAccumLines f state a) rfl

theorem withLocalized (h : a.Sound) (localized : Bool) : (a.withLocalized localized).Sound :=
  h.of_outlines rfl rfl rfl

theorem withKeyPrefix (h : a.Sound) (keyPrefix : String) : (a.withKeyPrefix keyPrefix).Sound :=
  h.of_outlines rfl rfl rfl

end Sound

end Arena

end Dialogue
