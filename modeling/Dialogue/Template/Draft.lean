import Dialogue.Template.Screen

/-!
# Drafts and their faults

A draft holds the parts of a template before anyone has checked them. `Draft.fault?` reports the
earliest fault: first a blank name, then the absence of screens, then the first screen that does not
go with the screens before it.

Results:
* `Draft.WellFormed`: what a draft without fault guarantees.
* **`Draft.fault?_eq_none_iff`**: a draft has no fault exactly when it is well formed.
* `Draft.WellFormed.eq_of_id_eq`, `Draft.WellFormed.eq_of_name_eq`: then identifiers and names each
  tell the screens apart.
* `Draft.WellFormed.of_outlines`: this depends on the name and the outlines of the screens alone.
-/

namespace Dialogue

open Text

/-! ## Faults -/

/-- What can be wrong with a draft. -/
inductive Fault where
  /-- The template's name is blank. -/
  | missingName
  /-- There is no screen. -/
  | noScreens (template : String)
  /-- A screen's name is blank. -/
  | missingScreenName (id : ScreenId)
  /-- Two screens share an identifier. -/
  | duplicateScreenId (id : ScreenId) (first second : String)
  /-- Two screens share a name. -/
  | duplicateScreenName (name : String) (first second : ScreenId)
  /-- A trigger has an action and nothing to apply it to. -/
  | missingReaction (screen action : String)
  deriving DecidableEq, Repr

/-- The message for a fault. -/
def Fault.message : Fault → String
  | .missingName => "Template name is required"
  | .noScreens template => "Template '" ++ template ++ "' must contain at least one screen"
  | .missingScreenName id => "Screen " ++ id.label ++ " has no name"
  | .duplicateScreenId id first second =>
    "Screen id " ++ id.label ++ " is used by both '" ++ first ++ "' and '" ++ second ++ "'"
  | .duplicateScreenName name first second =>
    "Screen name '" ++ name ++ "' is used by both " ++ first.label ++ " and " ++ second.label
  | .missingReaction screen action =>
    "Screen '" ++ screen ++ "' has trigger action '" ++ action ++ "' but no reaction"

/-! ## Checking screens -/

/-- The fault of a trigger on the screen with the given name: a blank reaction. -/
def QuestTrigger.fault? (screen : String) (t : QuestTrigger) : Option Fault :=
  if isBlank t.reaction then some (.missingReaction screen t.action) else none

/-- The fault of a screen that follows the screens `earlier`, none of which has a fault. -/
def Screen.fault? (earlier : List Screen) (s : Screen) : Option Fault :=
  if isBlank s.name then some (.missingScreenName s.id)
  else match earlier.find? (·.name == s.name) with
    | some first => some (.duplicateScreenName s.name first.id s.id)
    | none =>
      match s.trigger.bind (·.fault? s.name) with
      | some fault => some fault
      | none =>
        match earlier.find? (·.id == s.id) with
        | some first => some (.duplicateScreenId s.id first.name s.name)
        | none => none

/-- The earliest fault of the screens `later`, which follow the screens `earlier`. -/
def firstFault (earlier : List Screen) : (later : List Screen) → Option Fault
  | [] => none
  | s :: later =>
    match s.fault? earlier with
    | some fault => some fault
    | none => firstFault (earlier ++ [s]) later

theorem QuestTrigger.fault?_eq_none_iff {screen : String} {t : QuestTrigger} :
    t.fault? screen = none ↔ isBlank t.reaction = false := by
  simp [QuestTrigger.fault?]

theorem Screen.fault?_eq_none_iff {earlier : List Screen} {s : Screen} :
    s.fault? earlier = none ↔
      isBlank s.name = false ∧ (∀ e ∈ earlier, e.name ≠ s.name) ∧
        (∀ t ∈ s.trigger, isBlank t.reaction = false) ∧ ∀ e ∈ earlier, e.id ≠ s.id := by
  unfold Screen.fault?
  by_cases hb : isBlank s.name = true
  · simp [hb]
  rw [if_neg hb]
  cases hn : earlier.find? (·.name == s.name) with
  | some first =>
    have hm := List.mem_of_find?_eq_some hn
    have he := List.find?_some hn
    simp only [reduceCtorEq, false_iff, not_and]
    exact fun _ h => absurd (by simpa using he) (h first hm)
  | none =>
    have hn' : ∀ e ∈ earlier, e.name ≠ s.name := by simpa using hn
    cases ht : s.trigger.bind (·.fault? s.name) with
    | some fault =>
      obtain ⟨t, hts, hf⟩ := Option.bind_eq_some_iff.mp ht
      simp only [reduceCtorEq, false_iff, not_and]
      intro _ _ hr
      simp [QuestTrigger.fault?_eq_none_iff.mpr (hr t hts)] at hf
    | none =>
      have ht' : ∀ t ∈ s.trigger, isBlank t.reaction = false := fun t hts =>
        QuestTrigger.fault?_eq_none_iff.mp (Option.bind_eq_none_iff.mp ht t hts)
      cases hi : earlier.find? (·.id == s.id) with
      | some first =>
        have hm := List.mem_of_find?_eq_some hi
        have he := List.find?_some hi
        simp only [reduceCtorEq, false_iff, not_and]
        exact fun _ _ _ h => absurd (by simpa using he) (h first hm)
      | none =>
        have hi' : ∀ e ∈ earlier, e.id ≠ s.id := by simpa using hi
        exact ⟨fun _ => ⟨by simpa using hb, hn', ht', hi'⟩, fun _ => rfl⟩

/-! ## Drafts -/

/-- The prefix of references when a template does not set one. -/
def defaultKeyPrefix : String := "@conversation/"

/-- The parts of a template, not yet checked. -/
structure Draft where
  /-- The name, from which the scripts derive theirs. -/
  name : String
  /-- The identifier under which the template is stored. -/
  id : TemplateId := ⟨0⟩
  /-- Texts are shown by reference. -/
  localized : Bool := false
  /-- What references put before the template's name. -/
  keyPrefix : String := defaultKeyPrefix
  /-- The screen on which the conversation is to start. -/
  initialScreen : Option ScreenId := none
  /-- The screens, in the order in which they are declared. -/
  screens : List Screen := []
  deriving DecidableEq, Repr

/-- A setting of a draft. -/
inductive Edit where
  /-- Stores the template under an identifier. -/
  | id (id : TemplateId)
  /-- Shows texts by reference or as they are. -/
  | localized (localized : Bool)
  /-- Puts a prefix in front of the template's name in references. -/
  | keyPrefix (keyPrefix : String)
  /-- Starts the conversation on a screen. -/
  | initialScreen (id : ScreenId)
  /-- Declares one more screen. -/
  | screen (screen : Screen)
  /-- Declares more screens. -/
  | screens (screens : List Screen)
  deriving DecidableEq, Repr

/-- The draft with one setting made. -/
def Draft.edit (d : Draft) : Edit → Draft
  | .id id => { d with id }
  | .localized localized => { d with localized }
  | .keyPrefix keyPrefix => { d with keyPrefix }
  | .initialScreen id => { d with initialScreen := some id }
  | .screen screen => { d with screens := d.screens ++ [screen] }
  | .screens screens => { d with screens := d.screens ++ screens }

/-- The draft with settings made in order. -/
def Draft.editAll (d : Draft) (edits : List Edit) : Draft := edits.foldl Draft.edit d

/-- The earliest fault of a draft. -/
def Draft.fault? (d : Draft) : Option Fault :=
  if isBlank d.name then some .missingName
  else if d.screens.isEmpty then some (.noScreens d.name)
  else firstFault [] d.screens

/-- What a draft must satisfy to become a template. -/
structure Draft.WellFormed (d : Draft) : Prop where
  /-- The name shows something. -/
  name_not_blank : isBlank d.name = false
  /-- There is a screen. -/
  screens_ne_nil : d.screens ≠ []
  /-- Each screen's name shows something. -/
  screen_name_not_blank : ∀ s ∈ d.screens, isBlank s.name = false
  /-- No two screens share a name. -/
  names_nodup : (d.screens.map (·.name)).Nodup
  /-- No two screens share an identifier. -/
  ids_nodup : (d.screens.map (·.id)).Nodup
  /-- Each trigger has something to apply its action to. -/
  reaction_not_blank : ∀ s ∈ d.screens, ∀ t ∈ s.trigger, isBlank t.reaction = false

theorem firstFault_eq_none_iff {earlier later : List Screen} :
    firstFault earlier later = none ↔
      (∀ s ∈ later, isBlank s.name = false) ∧
        (∀ s ∈ later, ∀ t ∈ s.trigger, isBlank t.reaction = false) ∧
        (later.map (·.name)).Nodup ∧ (later.map (·.id)).Nodup ∧
        (∀ s ∈ later, ∀ e ∈ earlier, e.name ≠ s.name ∧ e.id ≠ s.id) := by
  induction later generalizing earlier with
  | nil => simp [firstFault]
  | cons s later ih =>
    unfold firstFault
    split
    · rename_i fault h
      simp only [reduceCtorEq, false_iff]
      rintro ⟨hb, hr, -, -, he⟩
      have : s.fault? earlier = none := Screen.fault?_eq_none_iff.mpr
        ⟨hb s (by simp), fun e hm => (he s (by simp) e hm).1, hr s (by simp),
          fun e hm => (he s (by simp) e hm).2⟩
      simp [this] at h
    · rename_i h
      obtain ⟨hb, hn, hr, hi⟩ := Screen.fault?_eq_none_iff.mp h
      rw [ih]
      simp only [List.mem_cons, forall_eq_or_imp, List.map_cons, List.nodup_cons, List.mem_map,
        not_exists, not_and, List.mem_append, List.not_mem_nil, or_false]
      constructor
      · rintro ⟨hb', hr', hn', hi', he⟩
        refine ⟨⟨hb, hb'⟩, ⟨hr, hr'⟩, ⟨fun x hx hxs => ?_, hn'⟩, ⟨fun x hx hxs => ?_, hi'⟩,
          fun e hm => ⟨hn e hm, hi e hm⟩, fun x hx e hm => he x hx e (Or.inl hm)⟩
        · exact (he x hx s (Or.inr rfl)).1 hxs.symm
        · exact (he x hx s (Or.inr rfl)).2 hxs.symm
      · rintro ⟨⟨-, hb'⟩, ⟨-, hr'⟩, ⟨hns, hn'⟩, ⟨his, hi'⟩, -, he⟩
        refine ⟨hb', hr', hn', hi', fun x hx e hm => ?_⟩
        rcases hm with hm | rfl
        · exact he x hx e hm
        · exact ⟨fun heq => hns x hx heq.symm, fun heq => his x hx heq.symm⟩

/-- **A draft has no fault exactly when it is well formed.** -/
theorem Draft.fault?_eq_none_iff {d : Draft} : d.fault? = none ↔ d.WellFormed := by
  unfold Draft.fault?
  split
  · rename_i h
    simp only [reduceCtorEq, false_iff]
    exact fun hw => by simp [hw.name_not_blank] at h
  · rename_i hb
    split
    · rename_i h
      simp only [reduceCtorEq, false_iff]
      exact fun hw => hw.screens_ne_nil (by simpa using h)
    · rename_i hs
      rw [firstFault_eq_none_iff]
      constructor
      · rintro ⟨h1, h2, h3, h4, -⟩
        exact ⟨by simpa using hb, by simpa using hs, h1, h3, h4, h2⟩
      · intro hw
        exact ⟨hw.screen_name_not_blank, hw.reaction_not_blank, hw.names_nodup, hw.ids_nodup,
          by simp⟩

instance (d : Draft) : Decidable d.WellFormed := decidable_of_iff _ Draft.fault?_eq_none_iff

/-- Members of a list whose images are distinct are told apart by their images. -/
theorem eq_of_nodup_map {α β : Type} {f : α → β} {a b : α} :
    ∀ {as : List α}, (as.map f).Nodup → a ∈ as → b ∈ as → f a = f b → a = b
  | c :: as, h, ha, hb, he => by
    rw [List.map_cons, List.nodup_cons] at h
    rcases List.mem_cons.mp ha with rfl | ha'
    · rcases List.mem_cons.mp hb with rfl | hb'
      · rfl
      · exact absurd (he ▸ List.mem_map_of_mem hb') h.1
    · rcases List.mem_cons.mp hb with rfl | hb'
      · exact absurd (he ▸ List.mem_map_of_mem ha') h.1
      · exact eq_of_nodup_map h.2 ha' hb' he

/-- Where images are distinct, only one member has the image of a member. -/
theorem filter_eq_singleton {α β : Type} [BEq β] [LawfulBEq β] {f : α → β} {a : α} :
    ∀ {as : List α}, (as.map f).Nodup → a ∈ as → as.filter (f · == f a) = [a]
  | b :: as, h, ha => by
    rw [List.map_cons, List.nodup_cons] at h
    rcases List.mem_cons.mp ha with rfl | ha'
    · have hrest : as.filter (f · == f a) = [] := by
        rw [List.filter_eq_nil_iff]
        intro c hc he
        exact h.1 (eq_of_beq he ▸ List.mem_map_of_mem hc)
      rw [List.filter_cons_of_pos (by simp), hrest]
    · have hne : f b ≠ f a := fun e => h.1 (e ▸ List.mem_map_of_mem ha')
      rw [List.filter_cons_of_neg (by simpa using hne)]
      exact filter_eq_singleton h.2 ha'

namespace Draft.WellFormed

variable {d : Draft} {r s : Screen}

theorem eq_of_id_eq (hd : d.WellFormed) (hr : r ∈ d.screens) (hs : s ∈ d.screens)
    (h : r.id = s.id) : r = s :=
  eq_of_nodup_map hd.ids_nodup hr hs h

theorem eq_of_name_eq (hd : d.WellFormed) (hr : r ∈ d.screens) (hs : s ∈ d.screens)
    (h : r.name = s.name) : r = s :=
  eq_of_nodup_map hd.names_nodup hr hs h

end Draft.WellFormed

/-- Well-formedness depends on the name and the outlines of the screens alone. -/
theorem Draft.WellFormed.of_outlines {d e : Draft} (hd : d.WellFormed) (hn : e.name = d.name)
    (hs : e.screens.map Screen.outline = d.screens.map Screen.outline) : e.WellFormed := by
  have names : e.screens.map (·.name) = d.screens.map (·.name) := by
    simpa [Screen.outline, Function.comp_def] using congrArg (List.map Outline.name) hs
  have ids : e.screens.map (·.id) = d.screens.map (·.id) := by
    simpa [Screen.outline, Function.comp_def] using congrArg (List.map Outline.id) hs
  have same : ∀ s ∈ e.screens, ∃ r ∈ d.screens, r.outline = s.outline := by
    intro s hm
    have : s.outline ∈ d.screens.map Screen.outline := hs ▸ List.mem_map_of_mem hm
    simpa using this
  refine ⟨hn ▸ hd.name_not_blank, fun h => ?_, fun s hm => ?_, names ▸ hd.names_nodup,
    ids ▸ hd.ids_nodup, fun s hm t ht => ?_⟩
  · rw [h] at hs
    exact hd.screens_ne_nil (by simpa using hs.symm)
  · obtain ⟨r, hr, ho⟩ := same s hm
    have : r.name = s.name := congrArg Outline.name ho
    exact this ▸ hd.screen_name_not_blank r hr
  · obtain ⟨r, hr, ho⟩ := same s hm
    have : r.trigger = s.trigger := congrArg Outline.trigger ho
    exact hd.reaction_not_blank r hr t (this ▸ ht)

end Dialogue
