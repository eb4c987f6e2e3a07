import Dialogue.Proofs.DocumentDrafts

/-!
# Loading and storing a document

A document is loaded as a template, and the template is stored as a document again. The detour
settles what loading does not look at or fills in, and leaves everything else alone, targets that
lead nowhere included.

* `Document.normalized`: the document with an identifier, without numbers on its responses, and
  without anything about a trigger on screens that have no action.

Results:
* `ScreenEntry.toEntry_draftedScreen`: what is stored of an entry.
* `Document.normalized_normalized`: normalizing twice changes nothing more.
* **`Document.toDocument_of_toTemplate`**: the document that is stored is the normalized one, and
  from then on loading and storing change nothing.
-/

namespace Dialogue

open Text

/-! ## Responses -/

/-- The response without its number. -/
def ChoiceEntry.unnumbered (e : ChoiceEntry) : ChoiceEntry := { e with id := none }

/-! ## Screens -/

namespace ScreenEntry

/-- The entry without numbers on its responses. -/
def numberless (e : ScreenEntry) : ScreenEntry :=
  { e with choices := e.choices.map ChoiceEntry.unnumbered }

/-- The entry without its trigger and whatever is left of one. -/
def untriggered (e : ScreenEntry) : ScreenEntry :=
  { e with action := none, reaction := none, title := none, description := none }

/-- The entry that is stored: its responses have no numbers, and it has nothing of a trigger unless
it has an action that is not blank. -/
def normalized (e : ScreenEntry) : ScreenEntry :=
  if e.action.all isBlank then e.numberless.untriggered else e.numberless

variable {e : ScreenEntry}

theorem numberless_numberless (e : ScreenEntry) : e.numberless.numberless = e.numberless := by
  have choices : (e.choices.map ChoiceEntry.unnumbered).map ChoiceEntry.unnumbered =
      e.choices.map ChoiceEntry.unnumbered := List.map_map
  unfold numberless
  rw [choices]

theorem normalized_normalized (e : ScreenEntry) : e.normalized.normalized = e.normalized := by
  by_cases blank : e.action.all isBlank = true
  · have stored : e.normalized = e.numberless.untriggered := if_pos blank
    have again : e.numberless.untriggered.normalized = e.numberless.numberless.untriggered := rfl
    rw [stored, again, numberless_numberless]
  · have stored : e.normalized = e.numberless := if_neg blank
    have again : e.numberless.normalized = e.numberless.numberless := if_neg blank
    rw [stored, again, numberless_numberless]

/-- An entry with an action and no fault has a reaction. -/
theorem exists_reaction_of_missingReaction? {action : String} (ha : e.action = some action)
    (acting : isBlank action = false) (h : e.missingReaction? = none) :
    ∃ reaction, e.reaction = some reaction ∧ isBlank reaction = false := by
  have found : ¬ e.reaction.all isBlank = true := by
    intro lacks
    have faulty : e.missingReaction? = some (.missingReaction e.name action) := by
      simp [missingReaction?, ha, Option.filter, acting, lacks]
    rw [h] at faulty
    cases faulty
  cases hr : e.reaction with
  | none => exact absurd (by rw [hr]; rfl) found
  | some reaction =>
    rw [hr] at found
    exact ⟨reaction, rfl, by simpa using found⟩

/-- **What is stored of an entry that has no fault.** -/
theorem toEntry_draftedScreen (h : e.missingReaction? = none) :
    e.draftedScreen.toEntry = e.normalized := by
  have choices : e.draftedScreen.choices.map (·.toEntry) = e.choices.map ChoiceEntry.unnumbered :=
    List.map_map
  by_cases blank : e.action.all isBlank = true
  · have idle : e.draftedScreen.trigger = none := by
      refine Option.bind_eq_none_iff.mpr fun action ha => ?_
      rw [ha] at blank
      exact QuestTrigger.of?_eq_none_iff.mpr blank
    rw [normalized, if_pos blank, Screen.toEntry, choices, idle]
    rfl
  · obtain ⟨action, ha, acting⟩ : ∃ action, e.action = some action ∧ isBlank action = false := by
      cases ha : e.action with
      | none => exact absurd (by rw [ha]; rfl) blank
      | some action =>
        rw [ha] at blank
        exact ⟨action, rfl, by simpa using blank⟩
    obtain ⟨reaction, hr, -⟩ := exists_reaction_of_missingReaction? ha acting h
    have trigger : e.draftedScreen.trigger =
        some ⟨action, reaction, e.title, e.description, acting⟩ := by
      simp [draftedScreen, ha, hr, QuestTrigger.of?, acting]
    rw [normalized, if_neg blank, Screen.toEntry, choices, trigger]
    simp only [Option.map_some, Option.bind_some, ← ha, ← hr]
    rfl

end ScreenEntry

/-! ## Documents -/

namespace Document

/-- The document that is stored: it has an identifier, which is 0 if none was given, and its screens
are stored one by one. -/
def normalized (d : Document) : Document :=
  { d with id := some (d.id.getD ⟨0⟩), screens := d.screens.map (·.normalized) }

theorem normalized_normalized (d : Document) : d.normalized.normalized = d.normalized := by
  have screens : (d.screens.map (·.normalized)).map (·.normalized) =
      d.screens.map (·.normalized) := by
    rw [List.map_map]
    exact List.map_congr_left fun e _ => e.normalized_normalized
  rw [normalized, normalized, screens]
  rfl

variable {d : Document} {t : Template}

/-- A document that describes a template has no missing reaction, and drafts that template. -/
theorem toDraft_of_toTemplate (h : d.toTemplate = .ok t) :
    (∀ e ∈ d.screens, e.missingReaction? = none) ∧ t.toDraft = d.drafted := by
  rw [toTemplate_eq] at h
  cases hm : d.missingReaction? with
  | some fault =>
    rw [hm] at h
    cases h
  | none =>
    rw [hm] at h
    exact ⟨List.findSome?_eq_none_iff.mp hm, Draft.build_eq_ok_iff.mp h⟩

/-- **Loading and storing a document normalizes it**: it gets the identifier 0 if it had none, its
responses lose their numbers, screens without an action lose what is left of a trigger, and all else
stays. Loading what was stored gives the same template again, and storing it the same document. -/
theorem toDocument_of_toTemplate (h : d.toTemplate = .ok t) :
    t.toDocument = d.normalized ∧ t.toDocument.toTemplate = .ok t ∧
      d.normalized.normalized = d.normalized := by
  refine ⟨?_, toTemplate_toDocument t, d.normalized_normalized⟩
  obtain ⟨complete, parts⟩ := toDraft_of_toTemplate h
  rw [drafted_eq] at parts
  have screens : t.screens.map (·.toEntry) = d.screens.map (·.normalized) := by
    rw [congrArg Draft.screens parts, List.map_map]
    exact List.map_congr_left fun e he => ScreenEntry.toEntry_draftedScreen (complete e he)
  rw [Template.toDocument, screens, parts]
  rfl

/-- A landing stage without an identifier. One screen has lost its action and kept the rest of its
trigger, and its numbered response leads nowhere. -/
def landing : Document where
  name := "landing"
  keyPrefix := "@ferry/"
  initialScreen := some ⟨9⟩
  screens :=
    [{ id := ⟨2⟩, name := "pier", text := "The boat is late.", action := some " "
       reaction := some "toll", title := some "Pay the toll"
       choices := [{ id := some 4, text := "Wait.", target := some ⟨7⟩ }] },
      { id := ⟨1⟩, name := "boat", key := some "@ferry/landing:s_1", terminal := true
        action := some "activateTask", reaction := some "crossing", title := some "" }]

/-- What is stored of the landing stage. -/
theorem toDocument_of_toTemplate_landing :
    ∃ t, landing.toTemplate = .ok t ∧ t.toDocument.toTemplate = .ok t ∧
      t.toDocument =
        { landing with
          id := some ⟨0⟩
          screens :=
            [{ id := ⟨2⟩, name := "pier", text := "The boat is late."
               choices := [{ text := "Wait.", target := some ⟨7⟩ }] },
              { id := ⟨1⟩, name := "boat", key := some "@ferry/landing:s_1", terminal := true
                action := some "activateTask", reaction := some "crossing"
                title := some "" }] } := by
  obtain ⟨t, described⟩ : ∃ t, landing.toTemplate = .ok t := ⟨_, rfl⟩
  obtain ⟨stored, again, -⟩ := toDocument_of_toTemplate described
  exact ⟨t, described, again, stored.trans (by rfl)⟩

end Document

end Dialogue
