import Dialogue.Template.Basic

/-!
# The earliest fault

Validation goes through the screens of a draft once and stops at the first that does not go with
those before it. What it asks of a list of screens does not depend on that order: `Agree` says it of
the list as a whole. The fault it reports is that of the shortest beginning that does not agree, and
there a blank name counts before a name in use, that before a blank reaction, and that before an
identifier in use.

* `Agree`: what validation asks of a list of screens.
* `Screen.Breaks`: the fault of a screen behind screens that agree.
* `Draft.Faulty`: the fault of a draft.

Results:
* `agree_append_singleton_iff`: one more screen goes with the others if it has no fault.
* `firstFault_eq_some_iff`: the scan stops where it is without fault up to there.
* `Screen.fault?_eq_some_iff`: behind screens that agree, what is in use is in use once.
* **`Draft.build_validates`**: building succeeds on what agrees, and reports the earliest fault of
  everything else.
-/

namespace Dialogue

open Text

/-! ## Screens that go together -/

/-- What validation asks of a list of screens. -/
structure Agree (screens : List Screen) : Prop where
  /-- Each name shows something. -/
  names_not_blank : ∀ s ∈ screens, isBlank s.name = false
  /-- No two screens share a name. -/
  names_nodup : (screens.map (·.name)).Nodup
  /-- Each trigger has something to apply its action to. -/
  reactions_not_blank : ∀ s ∈ screens, ∀ t ∈ s.trigger, isBlank t.reaction = false
  /-- No two screens share an identifier. -/
  ids_nodup : (screens.map (·.id)).Nodup

theorem firstFault_nil_eq_none_iff {screens : List Screen} :
    firstFault [] screens = none ↔ Agree screens := by
  rw [firstFault_eq_none_iff]
  constructor
  · rintro ⟨names, reactions, namesNodup, idsNodup, -⟩
    exact ⟨names, namesNodup, reactions, idsNodup⟩
  · intro h
    exact ⟨h.names_not_blank, h.reactions_not_blank, h.names_nodup, h.ids_nodup, by simp⟩

theorem Draft.wellFormed_iff {d : Draft} :
    d.WellFormed ↔ isBlank d.name = false ∧ d.screens ≠ [] ∧ Agree d.screens := by
  constructor
  · intro h
    exact ⟨h.name_not_blank, h.screens_ne_nil, h.screen_name_not_blank, h.names_nodup,
      h.reaction_not_blank, h.ids_nodup⟩
  · rintro ⟨name, screens, h⟩
    exact ⟨name, screens, h.names_not_blank, h.names_nodup, h.ids_nodup, h.reactions_not_blank⟩

/-- Where the scan goes on behind screens without fault. -/
theorem firstFault_append {earlier before later : List Screen}
    (h : firstFault earlier before = none) :
    firstFault earlier (before ++ later) = firstFault (earlier ++ before) later := by
  induction before generalizing earlier with
  | nil => rw [List.append_nil, List.nil_append]
  | cons s before ih =>
    rw [firstFault] at h
    rw [List.cons_append, firstFault]
    cases hs : s.fault? earlier with
    | some fault => simp [hs] at h
    | none =>
      rw [hs] at h
      simp only
      rw [ih h, ← List.append_cons]

/-- The scan stops at a screen with a fault behind screens without. -/
theorem firstFault_eq_some_iff {earlier later : List Screen} {fault : Fault} :
    firstFault earlier later = some fault ↔
      ∃ before s after, later = before ++ s :: after ∧ firstFault earlier before = none ∧
        s.fault? (earlier ++ before) = some fault := by
  constructor
  · induction later generalizing earlier with
    | nil => simp [firstFault]
    | cons s later ih =>
      intro h
      rw [firstFault] at h
      cases hs : s.fault? earlier with
      | some found =>
        obtain rfl : found = fault := by simpa [hs] using h
        exact ⟨[], s, later, rfl, rfl, by rwa [List.append_nil]⟩
      | none =>
        rw [hs] at h
        obtain ⟨before, r, after, rfl, hbefore, hr⟩ := ih h
        refine ⟨s :: before, r, after, rfl, ?_, by rwa [List.append_cons]⟩
        rw [firstFault, hs]
        exact hbefore
  · rintro ⟨before, s, after, rfl, hbefore, hs⟩
    rw [firstFault_append hbefore, firstFault, hs]

/-- One more screen goes with screens that agree if it has no fault behind them. -/
theorem agree_append_singleton_iff {earlier : List Screen} (h : Agree earlier) {s : Screen} :
    Agree (earlier ++ [s]) ↔ s.fault? earlier = none := by
  have scanned : firstFault [] (earlier ++ [s]) = s.fault? earlier := by
    rw [firstFault_append (firstFault_nil_eq_none_iff.mpr h), List.nil_append, firstFault]
    cases s.fault? earlier <;> rfl
  rw [← firstFault_nil_eq_none_iff, scanned]

/-- What agrees agrees from the beginning. -/
theorem Agree.of_append {before after : List Screen} (h : Agree (before ++ after)) :
    Agree before := by
  rw [← firstFault_nil_eq_none_iff] at h ⊢
  cases hb : firstFault [] before with
  | none => rfl
  | some fault =>
    obtain ⟨first, s, rest, rfl, hfirst, hs⟩ := firstFault_eq_some_iff.mp hb
    have : firstFault [] (first ++ s :: rest ++ after) = some fault :=
      firstFault_eq_some_iff.mpr ⟨first, s, rest ++ after, by simp, hfirst, hs⟩
    rw [this] at h
    cases h

/-! ## The fault of one screen -/

/-- The fault of a screen behind the screens `earlier`. What is in use is in use by one of them. -/
inductive Screen.Breaks (earlier : List Screen) (s : Screen) : Fault → Prop
  /-- The name is blank. -/
  | blankName (blank : isBlank s.name = true) : Breaks earlier s (.missingScreenName s.id)
  /-- The name is in use. -/
  | usedName {first : Screen} (named : isBlank s.name = false)
      (used : earlier.filter (·.name == s.name) = [first]) :
      Breaks earlier s (.duplicateScreenName s.name first.id s.id)
  /-- The name is fine, but the trigger has nothing to apply its action to. -/
  | blankReaction {t : QuestTrigger} (named : isBlank s.name = false)
      (new : ∀ e ∈ earlier, e.name ≠ s.name) (triggered : s.trigger = some t)
      (blank : isBlank t.reaction = true) : Breaks earlier s (.missingReaction s.name t.action)
  /-- Name and trigger are fine, but the identifier is in use. -/
  | usedId {first : Screen} (named : isBlank s.name = false)
      (new : ∀ e ∈ earlier, e.name ≠ s.name)
      (reacting : ∀ t ∈ s.trigger, isBlank t.reaction = false)
      (used : earlier.filter (·.id == s.id) = [first]) :
      Breaks earlier s (.duplicateScreenId s.id first.name s.name)

/-- Where images are distinct, a scan finds the only member with an image. -/
theorem find?_eq_some_iff_filter {α β : Type} [BEq β] [LawfulBEq β] {f : α → β} {as : List α}
    (h : (as.map f).Nodup) {a : α} {b : β} :
    as.find? (f · == b) = some a ↔ as.filter (f · == b) = [a] := by
  constructor
  · intro found
    have ha : a ∈ as := List.mem_of_find?_eq_some found
    have same : (f a == b) = true := List.find?_some (p := (f · == b)) found
    obtain rfl : f a = b := eq_of_beq same
    exact filter_eq_singleton h ha
  · intro only
    rw [← List.head?_filter, only]
    rfl

theorem QuestTrigger.fault?_eq_some_iff {screen : String} {t : QuestTrigger} {fault : Fault} :
    t.fault? screen = some fault ↔
      isBlank t.reaction = true ∧ .missingReaction screen t.action = fault := by
  simp [QuestTrigger.fault?]

theorem Screen.breaks_of_fault?_eq {earlier : List Screen} (h : Agree earlier) {s : Screen}
    {fault : Fault} (hf : s.fault? earlier = some fault) : s.Breaks earlier fault := by
  unfold Screen.fault? at hf
  by_cases blank : isBlank s.name = true
  · rw [if_pos blank] at hf
    obtain rfl := Option.some.inj hf
    exact .blankName blank
  have named : isBlank s.name = false := by simpa using blank
  rw [if_neg blank] at hf
  cases hn : earlier.find? (·.name == s.name) with
  | some first =>
    obtain rfl : _ = fault := by simpa [hn] using hf
    exact .usedName named ((find?_eq_some_iff_filter h.names_nodup).mp hn)
  | none =>
    have new : ∀ e ∈ earlier, e.name ≠ s.name := by simpa using hn
    cases ht : s.trigger.bind (·.fault? s.name) with
    | some found =>
      obtain rfl : found = fault := by simpa [hn, ht] using hf
      obtain ⟨t, triggered, hfault⟩ := Option.bind_eq_some_iff.mp ht
      obtain ⟨blank, rfl⟩ := QuestTrigger.fault?_eq_some_iff.mp hfault
      exact .blankReaction named new triggered blank
    | none =>
      have reacting : ∀ t ∈ s.trigger, isBlank t.reaction = false := fun t triggered =>
        QuestTrigger.fault?_eq_none_iff.mp (Option.bind_eq_none_iff.mp ht t triggered)
      cases hi : earlier.find? (·.id == s.id) with
      | some first =>
        obtain rfl : _ = fault := by simpa [hn, ht, hi] using hf
        exact .usedId named new reacting ((find?_eq_some_iff_filter h.ids_nodup).mp hi)
      | none => simp [hn, ht, hi] at hf

theorem Screen.Breaks.fault?_eq {earlier : List Screen} (h : Agree earlier) {s : Screen}
    {fault : Fault} (hb : s.Breaks earlier fault) : s.fault? earlier = some fault := by
  have unused (new : ∀ e ∈ earlier, e.name ≠ s.name) : earlier.find? (·.name == s.name) = none := by
    simpa using new
  cases hb with
  | blankName blank => simp [Screen.fault?, blank]
  | usedName named used =>
    have hn := (find?_eq_some_iff_filter h.names_nodup).mpr used
    simp [Screen.fault?, named, hn]
  | blankReaction named new triggered blank =>
    simp [Screen.fault?, named, unused new, triggered, QuestTrigger.fault?, blank]
  | usedId named new reacting used =>
    have ht : s.trigger.bind (·.fault? s.name) = none :=
      Option.bind_eq_none_iff.mpr fun t triggered =>
        QuestTrigger.fault?_eq_none_iff.mpr (reacting t triggered)
    have hi := (find?_eq_some_iff_filter h.ids_nodup).mpr used
    simp [Screen.fault?, named, unused new, ht, hi]

/-- **Behind screens that agree, a screen has the fault that it breaks with.** -/
theorem Screen.fault?_eq_some_iff {earlier : List Screen} (h : Agree earlier) {s : Screen}
    {fault : Fault} : s.fault? earlier = some fault ↔ s.Breaks earlier fault :=
  ⟨Screen.breaks_of_fault?_eq h, Screen.Breaks.fault?_eq h⟩

/-! ## The fault of a draft -/

/-- The fault of a draft: that of its name, of having no screens, or of the screen that ends the
shortest beginning of its screens that does not agree. -/
inductive Draft.Faulty (d : Draft) : Fault → Prop
  /-- The name is blank. -/
  | missingName (blank : isBlank d.name = true) : Faulty d .missingName
  /-- The name is fine, but there is no screen. -/
  | noScreens (named : isBlank d.name = false) (empty : d.screens = []) :
    Faulty d (.noScreens d.name)
  /-- The name is fine, and the screens up to the one at `p` are the shortest beginning that does
  not agree. -/
  | screen {p : Nat} {fault : Fault} (named : isBlank d.name = false) (hp : p < d.screens.length)
      (shorter : ∀ q < p, Agree (d.screens.take (q + 1)))
      (shortest : ¬ Agree (d.screens.take (p + 1)))
      (breaks : d.screens[p].Breaks (d.screens.take p) fault) : Faulty d fault

/-- The screens in front of a position agree if each beginning up to there does. -/
theorem agree_take {screens : List Screen} {p : Nat}
    (h : ∀ q < p, Agree (screens.take (q + 1))) : Agree (screens.take p) := by
  cases p with
  | zero => exact firstFault_nil_eq_none_iff.mp rfl
  | succ q => exact h q (Nat.lt_succ_self q)

/-- **The scan of a list reports the fault of the shortest beginning that does not agree.** -/
theorem firstFault_nil_eq_some_iff {screens : List Screen} {fault : Fault} :
    firstFault [] screens = some fault ↔
      ∃ (p : Nat) (hp : p < screens.length), (∀ q < p, Agree (screens.take (q + 1))) ∧
        ¬ Agree (screens.take (p + 1)) ∧ screens[p].Breaks (screens.take p) fault := by
  rw [firstFault_eq_some_iff]
  constructor
  · rintro ⟨before, s, after, rfl, hbefore, hs⟩
    have agree : Agree before := firstFault_nil_eq_none_iff.mp hbefore
    have upTo : (before ++ s :: after).take (before.length + 1) = before ++ [s] :=
      List.take_length_add_append 1
    rw [List.nil_append] at hs
    refine ⟨before.length, by simp, fun q hq => ?_, ?_, ?_⟩
    · rw [List.take_append_of_le_length hq]
      rw [← List.take_append_drop (q + 1) before] at agree
      exact agree.of_append
    · rw [upTo, agree_append_singleton_iff agree, hs]
      simp
    · simpa using (Screen.fault?_eq_some_iff agree).mp hs
  · rintro ⟨p, hp, shorter, -, breaks⟩
    have agree : Agree (screens.take p) := agree_take shorter
    have parts : screens = screens.take p ++ screens[p] :: screens.drop (p + 1) := by
      rw [← List.drop_eq_getElem_cons hp, List.take_append_drop]
    exact ⟨_, _, _, parts, firstFault_nil_eq_none_iff.mpr agree,
      (Screen.fault?_eq_some_iff agree).mpr breaks⟩

theorem Draft.fault?_eq_some_iff {d : Draft} {fault : Fault} :
    d.fault? = some fault ↔ d.Faulty fault := by
  unfold Draft.fault?
  by_cases blank : isBlank d.name = true
  · rw [if_pos blank, Option.some.injEq]
    constructor
    · rintro rfl
      exact .missingName blank
    · intro h
      cases h with
      | missingName => rfl
      | noScreens named => simp [named] at blank
      | screen named => simp [named] at blank
  have named : isBlank d.name = false := by simpa using blank
  rw [if_neg blank]
  by_cases empty : d.screens = []
  · rw [if_pos (by simp [empty]), Option.some.injEq]
    constructor
    · rintro rfl
      exact .noScreens named empty
    · intro h
      cases h with
      | missingName blank => simp [named] at blank
      | noScreens => rfl
      | screen _ hp => simp [empty] at hp
  rw [if_neg (by simpa using empty), firstFault_nil_eq_some_iff]
  constructor
  · rintro ⟨p, hp, shorter, shortest, breaks⟩
    exact .screen named hp shorter shortest breaks
  · intro h
    cases h with
    | missingName blank => simp [named] at blank
    | noScreens _ none => exact absurd none empty
    | screen _ hp shorter shortest breaks => exact ⟨_, hp, shorter, shortest, breaks⟩

/-- The second screen has every fault but a blank name, and the first one's trigger is fine. -/
example :
    ({ name := "well"
       screens :=
        [{ id := ⟨4⟩, name := "rim", text := ""
           trigger := QuestTrigger.of? "hasRope" "rope" none none },
          { id := ⟨4⟩, name := "rim", text := ""
            trigger := QuestTrigger.of? "hasRope" " " none none }] } : Draft).fault? =
      some (.duplicateScreenName "rim" ⟨4⟩ ⟨4⟩) := by
  decide

/-- **Building succeeds on what agrees, and reports the earliest fault of everything else.** It
succeeds, with the parts of the draft, exactly if the name shows something and there are screens
that agree. Otherwise the fault is that of the name, of having no screens, or of the screen at the
first position up to which the screens do not agree. -/
theorem Draft.build_validates (d : Draft) :
    ((∃ t, d.build = .ok t) ↔ isBlank d.name = false ∧ d.screens ≠ [] ∧ Agree d.screens) ∧
      (∀ t, d.build = .ok t ↔ t.toDraft = d) ∧
      ∀ fault, d.build = .error fault ↔ d.Faulty fault := by
  refine ⟨?_, fun t => Draft.build_eq_ok_iff, fun fault => ?_⟩
  · rw [← Draft.wellFormed_iff]
    constructor
    · rintro ⟨t, ht⟩
      exact Draft.build_eq_ok_iff.mp ht ▸ t.wellFormed
    · intro h
      exact ⟨.ofDraft d h, Draft.build_eq_ok_iff.mpr rfl⟩
  · rw [Draft.build_eq_error_iff, Draft.fault?_eq_some_iff]

end Dialogue
