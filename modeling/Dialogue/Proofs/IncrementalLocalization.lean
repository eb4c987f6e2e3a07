import Dialogue.Proofs.FreshKeys
import Mathlib.Data.List.Forall2
import Mathlib.Logic.Relation

/-!
# Localizing a growing template

A template is localized, extended, and localized again, with one counter for the keys throughout. In
between its texts may be taken back from the table of the last localization, its references may be
rebased, and it may be built anew with another prefix and with more screens.

* `Line.Continues`, `Screen.Continues`, `Template.Continues`: nothing that was there is lost; texts
  stay, and so do keys once they have been given.
* `Session`: the current template, the counter, and the current table. `Session.Step` is one
  operation, and `Session.Run` any number of them.
* `Session.Inv`: every key of the template comes from the counter, none is given twice, and the table
  has no other text for any of them than the template.

Results:
* `Session.Step.continues`, `Session.Step.inv`: what one operation does.
* **`Session.run_keeps`**: what any run of operations does.
-/

namespace Dialogue

/-! ## Texts that go on -/

/-- A line that has the text of an earlier one, and the key of that if it had one. -/
structure Line.Continues (earlier l : Line) : Prop where
  /-- The text has not changed. -/
  text_eq : l.text = earlier.text
  /-- A key is kept. -/
  keyId?_eq : ∀ id, earlier.keyId? = some id → l.keyId? = some id

/-- A screen whose lines go on, one by one. -/
structure Screen.Continues (earlier s : Screen) : Prop where
  /-- It is the same screen. -/
  outline_eq : s.outline = earlier.outline
  /-- Each line goes on, in its place. -/
  lines : List.Forall₂ Line.Continues earlier.lines s.lines

/-- A template that still has the screens of an earlier one, in their places. -/
def Template.Continues (earlier t : Template) : Prop :=
  ∀ (i : Nat) (s : Screen), earlier.screens[i]? = some s →
    ∃ r, t.screens[i]? = some r ∧ s.Continues r

theorem Line.Continues.refl (l : Line) : l.Continues l := ⟨rfl, fun _ h => h⟩

theorem Line.Continues.trans {k l m : Line} (hl : k.Continues l) (hm : l.Continues m) :
    k.Continues m :=
  ⟨hm.text_eq.trans hl.text_eq, fun id h => hm.keyId?_eq id (hl.keyId?_eq id h)⟩

theorem Screen.Continues.refl (s : Screen) : s.Continues s :=
  ⟨rfl, List.forall₂_same.mpr fun l _ => .refl l⟩

theorem forall₂_trans {α : Type} {R : α → α → Prop} (hR : ∀ a b c, R a b → R b c → R a c)
    {as bs cs : List α} (hb : List.Forall₂ R as bs) (hc : List.Forall₂ R bs cs) :
    List.Forall₂ R as cs := by
  induction hb generalizing cs with
  | nil =>
    cases hc
    exact .nil
  | cons hab _ ih =>
    cases hc with
    | cons hbc hc => exact .cons (hR _ _ _ hab hbc) (ih hc)

theorem Screen.Continues.trans {r s u : Screen} (hs : r.Continues s) (hu : s.Continues u) :
    r.Continues u :=
  ⟨hu.outline_eq.trans hs.outline_eq,
    forall₂_trans (fun _ _ _ hkl hlm => hkl.trans hlm) hs.lines hu.lines⟩

namespace Template.Continues

variable {s t u : Template}

theorem refl (t : Template) : t.Continues t := fun _ s h => ⟨s, h, .refl s⟩

theorem trans (ht : s.Continues t) (hu : t.Continues u) : s.Continues u := by
  intro i a ha
  obtain ⟨b, hb, hab⟩ := ht i a ha
  obtain ⟨c, hc, hbc⟩ := hu i b hb
  exact ⟨c, hc, hab.trans hbc⟩

theorem of_forall₂ (h : List.Forall₂ Screen.Continues s.screens t.screens) : s.Continues t := by
  intro i a ha
  obtain ⟨hlen, hall⟩ := List.forall₂_iff_get.mp h
  obtain ⟨hi, rfl⟩ := List.getElem?_eq_some_iff.mp ha
  exact ⟨t.screens[i], List.getElem?_eq_getElem (hlen ▸ hi), hall i hi (hlen ▸ hi)⟩

theorem of_append {added : List Screen} (h : t.screens = s.screens ++ added) : s.Continues t := by
  intro i a ha
  obtain ⟨hi, -⟩ := List.getElem?_eq_some_iff.mp ha
  refine ⟨a, ?_, .refl a⟩
  rw [h, List.getElem?_append_left hi, ha]

end Template.Continues

/-! ## Lines -/

section

variable {keyPrefix template : String}

theorem colon_not_mem_append (hp : ':' ∉ keyPrefix.toList) (ht : ':' ∉ template.toList) :
    ':' ∉ (keyPrefix ++ template).toList := by
  rw [String.toList_append, List.mem_append]
  rintro (h | h)
  · exact hp h
  · exact ht h

theorem Line.keyId?_eq_none {l : Line} (h : l.key = none) : l.keyId? = none := by
  unfold Line.keyId?
  rw [h]
  rfl

theorem Line.continues_localize (colon : ':' ∉ (keyPrefix ++ template).toList)
    (keys : SequentialKeys) (l : Line) :
    l.Continues (l.localize keyPrefix template keys).1.1 := by
  refine ⟨rfl, fun id h => ?_⟩
  rw [Line.localize_of_some h]
  exact Line.keyId?_of_key_eq colon (Line.isKeyId_of_keyId? h) rfl

end

/-! ## Templates -/

theorem Screen.continues_mapLines {f : Line → Line} {s : Screen}
    (h : ∀ l ∈ s.lines, l.Continues (f l)) : s.Continues (s.mapLines f) := by
  refine ⟨rfl, ?_⟩
  rw [Screen.lines_mapLines, List.forall₂_map_right_iff]
  exact List.forall₂_same.mpr h

theorem forall₂_mapAccum {σ α β : Type} {R : α → β → Prop} {f : σ → α → β × σ}
    (h : ∀ state a, R a (f state a).1) (state : σ) (as : List α) :
    List.Forall₂ R as (mapAccum f state as).1 := by
  induction as generalizing state with
  | nil => exact .nil
  | cons a as ih => exact .cons (h state a) (ih (f state a).2)

theorem Screen.continues_mapAccumLines {σ β : Type} {f : σ → Line → (Line × β) × σ}
    (h : ∀ (state : σ) (l : Line), l.Continues (f state l).1.1) (state : σ) (s : Screen) :
    s.Continues (s.mapAccumLines f state).1.1 := by
  refine ⟨rfl, ?_⟩
  rw [Screen.lines_mapAccumLines, List.forall₂_map_right_iff]
  exact forall₂_mapAccum h state s.lines

namespace Template

variable {t : Template}

theorem continues_localize (colon : ':' ∉ (t.keyPrefix ++ t.name).toList)
    (keys : SequentialKeys) : t.Continues (t.localize keys).1.1 := by
  have screen : ∀ (state : SequentialKeys) (s : Screen),
      s.Continues (s.mapAccumLines (Line.localize t.keyPrefix t.name) state).1.1 :=
    Screen.continues_mapAccumLines fun state l => l.continues_localize colon state
  refine .of_forall₂ (List.forall₂_map_right_iff.mpr ?_)
  exact forall₂_mapAccum screen keys t.screens

theorem continues_of_mapLines {u : Template} {f : Line → Line}
    (hu : u.screens = t.screens.map (·.mapLines f)) (h : ∀ l ∈ t.lines, l.Continues (f l)) :
    t.Continues u := by
  refine .of_forall₂ ?_
  rw [hu, List.forall₂_map_right_iff]
  exact List.forall₂_same.mpr fun s hs =>
    Screen.continues_mapLines fun l hl => h l (Draft.mem_lines hs hl)

/-- The references of a localized template have the keys of its table. -/
theorem keyIds_localize {σ : Type} [KeyGenerator σ] {keys : σ}
    (colon : ':' ∉ (t.keyPrefix ++ t.name).toList) (proper : KeyGenerator.Proper keys) :
    (t.localize keys).1.1.keyIds = (t.localize keys).1.2.rows.map (·.key) := by
  unfold keyIds
  rw [lines_localize, rows_localize, List.filterMap_map, List.map_map, ← List.filterMap_eq_map]
  exact List.filterMap_congr fun p hp => keyId?_eq_of_mem_localizedLines colon proper hp

end Template

/-! ## Building anew -/

/-- A screen none of whose texts has a reference. -/
def Screen.Unreferenced (s : Screen) : Prop := ∀ l ∈ s.lines, l.key = none

/-- A setting that brings neither a colon into the prefix nor references along. -/
def Edit.Extends : Edit → Prop
  | .id _ | .localized _ | .initialScreen _ => True
  | .keyPrefix p => ':' ∉ p.toList
  | .screen s => s.Unreferenced
  | .screens ss => ∀ s ∈ ss, s.Unreferenced

/-- A draft with more screens than an earlier one, none of whose texts has a reference. -/
structure Draft.Extended (earlier d : Draft) : Prop where
  /-- The name is the same. -/
  name_eq : d.name = earlier.name
  /-- The prefix has no colon. -/
  colon_not_mem : ':' ∉ d.keyPrefix.toList
  /-- The earlier screens come first. -/
  screens : ∃ added, d.screens = earlier.screens ++ added ∧ ∀ s ∈ added, s.Unreferenced

theorem Draft.extended_edit {d : Draft} {e : Edit} (colon : ':' ∉ d.keyPrefix.toList)
    (h : e.Extends) : d.Extended (d.edit e) := by
  have same : ∃ added, d.screens = d.screens ++ added ∧ ∀ s ∈ added, s.Unreferenced :=
    ⟨[], (List.append_nil _).symm, fun _ hs => absurd hs List.not_mem_nil⟩
  cases e with
  | id | localized | initialScreen => exact ⟨rfl, colon, same⟩
  | keyPrefix keyPrefix => exact ⟨rfl, h, same⟩
  | screen s => exact ⟨rfl, colon, [s], rfl, fun r hr => List.mem_singleton.mp hr ▸ h⟩
  | screens ss => exact ⟨rfl, colon, ss, rfl, h⟩

theorem Draft.Extended.trans {c d e : Draft} (hd : c.Extended d) (he : d.Extended e) :
    c.Extended e := by
  obtain ⟨first, hfirst, unreferenced⟩ := hd.screens
  obtain ⟨second, hsecond, unreferenced'⟩ := he.screens
  refine ⟨he.name_eq.trans hd.name_eq, he.colon_not_mem, first ++ second, ?_, fun s hs => ?_⟩
  · rw [hsecond, hfirst, List.append_assoc]
  · rcases List.mem_append.mp hs with hs | hs
    · exact unreferenced s hs
    · exact unreferenced' s hs

theorem Draft.extended_editAll {d : Draft} {edits : List Edit} (colon : ':' ∉ d.keyPrefix.toList)
    (h : ∀ e ∈ edits, e.Extends) : d.Extended (d.editAll edits) := by
  induction edits generalizing d with
  | nil =>
    exact ⟨rfl, colon, [], (List.append_nil _).symm, fun _ hs => absurd hs List.not_mem_nil⟩
  | cons e edits ih =>
    have here := d.extended_edit colon (h e List.mem_cons_self)
    exact here.trans (ih here.colon_not_mem fun e he => h e (List.mem_cons_of_mem _ he))

/-! ## Sessions -/

/-- A template that is being worked on. -/
structure Session where
  /-- The current template. -/
  template : Template
  /-- The counter for keys. -/
  keys : SequentialKeys
  /-- The table of the last localization. -/
  table : StringTable

namespace Session

/-- The session after its template has been localized. -/
def localize (s : Session) : Session where
  template := (s.template.localize s.keys).1.1
  keys := (s.template.localize s.keys).2
  table := (s.template.localize s.keys).1.2

/-- One operation on the template of a session. -/
inductive Step : Session → Session → Prop
  /-- Each text gets a reference; the table is replaced. -/
  | localize (s : Session) : Step s s.localize
  /-- The texts are taken from the current table. -/
  | toLiteral (s : Session) : Step s { s with template := s.template.toLiteral s.table }
  /-- The references get another prefix. -/
  | rebase (s : Session) (keyPrefix : String) (colon : ':' ∉ keyPrefix.toList) :
    Step s { s with template := s.template.rebase keyPrefix }
  /-- The template is built anew, with another prefix and with more screens. -/
  | rebuild (s : Session) {t : Template} (edits : List Edit) (h : ∀ e ∈ edits, e.Extends)
    (built : (s.template.toDraft.editAll edits).build = .ok t) : Step s { s with template := t }

/-- Any number of operations. -/
def Run : Session → Session → Prop := Relation.ReflTransGen Step

/-- No text has a reference yet, and those to come will have no colon in their file. -/
structure Untouched (s : Session) : Prop where
  /-- The name has no colon. -/
  name : ':' ∉ s.template.name.toList
  /-- The prefix has no colon. -/
  keyPrefix : ':' ∉ s.template.keyPrefix.toList
  /-- There are no references. -/
  key_eq_none : ∀ l ∈ s.template.lines, l.key = none

/-- What every operation keeps. -/
structure Inv (s : Session) : Prop where
  /-- The name has no colon. -/
  name : ':' ∉ s.template.name.toList
  /-- The prefix has no colon. -/
  keyPrefix : ':' ∉ s.template.keyPrefix.toList
  /-- Each key has been drawn from the counter. -/
  drawn : ∀ id ∈ s.template.keyIds, ∃ n ≤ s.keys.last, id = sequentialKey n
  /-- No key has been given twice. -/
  nodup : s.template.keyIds.Nodup
  /-- Under the key of a text, the table has no other text. -/
  agrees : ∀ l ∈ s.template.lines, ∀ r ∈ s.table.rows, l.keyId? = some r.key → r.value = l.text

theorem Untouched.inv {s : Session} (h : s.Untouched) : s.Inv := by
  have unkeyed : ∀ l ∈ s.template.lines, l.keyId? = none :=
    fun l hl => Line.keyId?_eq_none (h.key_eq_none l hl)
  have keyIds : s.template.keyIds = [] := List.filterMap_eq_nil_iff.mpr unkeyed
  refine ⟨h.name, h.keyPrefix, ?_, ?_, fun l hl r _ hk => ?_⟩
  · rw [keyIds]
    exact fun _ hid => absurd hid List.not_mem_nil
  · rw [keyIds]
    exact List.nodup_nil
  · rw [unkeyed l hl] at hk
    cases hk

namespace Inv

variable {s : Session}

theorem colon_not_mem (h : s.Inv) : ':' ∉ (s.template.keyPrefix ++ s.template.name).toList :=
  colon_not_mem_append h.keyPrefix h.name

/-- The counter will not hand out a key that is already in use. -/
theorem not_mem_keyIds (h : s.Inv) {n : Nat} (hn : s.keys.last < n) :
    sequentialKey n ∉ s.template.keyIds := by
  intro hm
  obtain ⟨m, hle, he⟩ := h.drawn _ hm
  have : n = m := sequentialKey_injective he
  omega

/-- The table that localizing makes repeats no key. -/
theorem nodup_localize (h : s.Inv) : (s.localize.table.rows.map (·.key)).Nodup :=
  (s.template.nodup_keys_localize_iff s.keys).mpr
    ⟨h.nodup, fun _ hn _ => h.not_mem_keyIds hn⟩

/-- The invariant is about the keys and texts of the lines; texts without reference may be added. -/
theorem of_lines (h : s.Inv) {t : Template} {f : Line → Line} {added : List Line}
    (name : t.name = s.template.name) (keyPrefix : ':' ∉ t.keyPrefix.toList)
    (lines : t.lines = s.template.lines.map f ++ added)
    (keyId? : ∀ l ∈ s.template.lines, (f l).keyId? = l.keyId?)
    (text : ∀ l ∈ s.template.lines, (f l).text = l.text)
    (unreferenced : ∀ l ∈ added, l.key = none) : Inv { s with template := t } := by
  have unkeyed : ∀ l ∈ added, l.keyId? = none := fun l hl => Line.keyId?_eq_none (unreferenced l hl)
  have keyIds : t.keyIds = s.template.keyIds := by
    unfold Template.keyIds
    rw [lines, List.filterMap_append, List.filterMap_eq_nil_iff.mpr unkeyed, List.append_nil,
      List.filterMap_map]
    exact List.filterMap_congr keyId?
  refine ⟨name ▸ h.name, keyPrefix, keyIds ▸ h.drawn, keyIds ▸ h.nodup, fun l hl r hr hkey => ?_⟩
  rw [lines] at hl
  rcases List.mem_append.mp hl with hl | hl
  · obtain ⟨k, hk, rfl⟩ := List.mem_map.mp hl
    rw [text k hk]
    exact h.agrees k hk r hr (keyId? k hk ▸ hkey)
  · rw [unkeyed l hl] at hkey
    cases hkey

theorem localize (h : s.Inv) : s.localize.Inv := by
  have proper := s.keys.proper
  have keyIds : s.localize.template.keyIds = s.localize.table.rows.map (·.key) :=
    Template.keyIds_localize h.colon_not_mem proper
  refine ⟨h.name, h.keyPrefix, fun id hid => ?_, ?_,
    Template.value_eq_of_nodup h.colon_not_mem proper h.nodup_localize⟩
  · -- A key is kept or drawn, and the counter has moved on.
    have last : s.localize.keys.last = s.keys.last + s.template.unkeyed :=
      s.template.last_localize s.keys
    rw [keyIds] at hid
    rcases List.mem_append.mp ((s.template.keys_localize_perm s.keys).mem_iff.mp hid) with hid | hid
    · obtain ⟨n, hn, rfl⟩ := h.drawn id hid
      exact ⟨n, by omega, rfl⟩
    · obtain ⟨n, -, hn, rfl⟩ := SequentialKeys.mem_upcoming_iff.mp hid
      exact ⟨n, by omega, rfl⟩
  · rw [keyIds]
    exact h.nodup_localize

end Inv

/-! ## Operations -/

namespace Step

variable {s u : Session}

/-- An operation loses nothing. -/
theorem continues (h : Step s u) (hs : s.Inv) : s.template.Continues u.template := by
  cases h with
  | localize => exact Template.continues_localize hs.colon_not_mem s.keys
  | toLiteral =>
    refine Template.continues_of_mapLines (f := (·.toLiteral s.table)) rfl fun l hl => ?_
    rw [Line.toLiteral_eq_self (hs.agrees l hl)]
    exact .refl l
  | rebase keyPrefix colon =>
    have colon := colon_not_mem_append colon hs.name
    refine Template.continues_of_mapLines (f := (·.rebase keyPrefix s.template.name)) rfl
      fun l _ => ⟨l.text_rebase, fun id hid => ?_⟩
    rw [l.keyId?_rebase colon, hid]
  | rebuild edits h built =>
    obtain ⟨added, screens, -⟩ := (Draft.extended_editAll hs.keyPrefix h).screens
    have draft := Draft.build_eq_ok_iff.mp built
    exact .of_append ((congrArg Draft.screens draft).trans screens)

/-- An operation keeps the invariant. -/
theorem inv (h : Step s u) (hs : s.Inv) : u.Inv := by
  cases h with
  | localize => exact hs.localize
  | toLiteral =>
    have self : ∀ l ∈ s.template.lines, l.toLiteral s.table = l :=
      fun l hl => Line.toLiteral_eq_self (hs.agrees l hl)
    have lines : (s.template.toLiteral s.table).lines =
        s.template.lines.map (·.toLiteral s.table) ++ [] := by
      rw [Template.lines_toLiteral, List.append_nil]
    refine hs.of_lines rfl hs.keyPrefix lines (fun l hl => ?_) (fun l hl => ?_)
      fun _ hl => absurd hl List.not_mem_nil
    · rw [self l hl]
    · rw [self l hl]
  | rebase keyPrefix colon =>
    have colon' := colon_not_mem_append colon hs.name
    have lines : (s.template.rebase keyPrefix).lines =
        s.template.lines.map (·.rebase keyPrefix s.template.name) ++ [] := by
      rw [Template.lines_rebase, List.append_nil]
    exact hs.of_lines rfl colon lines (fun l _ => l.keyId?_rebase colon')
      (fun l _ => l.text_rebase) fun _ hl => absurd hl List.not_mem_nil
  | @rebuild t edits h built =>
    obtain ⟨name, colon, added, screens, unreferenced⟩ := Draft.extended_editAll hs.keyPrefix h
    have draft : t.toDraft = s.template.editAll edits := Draft.build_eq_ok_iff.mp built
    have lines : t.lines = s.template.lines.map id ++ added.flatMap (·.lines) := by
      rw [draft, Draft.lines, screens, List.flatMap_append, List.map_id, Draft.lines]
    refine hs.of_lines ((congrArg Draft.name draft).trans name) (draft ▸ colon) lines
      (fun _ _ => rfl) (fun _ _ => rfl) fun l hl => ?_
    obtain ⟨r, hr, hl⟩ := List.mem_flatMap.mp hl
    exact unreferenced r hr l hl

end Step

namespace Run

variable {s u : Session}

theorem inv (h : Run s u) (hs : s.Inv) : u.Inv := by
  induction h with
  | refl => exact hs
  | tail _ step ih => exact step.inv ih

theorem continues (h : Run s u) (hs : s.Inv) : s.template.Continues u.template := by
  induction h with
  | refl => exact .refl s.template
  | tail run step ih => exact ih.trans (step.continues (Run.inv run hs))

end Run

/-- **A run that starts without references never loses a text or confuses two.** From any point of
the run to any later one, all texts stay and each key that has been given stays with its text. At
every point no key of the template repeats; and localizing there makes a table that repeats none and
has the keys of the template, and gives the texts that had no key the next ones of the counter, one
each. -/
theorem run_keeps {s r u : Session} (start : s.Untouched) (hr : s.Run r) (hu : r.Run u) :
    r.template.Continues u.template ∧
      u.template.keyIds.Nodup ∧
      (u.localize.table.rows.map (·.key)).Nodup ∧
      u.localize.template.keyIds = u.localize.table.rows.map (·.key) ∧
      u.localize.keys.last = u.keys.last + u.template.unkeyed ∧
      ((u.template.lines.zip u.localize.table.rows).filter (·.1.keyId?.isNone)).map (·.2.key) =
        u.keys.upcoming u.template.unkeyed := by
  have hr := hr.inv start.inv
  have inv := hu.inv hr
  exact ⟨hu.continues hr, inv.nodup, inv.nodup_localize,
    Template.keyIds_localize inv.colon_not_mem u.keys.proper, u.template.last_localize u.keys,
    u.template.given_localize u.keys⟩

/-- An inn with one screen and no references. -/
def inn : Session where
  template := .ofDraft
    { name := "inn"
      screens :=
        [{ id := ⟨1⟩, name := "door", text := "Come in."
           choices := [{ text := "Thanks.", target := some ⟨2⟩ }] }] }
    (by decide)
  keys := ⟨0⟩
  table := ⟨[]⟩

/-- The cellar that the inn gets later. -/
def innExtension : List Edit :=
  [.keyPrefix "@tavern/", .screen { id := ⟨2⟩, name := "cellar", text := "Dark." }]

/-- The inn with its cellar, after its first texts have got their keys. -/
def extendedInn : Session where
  template := .ofDraft (inn.localize.template.toDraft.editAll innExtension) (by decide)
  keys := inn.localize.keys
  table := inn.localize.table

/-- The first texts keep their keys when the cellar has got its own. -/
theorem run_keeps_inn :
    inn.Untouched ∧ inn.Run inn.localize ∧ inn.localize.Run extendedInn.localize ∧
      inn.localize.template.keyIds = ["s_00000001", "s_00000002"] ∧
      extendedInn.localize.template.keyIds = ["s_00000001", "s_00000002", "s_00000003"] ∧
      inn.localize.template.Continues extendedInn.localize.template ∧
      extendedInn.localize.template.keyIds.Nodup := by
  have start : inn.Untouched := ⟨by decide, by decide, by decide⟩
  have first : inn.Run inn.localize := .single (.localize inn)
  have extends' : ∀ e ∈ innExtension, e.Extends := by
    intro e he
    rcases List.mem_cons.mp he with rfl | he
    · show ':' ∉ "@tavern/".toList
      decide
    · obtain rfl := List.mem_singleton.mp he
      intro l hl
      obtain rfl := List.mem_singleton.mp hl
      rfl
  have built : (inn.localize.template.toDraft.editAll innExtension).build =
      .ok extendedInn.template := Draft.build_eq_ok_iff.mpr rfl
  have rest : inn.localize.Run extendedInn.localize :=
    .tail (.single (.rebuild inn.localize innExtension extends' built)) (.localize extendedInn)
  obtain ⟨continues, nodup, -⟩ := run_keeps start first rest
  exact ⟨start, first, rest, by rfl, by rfl, continues, nodup⟩

end Session

end Dialogue
