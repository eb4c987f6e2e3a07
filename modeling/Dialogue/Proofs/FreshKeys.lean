import Dialogue.Proofs.LocalizedRows
import Dialogue.Proofs.Reachable

/-!
# When fresh keys are fresh

Localizing a template keeps the keys that its references have and draws one from a counter for each
other text. The counter does not look at the template: it is up to the caller to let it continue
where an earlier table ended.

* `Template.keyIds`: the keys that the references of a template have.
* `Template.unkeyed`: how many texts are left without one.
* `SequentialKeys.upcoming`: the keys that a counter hands out next.

Results:
* `Template.state_localize`, `Template.last_localize`: one key is drawn for each text without one.
* `Template.given_localize`: they are given in the order of the texts.
* `Template.keys_localize_perm`: the keys of the table are the kept ones and the drawn ones.
* `Template.values_localize`: its texts are those of the template.
* `Template.nodup_keys_localize_iff`: no key repeats exactly if no kept key does and the counter
  meets none of them, wherever it stands.
* **`Template.nodup_localize_iff`**: so for a new counter, and then each text has a row of its own.
-/

namespace Dialogue

/-! ## Drawing keys -/

namespace SequentialKeys

/-- The keys that are handed out next. -/
def upcoming (keys : SequentialKeys) (count : Nat) : List String :=
  (List.range' (keys.last + 1) count).map sequentialKey

theorem last_after (keys : SequentialKeys) (draws : Nat) :
    (KeyGenerator.after keys draws).last = keys.last + draws := by
  induction draws generalizing keys with
  | zero => rfl
  | succ draws ih =>
    have step : (KeyGenerator.next keys).2.last = keys.last + 1 := rfl
    rw [KeyGenerator.after, ih, step]
    omega

variable {keys : SequentialKeys} {count : Nat}

theorem upcoming_succ : keys.upcoming (count + 1) =
    sequentialKey (keys.last + 1) :: upcoming ⟨keys.last + 1⟩ count := by
  rw [upcoming, List.range'_succ, List.map_cons]
  rfl

theorem mem_upcoming_iff {key : String} :
    key ∈ keys.upcoming count ↔
      ∃ n, keys.last < n ∧ n ≤ keys.last + count ∧ key = sequentialKey n := by
  rw [upcoming, List.mem_map]
  refine exists_congr fun n => ?_
  rw [List.mem_range'_1, and_assoc, eq_comm]
  refine and_congr (by omega) (and_congr (by omega) Iff.rfl)

/-- Keys that are handed out in one go do not repeat. -/
theorem nodup_upcoming (keys : SequentialKeys) (count : Nat) : (keys.upcoming count).Nodup :=
  List.pairwise_map.mpr ((List.nodup_range' 1).imp fun hne he => hne (sequentialKey_injective he))

end SequentialKeys

section

variable {σ : Type} [KeyGenerator σ] {keyPrefix template : String} {keys : σ} {l : Line}

/-- A line with a key keeps it, and nothing is drawn. -/
theorem Line.localize_of_some {id : String} (h : l.keyId? = some id) :
    l.localize keyPrefix template keys =
      (({ l with key := some (KeyReference.format keyPrefix template id) }, ⟨id, l.text⟩), keys) := by
  rw [Line.localize, Line.keyIdOr, h]

/-- A line without a key gets the next one. -/
theorem Line.localize_of_none (h : l.keyId? = none) :
    l.localize keyPrefix template keys =
      (({ l with key := some (KeyReference.format keyPrefix template (KeyGenerator.next keys).1) },
        ⟨(KeyGenerator.next keys).1, l.text⟩), (KeyGenerator.next keys).2) := by
  rw [Line.localize, Line.keyIdOr, h]

/-- One key is drawn for each line without one, whatever they are drawn from. -/
theorem state_mapAccum_localize (ls : List Line) :
    (mapAccum (Line.localize keyPrefix template) keys ls).2 =
      KeyGenerator.after keys (ls.countP (·.keyId?.isNone)) := by
  induction ls generalizing keys with
  | nil => rfl
  | cons l ls ih =>
    rw [mapAccum, ih]
    cases h : l.keyId? with
    | none =>
      rw [Line.localize_of_none h, List.countP_cons_of_pos (by rw [h]; rfl), KeyGenerator.after]
    | some id => rw [Line.localize_of_some h, List.countP_cons_of_neg (by simp [h])]

end

section

variable {keyPrefix template : String} {keys : SequentialKeys}

/-- Up to their order, the keys of the rows are those that were kept, and the next ones of the
counter. -/
theorem keys_mapAccum_localize_perm (ls : List Line) :
    ((mapAccum (Line.localize keyPrefix template) keys ls).1.map (·.2.key)).Perm
      (ls.filterMap Line.keyId? ++ keys.upcoming (ls.countP (·.keyId?.isNone))) := by
  induction ls generalizing keys with
  | nil => exact .refl _
  | cons l ls ih =>
    rw [mapAccum, List.map_cons]
    cases h : l.keyId? with
    | none =>
      rw [Line.localize_of_none h, List.filterMap_cons_none h,
        List.countP_cons_of_pos (by rw [h]; rfl), SequentialKeys.upcoming_succ]
      exact (ih.cons _).trans List.perm_middle.symm
    | some id =>
      rw [Line.localize_of_some h, List.filterMap_cons_some h,
        List.countP_cons_of_neg (by simp [h]), List.cons_append]
      exact ih.cons id

/-- The lines without a key get the next keys of the counter, in order. -/
theorem given_mapAccum_localize (ls : List Line) :
    ((ls.zip ((mapAccum (Line.localize keyPrefix template) keys ls).1.map (·.2))).filter
        (·.1.keyId?.isNone)).map (·.2.key) =
      keys.upcoming (ls.countP (·.keyId?.isNone)) := by
  induction ls generalizing keys with
  | nil => rfl
  | cons l ls ih =>
    rw [mapAccum, List.map_cons, List.zip_cons_cons]
    cases h : l.keyId? with
    | none =>
      rw [List.filter_cons_of_pos (by simp [h]), List.countP_cons_of_pos (by simp [h]),
        Line.localize_of_none h, SequentialKeys.upcoming_succ, List.map_cons, ih]
      rfl
    | some id =>
      rw [List.filter_cons_of_neg (by simp [h]), List.countP_cons_of_neg (by simp [h]),
        Line.localize_of_some h, ih]

end

/-! ## Tables without repeated keys -/

/-- If no key repeats, each row is found under its key. -/
theorem StringTable.get?_of_nodup {table : StringTable} {r : Row}
    (h : (table.rows.map (·.key)).Nodup) (hr : r ∈ table.rows) :
    table.get? r.key = some r.value := by
  have found : (table.rows.reverse.find? (·.key == r.key)).isSome := by
    rw [List.find?_isSome]
    exact ⟨r, List.mem_reverse.mpr hr, beq_self_eq_true r.key⟩
  obtain ⟨s, hs⟩ := Option.isSome_iff_exists.mp found
  have hm : s ∈ table.rows := List.mem_reverse.mp (List.mem_of_find?_eq_some hs)
  have hk : s.key = r.key := by simpa using List.find?_some hs
  rw [get?, hs, eq_of_nodup_map h hm hr hk]
  rfl

/-- A line whose text the table has, or knows nothing of, stays as it is. -/
theorem Line.toLiteral_eq_self {table : StringTable} {l : Line}
    (h : ∀ r ∈ table.rows, l.keyId? = some r.key → r.value = l.text) : l.toLiteral table = l := by
  rw [Line.toLiteral_eq, Line.translate]
  split
  · rename_i text ht
    obtain ⟨hg, -⟩ := Option.filter_eq_some_iff.mp ht
    obtain ⟨id, hid, hg⟩ := Option.bind_eq_some_iff.mp hg
    obtain ⟨before, after, hrows, -⟩ := StringTable.get?_eq_some_iff.mp hg
    have hr : ⟨id, text⟩ ∈ table.rows := by
      rw [hrows]
      exact List.mem_append_cons_self
    have he : text = l.text := h _ hr hid
    rw [he]
  · rfl

/-- If no key of its table repeats, a localized template has the text of each row that its references
name. -/
theorem Template.value_eq_of_nodup {σ : Type} [KeyGenerator σ] {t : Template} {keys : σ}
    (colon : ':' ∉ (t.keyPrefix ++ t.name).toList) (proper : KeyGenerator.Proper keys)
    (nodup : ((t.localize keys).1.2.rows.map (·.key)).Nodup) :
    ∀ l ∈ (t.localize keys).1.1.lines, ∀ r ∈ (t.localize keys).1.2.rows,
      l.keyId? = some r.key → r.value = l.text := by
  intro l hl r hr hkey
  obtain ⟨p, hp, rfl⟩ := exists_of_mem_lines_localize hl
  rw [keyId?_eq_of_mem_localizedLines colon proper hp] at hkey
  have same : p.2 = r := eq_of_nodup_map nodup (mem_rows_localize hp) hr (Option.some.inj hkey)
  rw [← same, (of_mem_localizedLines hp).2]

/-! ## Templates -/

namespace Template

/-- The keys that the references of a template have, in the order of its lines. -/
def keyIds (t : Template) : List String := t.lines.filterMap Line.keyId?

/-- How many lines have no reference that can be read. -/
def unkeyed (t : Template) : Nat := t.lines.countP (·.keyId?.isNone)

/-- One key is drawn for each text that has none, whatever the generator. -/
theorem state_localize {σ : Type} [KeyGenerator σ] (t : Template) (keys : σ) :
    (t.localize keys).2 = KeyGenerator.after keys t.unkeyed :=
  (Arena.state_mapAccumLines (Line.localize t.keyPrefix t.name) keys t.toArena).trans
    (state_mapAccum_localize t.lines)

variable (t : Template) (keys : SequentialKeys)

/-- So a counter advances by as many. -/
theorem last_localize : (t.localize keys).2.last = keys.last + t.unkeyed := by
  rw [state_localize, SequentialKeys.last_after]

theorem keys_localize_perm :
    ((t.localize keys).1.2.rows.map (·.key)).Perm (t.keyIds ++ keys.upcoming t.unkeyed) := by
  rw [rows_localize, List.map_map]
  exact keys_mapAccum_localize_perm t.lines

/-- The texts without a key get the next keys of the counter, in order. -/
theorem given_localize :
    ((t.lines.zip (t.localize keys).1.2.rows).filter (·.1.keyId?.isNone)).map (·.2.key) =
      keys.upcoming t.unkeyed := by
  rw [rows_localize]
  exact given_mapAccum_localize t.lines

/-- The table has the texts of the template, in the order of its lines. -/
theorem values_localize :
    (t.localize keys).1.2.rows.map (·.value) = t.lines.map (·.text) := by
  rw [rows_localize, List.map_map]
  exact map_mapAccum (h := Line.text) (fun _ _ => rfl) keys t.lines

/-- The keys of the table do not repeat exactly if the kept ones do not and are none of those that
the counter hands out. -/
theorem nodup_keys_localize_iff :
    ((t.localize keys).1.2.rows.map (·.key)).Nodup ↔
      t.keyIds.Nodup ∧
        ∀ n, keys.last < n → n ≤ keys.last + t.unkeyed → sequentialKey n ∉ t.keyIds := by
  rw [(t.keys_localize_perm keys).nodup_iff, List.nodup_append]
  refine and_congr_right fun _ => ?_
  constructor
  · rintro ⟨-, apart⟩ n hlow hhigh hm
    exact apart _ hm _ (SequentialKeys.mem_upcoming_iff.mpr ⟨n, hlow, hhigh, rfl⟩) rfl
  · refine fun apart => ⟨keys.nodup_upcoming t.unkeyed, fun kept hk drawn hd he => ?_⟩
    obtain ⟨n, hlow, hhigh, rfl⟩ := SequentialKeys.mem_upcoming_iff.mp hd
    exact apart n hlow hhigh (he ▸ hk)

/-- **The table of a template that is localized with a new counter has the template's texts. Its
keys do not repeat exactly if those that the template had do not, and none of them is one of the
first that the counter hands out, as many as there are texts without a key. Then each text is found
under its own key.** -/
theorem nodup_localize_iff :
    (t.localize (⟨0⟩ : SequentialKeys)).1.2.rows.map (·.value) = t.lines.map (·.text) ∧
      (((t.localize (⟨0⟩ : SequentialKeys)).1.2.rows.map (·.key)).Nodup ↔
        t.keyIds.Nodup ∧ ∀ n, 0 < n → n ≤ t.unkeyed → sequentialKey n ∉ t.keyIds) ∧
      (((t.localize (⟨0⟩ : SequentialKeys)).1.2.rows.map (·.key)).Nodup →
        ∀ r ∈ (t.localize (⟨0⟩ : SequentialKeys)).1.2.rows,
          (t.localize (⟨0⟩ : SequentialKeys)).1.2.get? r.key = some r.value) := by
  have keys := t.nodup_keys_localize_iff ⟨0⟩
  rw [Nat.zero_add] at keys
  exact ⟨t.values_localize ⟨0⟩, keys, fun distinct _ => StringTable.get?_of_nodup distinct⟩

/-- A cellar to which the first text was added when the second already had the key `s_00000001`. -/
def extendedCellar : Template :=
  .ofDraft
    { name := "cellar"
      screens :=
        [{ id := ⟨1⟩, name := "stairs", text := "It is dark."
           choices := [{ text := "Light a candle."
                         key := some "@conversation/cellar:s_00000001" }] }] }
    (by decide)

/-- Its one key does not repeat, but a new counter hands it out again. -/
theorem not_nodup_localize_extendedCellar :
    Arena.Reachable extendedCellar.toArena ∧ extendedCellar.keyIds.Nodup ∧
      ¬ ((extendedCellar.localize (⟨0⟩ : SequentialKeys)).1.2.rows.map (·.key)).Nodup := by
  have made : (Draft.editAll { name := "cellar" } [.screen extendedCellar.screens[0]]).assemble =
      .ok extendedCellar.toArena := by rfl
  have kept : extendedCellar.keyIds = ["s_00000001"] := by rfl
  have keys : (extendedCellar.localize (⟨0⟩ : SequentialKeys)).1.2.rows.map (·.key) =
      ["s_00000001", "s_00000001"] := by rfl
  rw [kept, keys]
  exact ⟨.made (.drafted "cellar" _ made), by decide, by decide⟩

end Template

end Dialogue
