import Dialogue.Localization.Rows
import Mathlib.Data.List.Nodup

/-!
# The rows of the journal

Each screen that activates a task yields two rows, the title and the description of an entry in the
journal. Tasks are numbered by the screens that activate one, in the order in which those are
declared, and other screens do not count. A number is written with at least two digits, but no two
tasks share a key, however many there are.

* `Screen.activatesTask`, `Template.taskScreens`: the screens that activate a task.
* `taskKey`: the key of a row of a task.

Results:
* `getElem?_flatMap_of_length`: a list made of parts of one length, by part and place.
* `taskKey_injective`: a key tells the number and what stands behind it.
* `Template.nodup_keys_taskRows`: no two rows share a key.
* **`Template.taskRows_journal`**: how many rows there are, which stands where, and that their keys
  differ.
-/

namespace Dialogue

open Decimal

/-! ## Lists made of parts of one length -/

section

variable {α β : Type} {f : α → List β} {length : Nat} (h : ∀ a, (f a).length = length)
include h

theorem length_flatMap_of_length (as : List α) : (as.flatMap f).length = length * as.length := by
  simp [List.length_flatMap, h, Nat.mul_comm]

/-- The parts in front of one take up as many places as there are in them all. -/
theorem getElem?_flatMap_of_length {as : List α} {i : Nat} {a : α} (ha : as[i]? = some a)
    {place : Nat} (hplace : place < length) :
    (as.flatMap f)[length * i + place]? = (f a)[place]? := by
  induction as generalizing i with
  | nil => simp at ha
  | cons b as ih =>
    rw [List.flatMap_cons]
    cases i with
    | zero =>
      obtain rfl : b = a := by simpa using ha
      rw [Nat.mul_zero, Nat.zero_add, List.getElem?_append_left (by rw [h]; exact hplace)]
    | succ i =>
      have skipped : length * (i + 1) + place = length + (length * i + place) := by
        rw [Nat.mul_succ]
        omega
      rw [skipped, List.getElem?_append_right (by rw [h]; omega), h, Nat.add_sub_cancel_left]
      exact ih (by simpa using ha)

end

/-! ## Keys -/

/-- The key of a row of the task with the given number. -/
def taskKey (number : Nat) (part : String) : String :=
  "task" ++ paddedNumeral 2 number ++ ("_journal_entry_" ++ part)

/-- The number ends where the digits do, so it does not matter how many there are. -/
theorem taskKey_injective {m n : Nat} {p q : String} (h : taskKey m p = taskKey n q) :
    m = n ∧ p = q := by
  have unprefixed :
      paddedNumeral 2 m ++ ("_journal_entry_" ++ p) =
        paddedNumeral 2 n ++ ("_journal_entry_" ++ q) := by
    simpa [taskKey, String.append_assoc] using h
  have number : ∀ k part,
      (paddedNumeral 2 k ++ ("_journal_entry_" ++ part)).toList.takeWhile Char.isDigit =
        paddedDigits 2 k := by
    intro k part
    rw [String.toList_append, toList_paddedNumeral,
      List.takeWhile_append_of_pos fun _ hc => isDigit_of_mem_paddedDigits hc]
    simp
  have digits : paddedDigits 2 m = paddedDigits 2 n := by
    rw [← number m p, unprefixed, number n q]
  obtain rfl : m = n := paddedNumeral_injective (congrArg String.ofList digits)
  exact ⟨rfl, by simpa using unprefixed⟩

example : taskKey 7 "title" = "task07_journal_entry_title" := by decide

example : taskKey 123 "title" = "task123_journal_entry_title" := by decide

/-- The keys of the rows of the task with the given number. -/
def taskKeys (number : Nat) : List String := [taskKey number "title", taskKey number "description"]

theorem nodup_taskKeys (number : Nat) : (taskKeys number).Nodup := by
  have differ : taskKey number "title" ≠ taskKey number "description" := by
    intro same
    exact absurd (taskKey_injective same).2 (by decide)
  simp [taskKeys, differ]

theorem eq_of_mem_taskKeys {m n : Nat} {key : String} (hm : key ∈ taskKeys m)
    (hn : key ∈ taskKeys n) : m = n := by
  have part : ∀ k, key ∈ taskKeys k → ∃ part, key = taskKey k part := by
    intro k hk
    rcases List.mem_pair.mp hk with rfl | rfl
    · exact ⟨_, rfl⟩
    · exact ⟨_, rfl⟩
  obtain ⟨p, rfl⟩ := part m hm
  obtain ⟨q, same⟩ := part n hn
  exact (taskKey_injective same).1

theorem map_key_journalRows (trigger : QuestTrigger) (number : Nat) :
    (Template.journalRows trigger number).map (·.key) = taskKeys number := by
  simp [Template.journalRows, taskKeys, taskKey, String.append_assoc]

/-! ## Tasks -/

/-- The screen puts a task into the journal. -/
def Screen.activatesTask (s : Screen) : Bool :=
  s.trigger.any fun trigger => trigger.action == Template.taskAction

namespace Template

/-- The screens that put a task into the journal, in order. -/
def taskScreens (t : Template) : List Screen := t.screens.filter (·.activatesTask)

/-- The triggers that count are those of the screens that count. -/
theorem map_trigger_taskScreens (t : Template) :
    t.taskScreens.map (·.trigger) = t.taskTriggers.map some := by
  unfold taskScreens taskTriggers
  induction t.screens with
  | nil => rfl
  | cons s screens ih =>
    rw [List.filter_cons, List.filterMap_cons]
    cases htrigger : s.trigger with
    | none => simpa [Screen.activatesTask, htrigger] using ih
    | some trigger =>
      by_cases haction : trigger.action = taskAction
      · simpa [Screen.activatesTask, htrigger, haction] using ih
      · simpa [Screen.activatesTask, htrigger, haction] using ih

theorem length_taskTriggers (t : Template) : t.taskTriggers.length = t.taskScreens.length := by
  have lengths := congrArg List.length t.map_trigger_taskScreens
  rwa [List.length_map, List.length_map, eq_comm] at lengths

/-- The screen that counts at a position has the trigger that counts there. -/
theorem getElem?_taskTriggers {t : Template} {i : Nat} {s : Screen}
    (h : t.taskScreens[i]? = some s) :
    ∃ trigger, s.trigger = some trigger ∧ trigger.action = taskAction ∧
      t.taskTriggers[i]? = some trigger := by
  have same := congrArg (·[i]?) t.map_trigger_taskScreens
  simp only [List.getElem?_map, h, Option.map_some] at same
  obtain ⟨trigger, htrigger, found⟩ := Option.map_eq_some_iff.mp same.symm
  have counts := (List.mem_filter.mp (List.mem_of_getElem? htrigger)).2
  exact ⟨trigger, found.symm, eq_of_beq counts, htrigger⟩

/-! ## Rows -/

theorem length_journalRows (p : QuestTrigger × Nat) : (journalRows p.1 p.2).length = 2 := rfl

theorem length_taskRows (t : Template) : t.taskRows.length = 2 * t.taskScreens.length :=
  calc t.taskRows.length
    _ = 2 * t.taskTriggers.zipIdx.length := length_flatMap_of_length length_journalRows _
    _ = 2 * t.taskScreens.length := by rw [List.length_zipIdx, length_taskTriggers]

theorem getElem?_taskRows {t : Template} {i : Nat} {trigger : QuestTrigger}
    (h : t.taskTriggers[i]? = some trigger) {place : Nat} (hplace : place < 2) :
    t.taskRows[2 * i + place]? = (journalRows trigger i)[place]? := by
  have numbered : t.taskTriggers.zipIdx[i]? = some (trigger, i) := by simp [h]
  exact getElem?_flatMap_of_length length_journalRows numbered hplace

/-- The keys tell nothing but how many tasks there are. -/
theorem map_key_taskRows (t : Template) :
    t.taskRows.map (·.key) = (List.range t.taskScreens.length).flatMap taskKeys := by
  rw [taskRows, List.map_flatMap, List.range_eq_range', ← length_taskTriggers,
    ← List.zipIdx_map_snd 0 t.taskTriggers, List.flatMap_map]
  exact List.flatMap_congr fun p _ => map_key_journalRows p.1 p.2

theorem nodup_keys_taskRows (t : Template) : (t.taskRows.map (·.key)).Nodup := by
  rw [map_key_taskRows, List.nodup_flatMap]
  refine ⟨fun number _ => nodup_taskKeys number, List.nodup_range.imp fun differ key hm hn => ?_⟩
  exact differ (eq_of_mem_taskKeys hm hn)

/-- **Each task has a title and a description, and no two rows share a key.** A template has two
rows for each screen whose trigger activates a task, and no others. The title of a task is at twice
the position that its screen has among those screens, and the description behind it; what the
trigger leaves out is empty. The keys of all rows differ, however many tasks there are. -/
theorem taskRows_journal (t : Template) :
    t.taskRows.length = 2 * t.taskScreens.length ∧
      (∀ i s, t.taskScreens[i]? = some s →
        ∃ trigger, s.trigger = some trigger ∧ trigger.action = "activateTask" ∧
          t.taskRows[2 * i]? =
            some ⟨"task" ++ paddedNumeral 2 i ++ "_journal_entry_title",
              trigger.title.getD ""⟩ ∧
          t.taskRows[2 * i + 1]? =
            some ⟨"task" ++ paddedNumeral 2 i ++ "_journal_entry_description",
              trigger.description.getD ""⟩) ∧
      (t.taskRows.map (·.key)).Nodup := by
  refine ⟨t.length_taskRows, fun i s hs => ?_, t.nodup_keys_taskRows⟩
  obtain ⟨trigger, htrigger, action, found⟩ := getElem?_taskTriggers hs
  exact ⟨trigger, htrigger, action, getElem?_taskRows found (by decide : 0 < 2),
    getElem?_taskRows found (by decide : 1 < 2)⟩

/-- A foundry with five screens: two activate a task, the action of one starts with a blank, one has
another action and one has no trigger. -/
def foundry : Template :=
  .ofDraft
    { name := "foundry"
      screens :=
        [{ id := ⟨1⟩, name := "door", text := "Come in."
           trigger := QuestTrigger.of? "solveQuest" "foundry" (some "Solved") none },
          { id := ⟨2⟩, name := "furnace", text := "It is cold."
            trigger := QuestTrigger.of? "activateTask" "foundry" (some "The furnace") (some "Light it.") },
          { id := ⟨3⟩, name := "yard", text := "Mind the dog." },
          { id := ⟨4⟩, name := "sack", text := "It is torn."
            trigger := QuestTrigger.of? " activateTask" "foundry" (some "The sack") none },
          { id := ⟨5⟩, name := "stone", text := "It is worn."
            trigger := QuestTrigger.of? "activateTask" "foundry" none (some "Find a stone.") }] }
    (by decide)

/-- The stone of the foundry is the second task, as the torn sack is none. -/
theorem taskRows_journal_foundry :
    foundry.taskRows.length = 4 ∧
      foundry.taskRows[2]? = some ⟨"task01_journal_entry_title", ""⟩ ∧
      foundry.taskRows[3]? = some ⟨"task01_journal_entry_description", "Find a stone."⟩ := by
  obtain ⟨length, tasks, -⟩ := foundry.taskRows_journal
  have stone : foundry.taskScreens[1]? = foundry.screens[4]? := rfl
  obtain ⟨trigger, found, -, title, description⟩ := tasks 1 _ stone
  obtain rfl := Option.some.inj found
  exact ⟨length, title, description⟩

end Template

end Dialogue
