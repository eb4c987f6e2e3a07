import Dialogue.Decimal.Digits
import Dialogue.Localization.KeyReference

/-!
# Fresh keys

Texts without a key get one from a generator.

* `SequentialKeys` counts: `s_00000001`, `s_00000002` and so on.
* `ListedKeys` hands out given keys, and once these are used up `k` and the number of the draw.

* `KeyGenerator.Proper`: every key that is still to come can stand in a reference.

Results:
* `isKeyId_sequentialKey`, `sequentialKey_injective`: the keys that count up can stand in references
  and never repeat.
* `SequentialKeys.proper`: so a counter is proper wherever it stands.
-/

namespace Dialogue

open Decimal

/-- States from which a key can be drawn. -/
class KeyGenerator (σ : Type) where
  /-- The next key and the state after it has been drawn. -/
  next : σ → String × σ

namespace KeyGenerator

variable {σ : Type} [KeyGenerator σ]

/-- The state after a number of keys have been drawn. -/
def after (keys : σ) : (draws : Nat) → σ
  | 0 => keys
  | draws + 1 => after (next keys).2 draws

/-- Every key that is still to come can stand in a reference. -/
def Proper (keys : σ) : Prop := ∀ draws, IsKeyId (next (after keys draws)).1

theorem Proper.isKeyId_next {keys : σ} (h : Proper keys) : IsKeyId (next keys).1 := h 0

theorem Proper.next {keys : σ} (h : Proper keys) : Proper (next keys).2 :=
  fun draws => h (draws + 1)

end KeyGenerator

/-- Keys that count up. The count has no limit here: it is that of a counter of 64 bits as long as
`last` and the number of draws together stay below `2 ^ 64`. -/
structure SequentialKeys where
  /-- The number of the last key that was drawn. -/
  last : Nat := 0
  deriving DecidableEq, Repr

/-- The key with the given number. -/
def sequentialKey (n : Nat) : String := "s_" ++ paddedNumeral 8 n

theorem toList_sequentialKey (n : Nat) :
    (sequentialKey n).toList = 's' :: '_' :: paddedDigits 8 n := by
  rw [sequentialKey, String.toList_append, toList_paddedNumeral]
  rfl

theorem isKeyId_sequentialKey (n : Nat) : IsKeyId (sequentialKey n) := by
  constructor
  · intro h
    have := congrArg String.toList h
    rw [toList_sequentialKey, String.toList_empty] at this
    cases this
  · intro h
    rw [toList_sequentialKey, List.mem_cons, List.mem_cons] at h
    rcases h with h | h | h
    · cases h
    · cases h
    · cases isDigit_of_mem_paddedDigits h

theorem sequentialKey_injective {m n : Nat} (h : sequentialKey m = sequentialKey n) : m = n := by
  have lists := congrArg String.toList h
  rw [toList_sequentialKey, toList_sequentialKey, List.cons.injEq, List.cons.injEq] at lists
  exact paddedNumeral_injective (congrArg String.ofList lists.2.2)

instance : KeyGenerator SequentialKeys where
  next keys := (sequentialKey (keys.last + 1), ⟨keys.last + 1⟩)

theorem SequentialKeys.proper (keys : SequentialKeys) : KeyGenerator.Proper keys :=
  fun _ => isKeyId_sequentialKey _

/-- Keys from a list. -/
structure ListedKeys where
  /-- The keys to hand out. -/
  keys : List String
  /-- How many keys have been drawn. -/
  drawn : Nat := 0
  deriving DecidableEq, Repr

instance : KeyGenerator ListedKeys where
  next k := (k.keys[k.drawn]?.getD ("k" ++ numeral (k.drawn + 1)), { k with drawn := k.drawn + 1 })

end Dialogue
