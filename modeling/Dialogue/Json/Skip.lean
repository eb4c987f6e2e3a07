import Dialogue.Json.Lexical
import Dialogue.Json.Number

/-!
# Skipping a value

The value of an unknown field is skipped, however deep it is nested. The brackets that are open are
kept on a stack, and `Spot` says what may come next inside the innermost of them.

* `approach` reads what stands in front of a value, or the end of a bracket.
* `skipFrom` goes from value to value. As in the loops of texts, `steps` is a list that is used up.
-/

namespace Dialogue.Json

/-- An open bracket. -/
inductive Bracket where
  /-- The bracket of a list. -/
  | list
  /-- The bracket of an object. -/
  | object
  deriving DecidableEq, Repr

/-- The character that closes a bracket. -/
def Bracket.close : Bracket → Char
  | .list => ']'
  | .object => '\x7d'

/-- What may come next. -/
inductive Spot where
  /-- A value. -/
  | value
  /-- The first member of a bracket, or its end. -/
  | first (bracket : Bracket)
  /-- A comma and a member of a bracket, or its end. -/
  | next (bracket : Bracket)
  deriving DecidableEq, Repr

/-- Skips a value that is neither a list nor an object. -/
def skipScalar : List Char → Except Problem (List Char)
  | [] => .error .cut
  | c :: cs =>
    if c = 'n' then word ['u', 'l', 'l'] cs
    else if c = 't' then word ['r', 'u', 'e'] cs
    else if c = 'f' then word ['a', 'l', 's', 'e'] cs
    else if c = '"' then skipText cs
    else if c = '-' ∨ c.isDigit then skipNumber (c :: cs)
    else .error .malformed

/-- Skips the name of a member of an object and the colon behind it. -/
def skipName (cs : List Char) : Except Problem (List Char) :=
  match skipGaps cs with
  | [] => .error .cut
  | c :: rest =>
    if c = '"' then do
      match skipGaps (← skipText rest) with
      | [] => throw .cut
      | c :: rest => if c = ':' then pure rest else throw .malformed
    else .error .malformed

/-- Skips what a member of a bracket has in front of its value. -/
def Bracket.skipLabel : Bracket → List Char → Except Problem (List Char)
  | .list, cs => .ok cs
  | .object, cs => skipName cs

/-- What has been found at a spot. -/
inductive Approach where
  /-- The innermost bracket has been closed. -/
  | closed (rest : List Char)
  /-- A value comes next. -/
  | value (rest : List Char)
  deriving DecidableEq, Repr

/-- Reads up to the next value or the end of the innermost bracket. -/
def approach (spot : Spot) (cs : List Char) : Except Problem Approach :=
  match skipGaps cs, spot with
  | [], _ => .error .cut
  | cs, .value => .ok (.value cs)
  | c :: rest, .first bracket =>
    if c = bracket.close then .ok (.closed rest)
    else (bracket.skipLabel (c :: rest)).map fun rest => .value (skipGaps rest)
  | c :: rest, .next bracket =>
    if c = bracket.close then .ok (.closed rest)
    else if c = ',' then (bracket.skipLabel rest).map fun rest => .value (skipGaps rest)
    else .error .malformed

/-- Skips what stands at a spot and what the brackets around it ask for. -/
def skipFrom : (steps : List Char) → (outer : List Bracket) → Spot → List Char →
    Except Problem (List Char)
  | [], _, _, _ => .error .cut
  | _ :: steps, outer, spot, cs => do
    let inside := match spot with
      | .value => outer
      | .first bracket | .next bracket => bracket :: outer
    let leave (rest : List Char) : List Bracket → Except Problem (List Char)
      | [] => pure rest
      | bracket :: outer => skipFrom steps outer (.next bracket) rest
    match ← approach spot cs with
    | .closed rest => leave rest outer
    | .value [] => throw .cut
    | .value (c :: rest) =>
      if c = '[' then skipFrom steps inside (.first .list) rest
      else if c = '\x7b' then skipFrom steps inside (.first .object) rest
      else leave (← skipScalar (c :: rest)) inside

/-- Skips a value. -/
def skipValue (cs : List Char) : Except Problem (List Char) := skipFrom cs [] .value cs

end Dialogue.Json
