import Dialogue.Proofs.ScriptLines

/-!
# Walks through a conversation

A player walks through a conversation by choosing positions. Two walks are compared: one over the
screens of a template, which follows targets by identifier, and one that knows only strings which
are quoted in the lines of the definition script, and follows targets by name.

* `walk`: the walk over any kind of place, given where each choice leads.
* `Template.walk`: over the screens, from the entry screen.
* `Script.Chart`: the strings that lines quote. `Script.readChart?` reads them off the lines for the
  head and for the screens, and `Script.chartOf?` off the paragraphs of a text.
* `Script.Chart.walk`: the walk over a chart, from the screen named in its head.

Results:
* `walk_map`: walks whose single moves correspond correspond themselves.
* `Template.readChart?_screenLines`, `Template.chartOf?_definitionScript`: the chart that is read is
  that of the template.
* `Template.move_linksOf`: a move on a screen is a move on the chart.
* **`Template.walk_definitionScript`**: the script is walked as the template is.
-/

namespace Dialogue

open Lua Text

/-! ## Walks -/

section Walk

variable {σ τ : Type}

/-- Where a choice leads. -/
inductive Move (σ : Type) where
  /-- Nothing can be chosen at the position. -/
  | refused
  /-- The conversation ends. -/
  | ended
  /-- The place that the choice names is missing or not the only one of its name. -/
  | lost
  /-- The conversation goes on at another place. -/
  | onto (next : σ)
  deriving DecidableEq, Repr

/-- How a walk stands when it stops. -/
inductive Ending where
  /-- Every choice has been made and the conversation goes on. -/
  | waiting
  /-- Nothing can be chosen at the position. -/
  | refused
  /-- The conversation has ended. -/
  | ended
  /-- The place that a choice names has not been found. -/
  | lost
  deriving DecidableEq, Repr

/-- A walk: the places in order, and the choices that were not made. -/
structure Walk (σ : Type) where
  /-- The places that were visited, the first one included. -/
  visited : List σ
  /-- The choices that were left when the walk stopped. -/
  unused : List Nat
  /-- How the walk stands. -/
  ending : Ending
  deriving DecidableEq, Repr

/-- The walk that makes choices in order, starting at a place. -/
def walk (move : σ → Nat → Move σ) (place : σ) : List Nat → Walk σ
  | [] => ⟨[place], [], .waiting⟩
  | i :: choices =>
    match move place i with
    | .refused => ⟨[place], i :: choices, .refused⟩
    | .ended => ⟨[place], choices, .ended⟩
    | .lost => ⟨[place], choices, .lost⟩
    | .onto next =>
      let rest := walk move next choices
      { rest with visited := place :: rest.visited }

/-- The move with its place renamed. -/
def Move.map (f : σ → τ) : Move σ → Move τ
  | .refused => .refused
  | .ended => .ended
  | .lost => .lost
  | .onto next => .onto (f next)

/-- The walk with its places renamed. -/
def Walk.map (f : σ → τ) (w : Walk σ) : Walk τ := { w with visited := w.visited.map f }

variable {move : σ → Nat → Move σ}

/-- **Walks correspond if their moves do.** -/
theorem walk_map {f : σ → τ} {move' : τ → Nat → Move τ}
    (hmove : ∀ s i, move' (f s) i = (move s i).map f) :
    ∀ (place : σ) (choices : List Nat),
      walk move' (f place) choices = (walk move place choices).map f
  | _, [] => rfl
  | place, i :: choices => by
    unfold walk
    rw [hmove place i]
    cases move place i with
    | refused => rfl
    | ended => rfl
    | lost => rfl
    | onto next =>
      simp only [Move.map]
      rw [walk_map hmove next choices]
      rfl

/-- What every move keeps holds wherever a walk comes to. -/
theorem visited_walk {P : σ → Prop} (hP : ∀ s i next, P s → move s i = .onto next → P next) :
    ∀ {place : σ} (choices : List Nat), P place → ∀ s ∈ (walk move place choices).visited, P s
  | place, [], hp, s, hs => by
    rw [List.mem_singleton.mp hs]
    exact hp
  | place, i :: choices, hp, s, hs => by
    unfold walk at hs
    cases h : move place i with
    | refused => rw [h] at hs; exact List.mem_singleton.mp hs ▸ hp
    | ended => rw [h] at hs; exact List.mem_singleton.mp hs ▸ hp
    | lost => rw [h] at hs; exact List.mem_singleton.mp hs ▸ hp
    | onto next =>
      rw [h] at hs
      rcases List.mem_cons.mp hs with rfl | hs
      · exact hp
      · exact visited_walk hP choices (hP place i next hp h) s hs

/-- A walk whose moves never get lost does not get lost. -/
theorem ending_walk_ne_lost (hmove : ∀ s i, move s i ≠ .lost) :
    ∀ (place : σ) (choices : List Nat), (walk move place choices).ending ≠ .lost
  | _, [] => by simp [walk]
  | place, i :: choices => by
    unfold walk
    cases h : move place i with
    | refused => simp
    | ended => simp
    | lost => exact absurd h (hmove place i)
    | onto next => exact ending_walk_ne_lost hmove next choices

end Walk

/-! ## Over the screens -/

/-- Where a choice on a screen leads. -/
def Template.move (t : Template) (s : Screen) (i : Nat) : Move Screen :=
  match s.choices[i]? with
  | none => .refused
  | some c =>
    match t.resolve c with
    | none => .ended
    | some next => .onto next

/-- The walk over the screens of a template, from the entry screen. -/
def Template.walk (t : Template) (choices : List Nat) : Walk Screen :=
  Dialogue.walk t.move t.entryScreen choices

/-! ## Over the lines of the script -/

namespace Script

/-- What the lines for a screen quote about where it leads. -/
structure Links where
  /-- The string that identifies the screen. -/
  id : String
  /-- The second string of each response. -/
  targets : List String
  deriving DecidableEq, Repr

/-- What a script quotes about where a conversation leads. -/
structure Chart where
  /-- The string that names the screen to start on. -/
  entry : String
  /-- What the lines for each screen quote. -/
  screens : List Links
  deriving DecidableEq, Repr

/-- The text that a line gives to a field. -/
def readField? (field line : String) : Option String :=
  match lex (line ++ "\n") with
  | some [.word key, .mark .assign, .text text, .mark .comma] =>
    if key = field then some text else none
  | _ => none

/-- The second of the two texts on the line for a response. -/
def readTarget? (line : String) : Option String :=
  match lex (line ++ "\n") with
  | some (.mark .openBrace :: .text _ :: .mark .comma :: .text target :: .mark .closeBrace :: _) =>
    some target
  | _ => none

/-- What the lines for a screen quote: its identifier, on the second line, and the targets of its
responses, from the sixth line up to a closing brace. -/
def readLinks? : List String → Option Links
  | _ :: id :: _ :: _ :: _ :: rest => do
    let id ← readField? "id" id
    let targets ← (rest.takeWhile (· != "    \x7d")).mapM readTarget?
    return ⟨id, targets⟩
  | _ => none

/-- What the head of a script, on its second line, and the lines for its screens quote. -/
def readChart? : List String → List (List String) → Option Chart
  | _ :: entry :: _, screens => do
    let entry ← readField? "initialScreen" entry
    let screens ← screens.mapM readLinks?
    return ⟨entry, screens⟩
  | _, _ => none

/-- What the text of a script quotes. Its first paragraph is its head, and the last two are the
registration and what stands behind it. -/
def chartOf? (text : String) : Option Chart :=
  match paragraphs text with
  | head :: rest => readChart? head rest.dropLast.dropLast
  | [] => none

namespace Chart

/-- The screen that the given string identifies, if there is exactly one. -/
def screen? (c : Chart) (id : String) : Option Links :=
  match c.screens.filter (·.id == id) with
  | [s] => some s
  | _ => none

/-- Where a response of a screen leads: its second string is looked up, unless it is empty. -/
def move (c : Chart) (s : Links) (i : Nat) : Move Links :=
  match s.targets[i]? with
  | none => .refused
  | some target =>
    if target = "" then .ended
    else match c.screen? target with
      | none => .lost
      | some next => .onto next

/-- The walk over a chart, from the screen named in its head; none if it is not found. -/
def walk (c : Chart) (choices : List Nat) : Option (Walk Links) :=
  (c.screen? c.entry).map fun s => Dialogue.walk c.move s choices

end Chart

theorem readField?_line {field : String} (before text : String)
    (h : Lexes .ready before.toList [.word field, .mark .assign] .ready) :
    readField? field (before ++ Lua.quoted text ++ ",") = some text := by
  unfold readField?
  rw [lex_of_lexesLine (lexesLine_field before text h)]
  exact if_pos rfl

theorem readTarget?_line (isLast : Bool) (r : Response) :
    readTarget? (r.line isLast) = some r.target := by
  unfold readTarget?
  rw [lex_of_lexesLine (lexesLine_response isLast r)]
  rfl

theorem readLinks?_lines (first name dialog stop options : String) (rs : List Response)
    (rest : List String) :
    readLinks? (first :: ("    id = " ++ Lua.quoted name ++ ",") :: dialog :: stop :: options ::
        (responseLines rs ++ "    \x7d" :: rest)) = some ⟨name, rs.map (·.target)⟩ := by
  have id : readField? "id" ("    id = " ++ Lua.quoted name ++ ",") = some name :=
    readField?_line _ name (by decide +kernel)
  simp only [readLinks?, id, takeWhile_responseLines, mapM_responseLines readTarget?_line]
  rfl

theorem readChart?_lines {screens : List (List String)} {links : List Links} (first name : String)
    (rest : List String) (h : screens.mapM readLinks? = some links) :
    readChart? (first :: ("    initialScreen = " ++ Lua.quoted name ++ ",") :: rest) screens =
      some ⟨name, links⟩ := by
  have entry : readField? "initialScreen" ("    initialScreen = " ++ Lua.quoted name ++ ",") =
      some name := readField?_line _ name (by decide +kernel)
  simp only [readChart?, entry, h]
  rfl

end Script

open Script

namespace Template

variable {t : Template} {r s : Screen}

/-- Where a screen leads, by names. -/
def linksOf (t : Template) (s : Screen) : Links := ⟨s.name, s.choices.map (targetName t)⟩

/-- Where a conversation leads, by names. -/
def chart (t : Template) : Chart := ⟨t.entryScreen.name, t.screens.map (linksOf t)⟩

/-! ## Reading the chart -/

theorem targets_blockOf (t : Template) (s : Screen) :
    (blockOf t s).responses.map (·.target) = s.choices.map (targetName t) := List.map_map

theorem readLinks?_blockOf (t : Template) (s : Screen) :
    readLinks? ((blockOf t s).lines t.name) = some (linksOf t s) := by
  rw [linksOf, ← targets_blockOf]
  exact readLinks?_lines _ _ _ _ _ _ _

theorem readLinks?_dropLast (t : Template) (s : Screen) :
    readLinks? ((blockOf t s).lines t.name).dropLast = some (linksOf t s) := by
  rw [linksOf, ← targets_blockOf]
  unfold Block.lines
  rw [List.dropLast_append_of_ne_nil (List.cons_ne_nil _ _)]
  exact readLinks?_lines _ _ _ _ _ _ _

/-- **The lines of the script quote the chart of the template.** -/
theorem readChart?_screenLines (t : Template) :
    readChart? t.definition.headLines t.screenLines = some t.chart := by
  refine readChart?_lines _ _ _ ?_
  rw [screenLines, List.mapM_map]
  simp only [Function.comp_def, readLinks?_blockOf]
  exact List.mapM_pure

/-- **So does the text of the script**, if no name breaks lines. -/
theorem chartOf?_definitionScript (names : t.NamesUnbroken (· == '\n')) :
    chartOf? t.definitionScript = some t.chart := by
  have between : (t.screenLines.map List.dropLast ++
      [[t.definition.registration], []]).dropLast.dropLast = t.screenLines.map List.dropLast := by
    rw [List.dropLast_append_of_ne_nil (List.cons_ne_nil _ _)]
    exact List.dropLast_concat
  rw [chartOf?, paragraphs_definitionScript names, List.cons_append]
  simp only [between]
  refine readChart?_lines _ _ _ ?_
  rw [screenLines, List.map_map, List.mapM_map]
  simp only [Function.comp_def, readLinks?_dropLast]
  exact List.mapM_pure

/-! ## Walking over the chart -/

/-- The name of a screen identifies its part of the chart and no other. -/
theorem filter_chart (hs : s ∈ t.screens) :
    t.chart.screens.filter (·.id == s.name) = [linksOf t s] := by
  have hmap : t.chart.screens.filter (·.id == s.name) =
      (t.screens.filter (·.name == s.name)).map (linksOf t) :=
    List.filter_map
  rw [hmap, filter_eq_singleton t.wellFormed.names_nodup hs]
  rfl

theorem screen?_name (hs : s ∈ t.screens) : t.chart.screen? s.name = some (linksOf t s) := by
  rw [Chart.screen?, filter_chart hs]

/-- Only the end of the conversation is written as the empty string. -/
theorem name_ne_empty (hs : s ∈ t.screens) : s.name ≠ "" :=
  Text.ne_empty_of_isBlank_eq_false (t.wellFormed.screen_name_not_blank s hs)

/-- **A move on a screen is a move on the chart.** -/
theorem move_linksOf (s : Screen) (i : Nat) :
    t.chart.move (linksOf t s) i = (t.move s i).map (linksOf t) := by
  have hr : (linksOf t s).targets[i]? = (s.choices[i]?).map (targetName t) := List.getElem?_map
  unfold Chart.move Template.move
  rw [hr]
  cases s.choices[i]? with
  | none => rfl
  | some c =>
    have htarget : targetName t c = ((t.resolve c).map (·.name)).getD "" := rfl
    simp only [Option.map_some, htarget]
    cases hc : t.resolve c with
    | none => rfl
    | some next =>
      have hm := resolve_mem hc
      simp only [Option.map_some, Option.getD_some]
      rw [if_neg (name_ne_empty hm), screen?_name hm]
      rfl

theorem mem_of_move {i : Nat} (h : t.move s i = .onto r) : r ∈ t.screens := by
  unfold Template.move at h
  cases hc : s.choices[i]? with
  | none => rw [hc] at h; cases h
  | some c =>
    rw [hc] at h
    cases hr : t.resolve c with
    | none => simp [hr] at h
    | some next =>
      simp only [hr, Move.onto.injEq] at h
      exact h ▸ resolve_mem hr

theorem move_ne_lost (s : Screen) (i : Nat) : t.move s i ≠ .lost := by
  unfold Template.move
  cases s.choices[i]? with
  | none => simp
  | some c => cases hr : t.resolve c <;> simp [hr]

/-- A choice without target, or whose target is not in the template, ends the conversation. -/
theorem move_of_dangling {i : Nat} {c : Choice} (hc : s.choices[i]? = some c)
    (h : ∀ id ∈ c.target, ∀ r ∈ t.screens, r.id ≠ id) : t.move s i = .ended := by
  have hr : t.resolve c = none := by
    unfold Template.resolve
    rw [Option.bind_eq_none_iff]
    exact fun id hid => screen?_eq_none_iff.mpr (h id hid)
  unfold Template.move
  rw [hc]
  simp only [hr]

/-- **The script is walked as the template is.** The text of the script consists of a head, the
lines for each screen, and the registration. The strings that these lines quote, which can be read
off the text itself if no name breaks lines, are all that the walk over the script knows. From the
screen named in the head, it visits what is quoted for the screens that the walk over the template
visits, in the same order and to the same end; every name that is looked up identifies exactly one
screen. Dangling choices end both walks. -/
theorem walk_definitionScript (t : Template) (choices : List Nat) :
    t.definitionScript = unlines
        (t.definition.headLines ++ t.screenLines.flatten ++ [t.definition.registration]) ∧
      ∃ chart : Chart, readChart? t.definition.headLines t.screenLines = some chart ∧
        (t.NamesUnbroken (· == '\n') → chartOf? t.definitionScript = some chart) ∧
        chart.walk choices = some ((t.walk choices).map (linksOf t)) ∧
        (t.walk choices).ending ≠ .lost ∧
        (∀ s ∈ (t.walk choices).visited, s ∈ t.screens) ∧
        chart.screens = t.screens.map (linksOf t) ∧
        (∀ s ∈ t.screens, chart.screens.filter (·.id == s.name) = [linksOf t s]) ∧
        (∀ r ∈ t.screens, ∀ s ∈ t.screens, linksOf t r = linksOf t s → r = s) ∧
        ∀ s ∈ t.screens, ∀ i c, s.choices[i]? = some c →
          (∀ id ∈ c.target, ∀ r ∈ t.screens, r.id ≠ id) →
          t.move s i = .ended ∧ chart.move (linksOf t s) i = .ended := by
  have hstay : ∀ s i next, s ∈ t.screens → t.move s i = .onto next → next ∈ t.screens :=
    fun s i next _ h => mem_of_move h
  refine ⟨t.definitionScript_eq, t.chart, t.readChart?_screenLines, chartOf?_definitionScript, ?_,
    ending_walk_ne_lost move_ne_lost _ _, visited_walk hstay choices entryScreen_mem, rfl,
    fun s hs => filter_chart hs, fun r hr s hs h => ?_, fun s hs i c hc hd => ?_⟩
  · unfold Chart.walk Template.walk
    rw [show t.chart.entry = t.entryScreen.name from rfl, screen?_name entryScreen_mem,
      Option.map_some, walk_map move_linksOf]
  · exact t.wellFormed.eq_of_name_eq hr hs (congrArg Links.id h)
  · have hm := move_of_dangling hc hd
    refine ⟨hm, ?_⟩
    rw [move_linksOf, hm]
    rfl

/-- Down to the cellar, up again and out through a door that leads nowhere. -/
def cellarTour : Template :=
  .ofDraft
    { name := "inn"
      initialScreen := some ⟨3⟩
      screens :=
        [{ id := ⟨7⟩, name := "cellar", text := "Dark."
           choices := [{ text := "Up.", target := some ⟨3⟩ }] },
          { id := ⟨3⟩, name := "door", text := "Come in."
            choices := [{ text := "Down.", target := some ⟨7⟩ },
              { text := "Out.", target := some ⟨9⟩ }] }] }
    (by decide)

/-- The strings that lead through the inn are read off its script. -/
theorem walk_definitionScript_cellarTour :
    ∃ chart : Chart, chartOf? cellarTour.definitionScript = some chart ∧
      chart.walk [0, 0, 1, 4] =
        some
          { visited := [⟨"door", ["cellar", ""]⟩, ⟨"cellar", ["door"]⟩, ⟨"door", ["cellar", ""]⟩]
            unused := [4]
            ending := .ended } ∧
      (cellarTour.walk [0, 0, 1, 4]).visited.map (·.id.number) = [3, 7, 3] := by
  obtain ⟨-, chart, -, read, walk, -⟩ := walk_definitionScript cellarTour [0, 0, 1, 4]
  exact ⟨chart, read (by decide), walk.trans rfl, rfl⟩

end Template

end Dialogue
