import Bindery.Proofs.Locals

/-!
# The path with its parameters filled in

A path has places for parameters, which are names in braces.  The template that is made from it
fills in those it has a parameter for, and gathers everything between two of them in one literal
until the next is met.  This module says where a name stands in braces without splitting the path,
and shows that the template is the path again when each parameter that is filled in is written as
its place.
-/

namespace Bindery.Client

open Bindery.Api Bindery.Code Bindery.Plan

/-! ## Names in braces -/

/-- A text that opens a brace and does not close it. -/
def LeavesOpen (text : List Char) : Prop :=
  ∃ before after, text = before ++ '{' :: after ∧ '}' ∉ after

theorem leavesOpen_cons {c : Char} {rest : List Char} :
    LeavesOpen (c :: rest) ↔ (c = '{' ∧ '}' ∉ rest) ∨ LeavesOpen rest := by
  constructor
  · rintro ⟨before, after, text, unclosed⟩
    cases before with
    | nil =>
        cases text
        exact .inl ⟨rfl, unclosed⟩
    | cons _ before =>
        cases text
        exact .inr ⟨before, after, rfl, unclosed⟩
  · rintro (⟨rfl, unclosed⟩ | ⟨before, after, rfl, unclosed⟩)
    · exact ⟨[], rest, rfl, unclosed⟩
    · exact ⟨c :: before, after, rfl, unclosed⟩

@[simp] theorem not_leavesOpen_nil : ¬ LeavesOpen [] := by
  rintro ⟨before, after, text, -⟩
  simp at text

/-- What is opened before a closing brace does not stay open. -/
@[simp] theorem leavesOpen_append_closing {before after : List Char} :
    LeavesOpen (before ++ '}' :: after) ↔ LeavesOpen after := by
  induction before with
  | nil => simp [leavesOpen_cons]
  | cons c before ih => simp [leavesOpen_cons, ih]

/-- What stands before the first closing brace is taken up to it. -/
theorem takeWhile_unclosed {name rest : List Char} (unclosed : '}' ∉ name) :
    (name ++ '}' :: rest).takeWhile (· ≠ '}') = name := by
  have inName : ∀ c ∈ name, decide (c ≠ '}') = true := by
    simpa using fun c member => ne_of_mem_of_not_mem member unclosed
  rw [List.takeWhile_append_of_pos inName, List.takeWhile_cons_of_neg (by simp), List.append_nil]

/-- The first closing brace of a text parts it in one way. -/
theorem eq_of_append_closing {first second rest after : List Char} (inFirst : '}' ∉ first)
    (inSecond : '}' ∉ second) (same : first ++ '}' :: rest = second ++ '}' :: after) :
    first = second ∧ rest = after := by
  have taken := congrArg (List.takeWhile (· ≠ '}')) same
  rw [takeWhile_unclosed inFirst, takeWhile_unclosed inSecond] at taken
  cases taken
  exact ⟨rfl, (List.cons.inj (List.append_cancel_left same)).2⟩

/-- The place of a name in a path after a part of it: the name in braces.  It is not empty, it
reaches to the first closing brace, and no brace is open before it. -/
structure Placeholder (path before name : List Char) : Prop where
  stands : ∃ after, path = before ++ '{' :: (name ++ '}' :: after)
  nonempty : name ≠ []
  unclosed : '}' ∉ name
  closed : ¬ LeavesOpen before

/-- A path that has a place for a name. -/
def HasPlaceholder (path name : List Char) : Prop := ∃ before, Placeholder path before name

/-! ## Items behind a text -/

/-- An item stands in a list after others that are written as a text. -/
def StandsAfter {α : Type} (chars : α → List Char) (items : List α) (before : List Char)
    (item : α) : Prop :=
  ∃ front back, items = front ++ item :: back ∧ front.flatMap chars = before

section StandsAfter

variable {α : Type} {chars : α → List Char} {items : List α} {before : List Char} {item first : α}

@[simp] theorem not_standsAfter_nil : ¬ StandsAfter chars [] before item := by
  rintro ⟨front, back, split, -⟩
  simp at split

theorem standsAfter_cons :
    StandsAfter chars (first :: items) before item ↔
      (item = first ∧ before = []) ∨
        ∃ more, before = chars first ++ more ∧ StandsAfter chars items more item := by
  constructor
  · rintro ⟨front, back, split, rfl⟩
    cases front with
    | nil =>
        cases split
        exact .inl ⟨rfl, rfl⟩
    | cons _ front =>
        cases split
        exact .inr ⟨front.flatMap chars, rfl, front, back, rfl, rfl⟩
  · rintro (⟨rfl, rfl⟩ | ⟨_, rfl, front, back, rfl, rfl⟩)
    · exact ⟨[], items, rfl, rfl⟩
    · exact ⟨first :: front, back, rfl, rfl⟩

theorem StandsAfter.mem (stands : StandsAfter chars items before item) : item ∈ items := by
  obtain ⟨front, back, rfl, -⟩ := stands
  simp

theorem exists_standsAfter_of_mem (member : item ∈ items) :
    ∃ before, StandsAfter chars items before item := by
  obtain ⟨front, back, rfl⟩ := List.append_of_mem member
  exact ⟨_, front, back, rfl, rfl⟩

end StandsAfter

/-! ## Where a path is split -/

namespace PathPart

variable {path before name rest : List Char}

/-- The name in the braces that a path starts with is there if its place is. -/
theorem name?_eq_some_iff :
    name? path = some name ↔
      name ≠ [] ∧ '}' ∉ name ∧ ∃ rest, path = '{' :: (name ++ '}' :: rest) := by
  constructor
  · intro found
    simp only [name?] at found
    split at found
    · next rest =>
        by_cases closed : '}' ∈ rest
        · obtain ⟨key, after, rfl, unclosed⟩ := List.eq_append_cons_of_mem closed
          rw [takeWhile_unclosed unclosed] at found
          split at found
          · cases found
          · next some_name =>
              cases found
              refine ⟨?_, unclosed, after, rfl⟩
              rintro rfl
              exact some_name rfl
        · have inRest : ∀ c ∈ rest, decide (c ≠ '}') = true := by
            simpa using fun c member => ne_of_mem_of_not_mem member closed
          rw [List.takeWhile_eq_self_iff.2 inRest] at found
          simp at found
    · cases found
  · rintro ⟨nonempty, unclosed, rest, rfl⟩
    simp only [name?]
    rw [takeWhile_unclosed unclosed, if_neg]
    simp [nonempty]

theorem drop_closing (name rest : List Char) :
    (name ++ '}' :: rest).drop (name.length + 1) = rest := by
  simp

/-- The parts of a path are the path. -/
theorem flatMap_chars_split (path : List Char) : (split path).flatMap chars = path := by
  fun_induction split path with
  | case1 => rfl
  | case2 c rest name found ih =>
      obtain ⟨-, -, after, path⟩ := name?_eq_some_iff.1 found
      cases path
      rw [drop_closing] at ih ⊢
      simp [chars, ih]
  | case3 c rest other ih => simp [chars, ih]

/-- A path that starts with a name in braces has a place for it, and those of the rest. -/
theorem placeholder_named_iff {key : List Char} (nonempty : key ≠ []) (unclosed : '}' ∉ key) :
    Placeholder ('{' :: (key ++ '}' :: rest)) before name ↔
      (name = key ∧ before = []) ∨
        ∃ more, before = '{' :: (key ++ '}' :: more) ∧ Placeholder rest more name := by
  constructor
  · rintro ⟨⟨after, stands⟩, named, nameUnclosed, closed⟩
    cases before with
    | nil =>
        obtain ⟨-, stands⟩ := List.cons.inj stands
        obtain ⟨rfl, -⟩ := eq_of_append_closing unclosed nameUnclosed stands
        exact .inl ⟨rfl, rfl⟩
    | cons c before =>
        obtain ⟨rfl, stands⟩ := List.cons.inj stands
        rw [leavesOpen_cons, not_or] at closed
        have closes : '}' ∈ before := by
          by_contra stays
          exact closed.1 ⟨rfl, stays⟩
        -- The first brace that is closed there is the one behind the name.
        obtain ⟨first, more, rfl, firstUnclosed⟩ := List.eq_append_cons_of_mem closes
        have split : key ++ '}' :: rest =
            first ++ '}' :: (more ++ '{' :: (name ++ '}' :: after)) := by simpa using stands
        obtain ⟨rfl, rfl⟩ := eq_of_append_closing unclosed firstUnclosed split
        rw [leavesOpen_append_closing] at closed
        exact .inr ⟨more, rfl, ⟨after, rfl⟩, named, nameUnclosed, closed.2⟩
  · rintro (⟨rfl, rfl⟩ | ⟨more, rfl, ⟨after, rfl⟩, named, nameUnclosed, closed⟩)
    · exact ⟨⟨rest, rfl⟩, nonempty, unclosed, not_leavesOpen_nil⟩
    · refine ⟨⟨after, by simp⟩, named, nameUnclosed, ?_⟩
      rwa [← List.cons_append, leavesOpen_append_closing]

/-- A path that does not start with a name in braces has only the places of the rest. -/
theorem placeholder_cons_iff {c : Char} (other : name? (c :: rest) = none) :
    Placeholder (c :: rest) before name ↔
      ∃ more, before = c :: more ∧ Placeholder rest more name := by
  have unnamed {key after : List Char} (named : key ≠ []) (unclosed : '}' ∉ key) :
      c :: rest ≠ '{' :: (key ++ '}' :: after) := by
    intro path
    rw [name?_eq_some_iff.2 ⟨named, unclosed, after, path⟩] at other
    cases other
  constructor
  · rintro ⟨⟨after, stands⟩, named, unclosed, closed⟩
    cases before with
    | nil => exact absurd stands (unnamed named unclosed)
    | cons d before =>
        obtain ⟨rfl, rfl⟩ := List.cons.inj stands
        rw [leavesOpen_cons, not_or] at closed
        exact ⟨before, rfl, ⟨after, rfl⟩, named, unclosed, closed.2⟩
  · rintro ⟨more, rfl, ⟨after, rfl⟩, named, unclosed, closed⟩
    refine ⟨⟨after, rfl⟩, named, unclosed, ?_⟩
    rw [leavesOpen_cons]
    rintro (⟨rfl, stays⟩ | leaves)
    · -- A brace that stays open until here starts a name that reaches over this place.
      have reaches : '}' ∉ more ++ '{' :: name := by simp [stays, unclosed]
      have path : '{' :: (more ++ '{' :: (name ++ '}' :: after)) =
          '{' :: ((more ++ '{' :: name) ++ '}' :: after) := by simp
      exact unnamed (by simp) reaches path
    · exact closed leaves

/-- A name has its place in a path where splitting the path finds it. -/
theorem standsAfter_split_iff :
    StandsAfter chars (split path) before (.placeholder name) ↔ Placeholder path before name := by
  fun_induction split path generalizing before with
  | case1 =>
      refine iff_of_false not_standsAfter_nil ?_
      rintro ⟨⟨after, stands⟩, -⟩
      simp at stands
  | case2 c rest key found ih =>
      obtain ⟨nonempty, unclosed, after, path⟩ := name?_eq_some_iff.1 found
      cases path
      rw [drop_closing] at ih ⊢
      rw [standsAfter_cons, placeholder_named_iff nonempty unclosed]
      simp [ih, chars]
  | case3 c rest other ih =>
      rw [standsAfter_cons, placeholder_cons_iff other]
      simp [ih, chars]

end PathPart

/-! ## What is filled in -/

/-- A segment of a path with its parameters filled in: text that stands as it is, or the value of a
parameter. -/
inductive Segment where
  | literal (text : String)
  | filled (binding : Binding)

namespace Segment

/-- A segment as it stands in the path, with the name of a parameter in braces. -/
def chars : Segment → List Char
  | literal text => text.toList
  | filled binding => '{' :: binding.parameter.name.toList ++ ['}']

/-- A segment as a part of the template. -/
def part : Segment → TemplatePart
  | literal text => .literal text
  | filled binding => .hole (wireValue binding)

/-- Whether a segment is filled in. -/
def isFilled : Segment → Bool
  | literal _ => false
  | filled _ => true

end Segment

/-- Literal text as a segment, unless there is none. -/
def literalSegment (text : List Char) : List Segment :=
  if text.isEmpty then [] else [.literal (String.ofList text)]

/-- The segments of a path, given its parts and the text before them that is pending. -/
def segments (local? : String → Option Binding) (pending : List Char) :
    List PathPart → List Segment
  | [] => literalSegment pending
  | part :: rest =>
    match part with
    | .text _ => segments local? (pending ++ part.chars) rest
    | .placeholder name =>
      match local? (String.ofList name) with
      | some binding => literalSegment pending ++ .filled binding :: segments local? [] rest
      | none => segments local? (pending ++ part.chars) rest

/-- The local of the path parameter of a name; of several the last counts. -/
def pathLocal? (bindings : List Binding) (name : String) : Option Binding :=
  (located .path bindings).reverse.find? (·.parameter.name = name)

section Segments

variable {local? : String → Option Binding} {pending : List Char} {parts : List PathPart}

theorem literalPart_eq_map (text : List Char) :
    literalPart text = (literalSegment text).map Segment.part := by
  simp only [literalPart, literalSegment]
  split <;> rfl

@[simp] theorem flatMap_chars_literalSegment (text : List Char) :
    (literalSegment text).flatMap Segment.chars = text := by
  cases text <;> simp [literalSegment, Segment.chars]

theorem eq_literal_of_mem_literalSegment {text : List Char} {segment : Segment}
    (member : segment ∈ literalSegment text) : ∃ text, text ≠ "" ∧ segment = .literal text := by
  simp only [literalSegment] at member
  split at member
  · cases member
  · next some_text =>
      refine ⟨String.ofList text, ?_, List.mem_singleton.1 member⟩
      simpa using some_text

/-- A template has something to fill in if one of its segments is filled in. -/
theorem any_isHole_iff {items : List Segment} :
    (items.map Segment.part).any isHole = true ↔ ∃ binding, .filled binding ∈ items := by
  rw [List.any_map, List.any_eq_true]
  constructor
  · rintro ⟨segment, member, isHole⟩
    cases segment with
    | literal text => cases isHole
    | filled binding => exact ⟨binding, member⟩
  · rintro ⟨binding, member⟩
    exact ⟨_, member, rfl⟩

/-- The template of a path has the parts of its segments. -/
theorem fillParts_eq_map :
    fillParts (fun name => (local? name).map wireValue) pending parts =
      (segments local? pending parts).map Segment.part := by
  induction parts generalizing pending with
  | nil => exact literalPart_eq_map pending
  | cons part rest ih =>
      cases part with
      | text chars => exact ih
      | placeholder name =>
          simp only [fillParts, segments]
          cases local? (String.ofList name) with
          | none => exact ih
          | some binding => simp [literalPart_eq_map, ih, Segment.part]

/-- Segments are written as what is pending and the parts that they come from. -/
theorem flatMap_chars_segments
    (named : ∀ name binding, local? name = some binding → binding.parameter.name = name) :
    (segments local? pending parts).flatMap Segment.chars =
      pending ++ parts.flatMap PathPart.chars := by
  induction parts generalizing pending with
  | nil => simp [segments]
  | cons part rest ih =>
      cases part with
      | text chars => simp [segments, ih, PathPart.chars]
      | placeholder name =>
          simp only [segments]
          cases found : local? (String.ofList name) with
          | none => simp [ih, PathPart.chars]
          | some binding => simp [ih, PathPart.chars, Segment.chars, named _ _ found]

/-- No segment is a literal without text. -/
theorem literal_empty_not_mem_segments : .literal "" ∉ segments local? pending parts := by
  have pendingText {pending : List Char} : .literal "" ∉ literalSegment pending := by
    intro member
    obtain ⟨text, some_text, same⟩ := eq_literal_of_mem_literalSegment member
    cases same
    exact some_text rfl
  induction parts generalizing pending with
  | nil => exact pendingText
  | cons part rest ih =>
      cases part with
      | text chars => exact ih
      | placeholder name =>
          simp only [segments]
          cases local? (String.ofList name) with
          | none => exact ih
          | some binding => simp [pendingText, ih]

/-- Of two segments that follow each other one is filled in. -/
theorem isChain_segments :
    (segments local? pending parts).IsChain fun first second =>
      first.isFilled = true ∨ second.isFilled = true := by
  have pendingText {pending : List Char} : (literalSegment pending).IsChain fun first second =>
      first.isFilled = true ∨ second.isFilled = true := by
    simp only [literalSegment]
    split <;> simp
  induction parts generalizing pending with
  | nil => exact pendingText
  | cons part rest ih =>
      cases part with
      | text chars => exact ih
      | placeholder name =>
          simp only [segments]
          cases local? (String.ofList name) with
          | none => exact ih
          | some binding =>
              refine pendingText.append (List.isChain_cons.2 ⟨?_, ih⟩) ?_
              · exact fun _ _ => .inl rfl
              · rintro _ - _ ⟨⟩
                exact .inr rfl

theorem standsAfter_literalSegment_append {items : List Segment} {before : List Char}
    {binding : Binding} :
    StandsAfter Segment.chars (literalSegment pending ++ items) before (.filled binding) ↔
      ∃ more, before = pending ++ more ∧
        StandsAfter Segment.chars items more (.filled binding) := by
  cases pending with
  | nil => simp [literalSegment]
  | cons c rest => simp [literalSegment, standsAfter_cons, Segment.chars]

/-- A part that is not the place of one of some names leaves their places where they are. -/
theorem exists_standsAfter_cons_iff {part : PathPart} {before : List Char}
    {sought : List Char → Prop} (other : ∀ name, sought name → part ≠ .placeholder name) :
    (∃ name more, before = pending ++ more ∧ sought name ∧
        StandsAfter PathPart.chars (part :: parts) more (.placeholder name)) ↔
      ∃ name more, before = pending ++ part.chars ++ more ∧ sought name ∧
        StandsAfter PathPart.chars parts more (.placeholder name) := by
  constructor
  · rintro ⟨name, more, rfl, isSought, stands⟩
    rcases standsAfter_cons.1 stands with ⟨same, -⟩ | ⟨more, rfl, later⟩
    · exact absurd same.symm (other name isSought)
    · exact ⟨name, more, (List.append_assoc ..).symm, isSought, later⟩
  · rintro ⟨name, more, rfl, isSought, later⟩
    exact ⟨name, _, List.append_assoc .., isSought, standsAfter_cons.2 (.inr ⟨more, rfl, later⟩)⟩

/-- A parameter is filled in where there is a part with its name. -/
theorem standsAfter_segments_iff
    (named : ∀ name binding, local? name = some binding → binding.parameter.name = name)
    {before : List Char} {binding : Binding} :
    StandsAfter Segment.chars (segments local? pending parts) before (.filled binding) ↔
      ∃ name more, before = pending ++ more ∧ local? (String.ofList name) = some binding ∧
        StandsAfter PathPart.chars parts more (.placeholder name) := by
  -- What is pending has been passed over already, so the rest stands behind it.
  induction parts generalizing pending before with
  | nil =>
      refine iff_of_false (fun stands => ?_) (by simp)
      obtain ⟨_, -, same⟩ := eq_literal_of_mem_literalSegment stands.mem
      cases same
  | cons part rest ih =>
      cases part with
      | text chars =>
          rw [exists_standsAfter_cons_iff (by simp)]
          exact ih
      | placeholder name =>
          simp only [segments]
          cases found : local? (String.ofList name) with
          | none =>
              rw [exists_standsAfter_cons_iff (by rintro _ there ⟨⟩; simp [found] at there)]
              exact ih
          | some other =>
              have written : Segment.chars (.filled other) =
                  PathPart.chars (.placeholder name) := by
                simp [Segment.chars, PathPart.chars, named _ _ found]
              rw [standsAfter_literalSegment_append]
              constructor
              · rintro ⟨more, rfl, stands⟩
                rcases standsAfter_cons.1 stands with ⟨same, rfl⟩ | ⟨more, rfl, later⟩
                · cases same
                  exact ⟨name, [], rfl, found, standsAfter_cons.2 (.inl ⟨rfl, rfl⟩)⟩
                · obtain ⟨key, more, rfl, there, later⟩ := ih.1 later
                  refine ⟨key, _, rfl, there, standsAfter_cons.2 (.inr ⟨more, ?_, later⟩)⟩
                  rw [written]
              · rintro ⟨key, more, rfl, there, stands⟩
                refine ⟨more, rfl, standsAfter_cons.2 ?_⟩
                rcases standsAfter_cons.1 stands with ⟨same, rfl⟩ | ⟨more, rfl, later⟩
                · cases same
                  rw [found] at there
                  cases there
                  exact .inl ⟨rfl, rfl⟩
                · exact .inr ⟨more, by rw [written], ih.2 ⟨key, more, rfl, there, later⟩⟩

end Segments

/-! ## The path of a request -/

/-- Among locals of different parameters, the local of a name is the one whose parameter has it, if
that is a parameter of the path. -/
theorem pathLocal?_eq_some_iff {bindings : List Binding}
    (distinct : (bindings.map (·.parameter.name)).Nodup) {name : String} {binding : Binding} :
    pathLocal? bindings name = some binding ↔
      binding ∈ bindings ∧ binding.parameter.location = .path ∧ binding.parameter.name = name := by
  have sound {found : Binding} (there : pathLocal? bindings name = some found) :
      found ∈ bindings ∧ found.parameter.location = .path ∧ found.parameter.name = name := by
    have located := List.mem_reverse.1 (List.mem_of_find?_eq_some there)
    obtain ⟨member, isPath⟩ := List.mem_filter.1 located
    exact ⟨member, of_decide_eq_true isPath, by simpa using List.find?_some there⟩
  constructor
  · exact sound
  · rintro ⟨member, isPath, named⟩
    cases there : pathLocal? bindings name with
    | none =>
        have inPath : binding ∈ (located .path bindings).reverse :=
          List.mem_reverse.2 (List.mem_filter.2 ⟨member, decide_eq_true isPath⟩)
        simpa [named] using List.find?_eq_none.1 there binding inPath
    | some found =>
        obtain ⟨inBindings, -, same⟩ := sound there
        rw [List.inj_on_of_nodup_map distinct inBindings member (same.trans named.symm)]

/-- How segments fill in a path.  They are the path again when each parameter that is filled in is
written as its place, and the parameters of the path are filled in at exactly their places. -/
structure Fills (path : String) (bindings : List Binding) (segments : List Segment) : Prop where
  written : segments.flatMap (·.chars) = path.toList
  filled : ∀ binding before, StandsAfter Segment.chars segments before (.filled binding) ↔
    binding ∈ bindings ∧ binding.parameter.location = .path ∧
      Placeholder path.toList before binding.parameter.name.toList
  nonempty : .literal "" ∉ segments
  separated : segments.IsChain fun first second =>
    first.isFilled = true ∨ second.isFilled = true

/-- A parameter is filled in if it is one of the path and has a place there. -/
theorem Fills.filled_mem_iff {path : String} {bindings : List Binding} {segments : List Segment}
    (fills : Fills path bindings segments) {binding : Binding} :
    .filled binding ∈ segments ↔ binding ∈ bindings ∧ binding.parameter.location = .path ∧
      HasPlaceholder path.toList binding.parameter.name.toList := by
  constructor
  · intro member
    obtain ⟨before, stands⟩ : ∃ before, StandsAfter Segment.chars segments before _ :=
      exists_standsAfter_of_mem member
    obtain ⟨inBindings, isPath, place⟩ := (fills.filled binding before).1 stands
    exact ⟨inBindings, isPath, before, place⟩
  · rintro ⟨inBindings, isPath, before, place⟩
    exact ((fills.filled binding before).2 ⟨inBindings, isPath, place⟩).mem

/-- The segments of the path of a request. -/
def pathSegments (path : String) (bindings : List Binding) : List Segment :=
  segments (pathLocal? bindings) [] (PathPart.split path.toList)

theorem fills_pathSegments (path : String) {bindings : List Binding}
    (distinct : (bindings.map (·.parameter.name)).Nodup) :
    Fills path bindings (pathSegments path bindings) := by
  have named (name : String) (binding : Binding) (there : pathLocal? bindings name = some binding) :
      binding.parameter.name = name := ((pathLocal?_eq_some_iff distinct).1 there).2.2
  refine ⟨?written, ?filled, literal_empty_not_mem_segments, isChain_segments⟩
  case written =>
    simp only [pathSegments]
    rw [flatMap_chars_segments named, PathPart.flatMap_chars_split, List.nil_append]
  case filled =>
    intro binding before
    simp only [pathSegments]
    rw [standsAfter_segments_iff named]
    simp only [PathPart.standsAfter_split_iff, pathLocal?_eq_some_iff distinct, List.nil_append,
      ← String.toList_inj, String.toList_ofList]
    constructor
    · rintro ⟨_, _, rfl, ⟨member, isPath, rfl⟩, place⟩
      exact ⟨member, isPath, place⟩
    · rintro ⟨member, isPath, place⟩
      exact ⟨_, before, rfl, ⟨member, isPath, rfl⟩, place⟩

/-- The path of a request is the template of its segments, or the plain path if none of them is
filled in. -/
theorem pathExpr_cases (path : String) (bindings : List Binding) :
    ((∃ binding, .filled binding ∈ pathSegments path bindings) ∧
        pathExpr path bindings = .template ((pathSegments path bindings).map (·.part))) ∨
      ((∀ binding, .filled binding ∉ pathSegments path bindings) ∧
        pathExpr path bindings = .text path) := by
  have parts : fillParts (pathValue? bindings) [] (PathPart.split path.toList) =
      (pathSegments path bindings).map Segment.part := fillParts_eq_map
  simp only [pathExpr]
  rw [parts]
  by_cases some_filled : ∃ binding, .filled binding ∈ pathSegments path bindings
  · exact .inl ⟨some_filled, if_pos (any_isHole_iff.2 some_filled)⟩
  · exact .inr ⟨not_exists.1 some_filled, if_neg (mt any_isHole_iff.1 some_filled)⟩

/-- The path of a request loses nothing of the path it is made from and adds nothing to it.  It is a
template if a parameter is filled in, and the plain path if none is. -/
theorem pathExpr_fills (path : String) {bindings : List Binding}
    (distinct : (bindings.map (·.parameter.name)).Nodup) :
    ∃ segments, Fills path bindings segments ∧
      (((∃ binding, .filled binding ∈ segments) ∧
          pathExpr path bindings = .template (segments.map (·.part))) ∨
        ((∀ binding, .filled binding ∉ segments) ∧ pathExpr path bindings = .text path)) :=
  ⟨pathSegments path bindings, fills_pathSegments path distinct, pathExpr_cases path bindings⟩

/-- Locals of two parameters of the path and of one of the query. -/
def shopLocals : List Binding := [
  { name := "shop", parameter := { name := "shop", location := .path },
    type := { expr := .name "str" }, source := .argument },
  { name := "page", parameter := { name := "page", location := .query },
    type := { expr := .name "int" }, source := .argument },
  { name := "pet", parameter := { name := "pet", location := .path },
    type := { expr := .name "int" }, source := .argument }]

/-- A place that is repeated is filled in each time, also right behind itself.  The name of a
parameter of the query and a name behind another open brace stay as they are. -/
theorem shopPath_fills :
    (shopLocals.map (·.parameter.name)).Nodup ∧
    pathExpr "/{shop}{shop}/{page}/{{pet}}" shopLocals =
      .template [.literal "/", .hole (.name "shop"), .hole (.name "shop"),
        .literal "/{page}/{{pet}}"] ∧
    ∃ segments, Fills "/{shop}{shop}/{page}/{{pet}}" shopLocals segments ∧
      pathExpr "/{shop}{shop}/{page}/{{pet}}" shopLocals = .template (segments.map (·.part)) := by
  have distinct : (shopLocals.map (·.parameter.name)).Nodup := by decide
  have shown : pathExpr "/{shop}{shop}/{page}/{{pet}}" shopLocals =
      .template [.literal "/", .hole (.name "shop"), .hole (.name "shop"),
        .literal "/{page}/{{pet}}"] := by
    simp [pathExpr, PathPart.split, PathPart.name?, PathPart.chars, fillParts, literalPart,
      pathValue?, located, shopLocals, wireValue, isHole]
  refine ⟨distinct, shown, ?_⟩
  obtain ⟨segments, fills, ⟨-, template⟩ | ⟨-, plain⟩⟩ :=
    pathExpr_fills "/{shop}{shop}/{page}/{{pet}}" distinct
  · exact ⟨segments, fills, template⟩
  · rw [shown] at plain
    cases plain

end Bindery.Client
