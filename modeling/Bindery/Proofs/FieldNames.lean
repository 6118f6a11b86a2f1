import Bindery.Proofs.Members
import Bindery.Proofs.ModelNames

/-!
# The names of a model's fields

The properties of a schema ask for field names in their order, and different properties may ask for
one name.  Each is given the name that it asks for, with an underscore after it if that name was
given before.  Whether the longer name was given too is not looked at.  Two properties that ask for
one name are kept apart by this, and more of them may not be: when they meet is said here about the
names that are asked for alone.
-/

namespace Bindery.Code

/-- The name on the wire that a field is declared with. -/
def Expr.alias? : Expr → Option String
  | .call (.name "Field") _ keywords =>
    match keywords.lookup "alias" with
    | some (.text value) => some value
    | _ => .none
  | _ => .none

end Bindery.Code

namespace Bindery.Client

open Bindery.Api Bindery.Code Bindery.Naming Bindery.Steps Bindery.Typing

/-! ## Names that are asked for and names that are given -/

/-- A name that is given to one of those who ask for names in this order.  Whatever is asked for is
given to someone, and whoever asks for what was given before is given the longer name. -/
inductive Given : List String → String → Prop where
  | asked {names : List String} {name : String} : name ∈ names → Given names name
  | again {before after : List String} {name : String} :
      Given before name → Given (before ++ name :: after) (name ++ "_")

/-- Names of which one is asked for when it was given and the longer one was given too. -/
def Crowded (names : List String) : Prop :=
  ∃ before name after, names = before ++ name :: after ∧
    Given before name ∧ Given before (name ++ "_")

theorem not_given_nil {name : String} : ¬ Given [] name := by
  intro given
  generalize nothing : ([] : List String) = names at given
  cases given with
  | asked member =>
      rw [← nothing] at member
      cases member
  | again => simp at nothing

theorem Given.append {before : List String} {name : String} (given : Given before name)
    (more : List String) : Given (before ++ more) name := by
  cases given with
  | asked member => exact .asked (List.mem_append_left more member)
  | again earlier =>
      rw [List.append_assoc]
      exact .again earlier

/-- What one who asks last adds to the names that are given. -/
theorem given_concat_iff {before : List String} {name other : String} :
    Given (before ++ [name]) other ↔
      Given before other ∨ other = name ∨ Given before name ∧ other = name ++ "_" := by
  constructor
  · intro given
    generalize whole : before ++ [name] = names at given
    cases given with
    | asked member =>
        rw [← whole, List.mem_append, List.mem_singleton] at member
        rcases member with inside | last
        · exact .inl (.asked inside)
        · exact .inr (.inl last)
    | @again first rest repeated earlier =>
        -- The one who is given the longer name asks last, or asked before the last one did.
        rcases List.eq_nil_or_concat rest with rfl | ⟨middle, last, rfl⟩
        · obtain ⟨rfl, same⟩ := List.append_inj' whole rfl
          cases same
          exact .inr (.inr ⟨earlier, rfl⟩)
        · rw [List.concat_eq_append, ← List.cons_append, ← List.append_assoc] at whole
          obtain ⟨rfl, -⟩ := List.append_inj' whole rfl
          exact .inl (.again earlier)
  · rintro (earlier | rfl | ⟨earlier, rfl⟩)
    · exact earlier.append [name]
    · exact .asked (by simp)
    · exact .again earlier

/-- What is not the longer form of a name that is asked for is given to the first who asks for
it. -/
theorem mem_of_given {names : List String} {name : String} (given : Given names name)
    (plain : ∀ other ∈ names, other ++ "_" ≠ name) : name ∈ names := by
  cases given with
  | asked member => exact member
  | again => exact absurd rfl (plain _ (by simp))

/-- Names that are asked for at most twice each are not crowded if none is the longer form of
another. -/
theorem not_crowded_of_pairs {names : List String}
    (pairs : ∀ name ∈ names, names.count name ≤ 2)
    (plain : ∀ name ∈ names, name ++ "_" ∉ names) : ¬ Crowded names := by
  rintro ⟨before, name, after, rfl, -, longer⟩
  have inNames : name ∈ before ++ name :: after := by simp
  generalize isLonger : name ++ "_" = other at longer
  cases longer with
  | asked member =>
      rw [← isLonger] at member
      exact plain name inNames (List.mem_append_left _ member)
  | @again first rest repeated earlier =>
      have same : repeated = name := by
        have texts := congrArg String.toList isLonger
        rw [String.toList_append, String.toList_append] at texts
        exact String.toList_inj.1 (List.append_cancel_right texts).symm
      subst same
      have asked : repeated ∈ first := by
        refine mem_of_given earlier fun longer member isName => ?_
        refine plain longer (by simp [member]) ?_
        rw [isName]
        exact inNames
      have twice := pairs repeated inNames
      have once := List.count_pos_iff.2 asked
      simp only [List.count_append, List.count_cons_self] at twice
      omega

/-! ## One property after the other -/

/-- The name that is given to one who asks for a name. -/
def give (taken : List String) (name : String) : String :=
  if name ∈ taken then name ++ "_" else name

/-- The names that are given to those who ask for names in this order. -/
def giveAll : (taken names : List String) → List String
  | _, [] => []
  | taken, name :: rest => give taken name :: giveAll (give taken name :: taken) rest

/-- The names that are taken are those that were given. -/
def Records (taken before : List String) : Prop := ∀ name, name ∈ taken ↔ Given before name

section

variable {taken before : List String} {name : String} (records : Records taken before)
include records

theorem give_mem_iff :
    give taken name ∈ taken ↔ Given before name ∧ Given before (name ++ "_") := by
  rw [← records, ← records, give]
  split
  · next here => simp [here]
  · next absent => simp [absent]

/-- The names that are taken go on to be those that were given. -/
theorem Records.give : Records (give taken name :: taken) (before ++ [name]) := by
  intro other
  rw [List.mem_cons, given_concat_iff, ← records, ← records, Client.give]
  split
  · next here => grind
  · next absent => grind

end

/-- A place in a list is its head or a place further on. -/
theorem exists_split_cons_iff {first : String} {rest : List String}
    (holds : List String → String → Prop) :
    (∃ before name after, first :: rest = before ++ name :: after ∧ holds before name) ↔
      holds [] first ∨
        ∃ before name after, rest = before ++ name :: after ∧ holds (first :: before) name := by
  constructor
  · rintro ⟨before, name, after, whole, here⟩
    cases before with
    | nil =>
        cases whole
        exact .inl here
    | cons =>
        cases whole
        exact .inr ⟨_, name, after, rfl, here⟩
  · rintro (here | ⟨before, name, after, rfl, there⟩)
    · exact ⟨[], first, rest, rfl, here⟩
    · exact ⟨first :: before, name, after, rfl, there⟩

/-- Names that are given stay apart from each other and from those before them, unless one is asked
for when it was given and the longer one was given too. -/
theorem nodup_giveAll_append_iff {taken before : List String} (records : Records taken before)
    (apart : taken.Nodup) (names : List String) :
    (giveAll taken names ++ taken).Nodup ↔
      ¬ ∃ first name rest, names = first ++ name :: rest ∧
        Given (before ++ first) name ∧ Given (before ++ first) (name ++ "_") := by
  -- Going on to the next name keeps both hypotheses, unless the name that is given meets another.
  induction names generalizing taken before with
  | nil =>
      refine iff_of_true apart ?_
      rintro ⟨first, name, rest, whole, -⟩
      simp at whole
  | cons name rest ih =>
      rw [exists_split_cons_iff fun first name =>
        Given (before ++ first) name ∧ Given (before ++ first) (name ++ "_"), List.append_nil,
        ← give_mem_iff records]
      simp only [giveAll, List.cons_append]
      by_cases meets : give taken name ∈ taken
      · refine iff_of_false ?_ (not_not_intro (.inl meets))
        intro distinct
        exact (List.nodup_cons.1 distinct).1 (List.mem_append_right _ meets)
      · have later := ih records.give (List.nodup_cons.2 ⟨meets, apart⟩)
        rw [List.nodup_middle] at later
        simpa [meets] using later

/-- The names that are given are apart exactly if the names asked for are not crowded. -/
theorem nodup_giveAll_iff (names : List String) : (giveAll [] names).Nodup ↔ ¬ Crowded names := by
  have nothing : Records [] [] := fun _ => iff_of_false List.not_mem_nil not_given_nil
  have run := nodup_giveAll_append_iff nothing List.nodup_nil names
  simpa [Crowded] using run

/-! ## The fields of a class -/

/-- The fields of a class have the names that are given to those that their properties ask for. -/
theorem exists_asked_of_modelFields {models : Models} {schemaName : String}
    {required taken : List String} {properties : List (String × TypeRef)} {fields : List ModelField}
    (made : modelFields models schemaName required taken properties = .ok fields) :
    ∃ names,
      List.Forall₂ (fun declared name => member declared.1 (propertyReserved models) = .ok name)
        properties names ∧
      fields.map (·.name) = giveAll taken names := by
  induction properties generalizing taken fields with
  | nil =>
      cases made
      exact ⟨[], .nil, rfl⟩
  | cons declared rest ih =>
      obtain ⟨mapped, -, made⟩ := bind_eq_ok_iff.1 made
      obtain ⟨name, derived, made⟩ := bind_eq_ok_iff.1 made
      obtain ⟨more, later, made⟩ := bind_eq_ok_iff.1 made
      cases made
      obtain ⟨names, asked, given⟩ := ih later
      refine ⟨name :: names, .cons (mapError_eq_ok_iff.1 derived) asked, ?_⟩
      exact congrArg (give taken name :: ·) given

@[simp] theorem declared?_statement_name (field : ModelField) :
    (Member.statement field.statement).declared?.map (·.1) = some field.name := rfl

@[simp] theorem declared?_statement_alias? (field : ModelField) :
    (Member.statement field.statement).declared?.map (·.2.alias?) = some (some field.property) := by
  obtain ⟨name, property, required, type⟩ := field
  cases required <;> rfl

theorem declared_definition (model : Model) :
    model.definition.declared = model.fields.filterMap fun field =>
      (Member.statement field.statement).declared? := by
  simp only [ClassDefinition.declared, Model.definition]
  rw [List.filterMap_cons_none rfl, List.filterMap_map]
  rfl

/-- A class declares its fields under their names. -/
theorem map_name_declared_definition (model : Model) :
    model.definition.declared.map (·.1) = model.fields.map (·.name) := by
  rw [declared_definition, List.map_filterMap]
  simp only [declared?_statement_name, List.filterMap_eq_map']

/-- A class declares its fields for the properties that they belong to. -/
theorem map_alias?_declared_definition (model : Model) :
    model.definition.declared.map (·.2.alias?) = model.fields.map (some ·.property) := by
  rw [declared_definition, List.map_filterMap]
  simp only [declared?_statement_alias?, List.filterMap_eq_map']

/-- The class of a schema declares one field for each property, in their order.  Their names are
distinct exactly if the names that the properties ask for are not crowded. -/
theorem fieldNames_distinct_iff {models : Models} {schemaName : String} {schema : Schema}
    {model : Model} (made : Model.make models schemaName schema = .ok model) :
    model.definition.declared.map (·.2.alias?) = schema.properties.map (some ·.1) ∧
    ∃ names,
      List.Forall₂ (fun declared name => member declared.1 (propertyReserved models) = .ok name)
        schema.properties names ∧
      ((model.definition.declared.map (·.1)).Nodup ↔ ¬ Crowded names) := by
  obtain ⟨fields, done, rfl⟩ := map_eq_ok_iff.1 made
  constructor
  · rw [map_alias?_declared_definition, ← List.forall₂_eq_eq_eq, List.forall₂_map_left_iff,
      List.forall₂_map_right_iff]
    exact (forall₂_belongsTo_modelFields done).flip.imp fun _ _ belongs =>
      congrArg some belongs.property_eq
  · obtain ⟨names, asked, given⟩ := exists_asked_of_modelFields done
    refine ⟨names, asked, ?_⟩
    rw [map_name_declared_definition, given]
    exact nodup_giveAll_iff names

/-- Tagged things with two properties that ask for one field name. -/
def tagged : Schema where
  properties := [("tag-name", { type := some "string" }), ("tag_name", { type := some "string" })]

/-- The second property of tagged things is given the longer name, and no two fields meet. -/
theorem tagged_fieldNames_distinct :
    ∃ model, Model.make (.ofSchemas ["Tagged"]) "Tagged" tagged = .ok model ∧
      model.definition.declared.map (·.1) = ["tag_name", "tag_name_"] ∧
      model.definition.declared.map (·.2.alias?) = [some "tag-name", some "tag_name"] ∧
      (model.definition.declared.map (·.1)).Nodup := by
  have makes : (Model.make (.ofSchemas ["Tagged"]) "Tagged" tagged).toOption.map
      (·.definition.declared.map (·.1)) = some ["tag_name", "tag_name_"] := by
    decide +kernel
  have asks : (tagged.properties.mapM fun declared =>
      member declared.1 (propertyReserved (.ofSchemas ["Tagged"]))).toOption =
        some ["tag_name", "tag_name"] := by
    decide +kernel
  obtain ⟨model, made, given⟩ := toOption_map_eq_some_iff.1 makes
  obtain ⟨aliases, names, asked, apart⟩ := fieldNames_distinct_iff made
  cases (toOption_eq_some_iff.1 asks).symm.trans (mapM_eq_ok_iff.2 asked)
  refine ⟨model, made, given, aliases, apart.2 (not_crowded_of_pairs ?_ ?_)⟩ <;> decide

/-- The third of three properties that ask for one field name is given the name of the second. -/
theorem thrice_tagged_fieldNames_meet :
    ∃ model, Model.make (.ofSchemas ["pet"]) "pet"
        { properties := [("a-b", {}), ("a b", {}), ("a.b", {})] } = .ok model ∧
      model.definition.declared.map (·.1) = ["a_b", "a_b_", "a_b_"] ∧
      ¬ (model.definition.declared.map (·.1)).Nodup := by
  have makes : (Model.make (.ofSchemas ["pet"]) "pet"
      { properties := [("a-b", {}), ("a b", {}), ("a.b", {})] }).toOption.map
        (·.definition.declared.map (·.1)) = some ["a_b", "a_b_", "a_b_"] := by
    decide +kernel
  obtain ⟨model, made, given⟩ := toOption_map_eq_some_iff.1 makes
  refine ⟨model, made, given, ?_⟩
  rw [given]
  decide

end Bindery.Client
