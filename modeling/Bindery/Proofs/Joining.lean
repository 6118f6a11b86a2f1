import Bindery.Client.Request
import Bindery.Proofs.Mapping

/-!
# Values that are joined

An array may be sent as one text, its items joined.  Two places decide whether a parameter is an
array: the mapping of its type, where a reference and an enumeration go before the name of the type,
and the request, which looks at the name alone.  They disagree about a type that is called an array
and is something else.
-/

namespace Bindery.Typing

open Bindery.Api Bindery.Code Bindery.Steps

/-! ## Lists -/

/-- An annotation for lists, or for lists that may be absent. -/
def Mapped.IsList (type : Mapped) : Prop :=
  ∃ item, type.expr = .subscript (.name "list") item ∨
    type.expr = .union (.subscript (.name "list") item) .none

/-- Widening an annotation that is no union makes a list of it exactly if it is one already. -/
theorem isList_widened_iff {core : Mapped} (bare : ∀ left right, core.expr ≠ .union left right)
    (nullable : Bool) :
    (if nullable then core.optional else core).IsList ↔
      ∃ item, core.expr = .subscript (.name "list") item := by
  have itself : core.IsList ↔ ∃ item, core.expr = .subscript (.name "list") item := by
    simp only [Mapped.IsList, bare, or_false]
  cases nullable with
  | false => exact itself
  | true =>
      simp only [if_true, Mapped.optional]
      split
      · exact itself
      · simp [Mapped.IsList]

/-- A declared type is mapped to lists exactly if it is called an array, and no reference and no
enumeration goes before. -/
theorem isList_iff {models : Models} {type : TypeRef} {mapped : Mapped}
    (done : models.map type = .ok mapped) : mapped.IsList ↔ Named type "array" := by
  obtain ⟨core, step, widened⟩ := exists_step_of_map done
  have bare : ∀ left right, core.expr ≠ .union left right := by
    cases step <;> simp [Mapped.model, Mapped.literal, Mapped.any, Mapped.listOf, Mapped.dictOf,
      Primitive.mapped]
  rw [← widened, isList_widened_iff bare]
  cases step with
  | array named => simp [Mapped.listOf, named]
  | reference isReference =>
      apply iff_of_false
      · simp [Mapped.model]
      · intro named
        simp [named.ref] at isReference
  | enumeration _ shown =>
      apply iff_of_false
      · simp [Mapped.literal]
      · intro named
        simp [named.enum] at shown
  | unnamed _ _ nameless =>
      apply iff_of_false
      · simp [Mapped.any]
      · intro named
        simp [named.type] at nameless
  | object named | openObject named =>
      apply iff_of_false
      · simp [Mapped.dictOf]
      · intro other
        exact absurd (other.unique named) (by decide)
  | scalar named found =>
      apply iff_of_false
      · simp [Primitive.mapped]
      · intro other
        rw [named.unique other] at found
        cases found

end Bindery.Typing

namespace Bindery.Client

open Bindery.Api Bindery.Code Bindery.Plan Bindery.Steps Bindery.Typing

/-! ## Joined values -/

/-- The formats that write an array as one text. -/
def joiningFormats : List CollectionFormat := [.csv, .ssv, .tsv, .pipes]

/-- The value that is sent for a parameter is its local, joined by a format. -/
def Joined (binding : Binding) (format : CollectionFormat) : Prop :=
  wireValue binding =
    .call (.name "format_collection") [.name binding.name, .text format.label] []

/-- The value of a parameter is joined by its format, if this is one that joins, whenever its type
is called an array. -/
theorem joined_iff {binding : Binding} {format : CollectionFormat} :
    Joined binding format ↔ binding.parameter.collectionFormat = some format ∧
      format ∈ joiningFormats ∧ binding.parameter.type.type = some "array" := by
  simp only [Joined, wireValue]
  cases binding.parameter.collectionFormat with
  | none => simp
  | some declared =>
      by_cases array : binding.parameter.type.type = some "array"
      · cases declared <;> cases format <;> simp [array, joiningFormats, CollectionFormat.label]
      · cases declared <;> simp [array]

/-- A value that is not joined is the local itself. -/
theorem wireValue_eq_or_joined (binding : Binding) :
    wireValue binding = .name binding.name ∨ ∃ format, Joined binding format := by
  simp only [Joined, wireValue]
  cases binding.parameter.collectionFormat with
  | none => exact .inl rfl
  | some declared =>
      by_cases array : binding.parameter.type.type = some "array"
      · cases declared with
        | multi => exact .inl rfl
        | csv | ssv | tsv | pipes => exact .inr ⟨_, if_pos array⟩
      · cases declared with
        | multi => exact .inl rfl
        | csv | ssv | tsv | pipes => exact .inl (if_neg array)

/-- What overrules the name of a declared type: a reference or an enumeration. -/
def Overruled (type : TypeRef) : Prop := type.ref ≠ none ∨ type.enum.getD [] ≠ []

theorem named_iff {type : TypeRef} {name : String} :
    Named type name ↔ type.type = some name ∧ ¬ Overruled type := by
  simp only [Overruled, not_or, not_not]
  constructor
  · intro named
    exact ⟨named.type, named.ref, named.enum⟩
  · intro parts
    exact ⟨parts.2.1, parts.2.2, parts.1⟩

/-- The value of a parameter is joined exactly if its format is one that joins and its type is
called an array, and is sent as it is otherwise.  The annotation of the parameter is a list under
the same name, but only if no reference and no enumeration goes before.  So the parameters whose
values are joined are those with lists, unless there is a format that joins and the type is called
an array beside a reference or an enumeration: then a value that is no list is joined. -/
theorem joined_iff_list_iff {models : Models} {binding : Binding} {mapped : Mapped}
    (done : models.map binding.parameter.type = .ok mapped) :
    (∀ format, Joined binding format ↔ binding.parameter.collectionFormat = some format ∧
      format ∈ joiningFormats ∧ binding.parameter.type.type = some "array") ∧
    ((∀ format, ¬ Joined binding format) → wireValue binding = .name binding.name) ∧
    (mapped.IsList ↔
      binding.parameter.type.type = some "array" ∧ ¬ Overruled binding.parameter.type) ∧
    ((∀ format, Joined binding format ↔ binding.parameter.collectionFormat = some format ∧
        format ∈ joiningFormats ∧ mapped.IsList) ↔
      ¬ ((∃ format ∈ joiningFormats, binding.parameter.collectionFormat = some format) ∧
        binding.parameter.type.type = some "array" ∧ Overruled binding.parameter.type)) := by
  have list : mapped.IsList ↔ binding.parameter.type.type = some "array" ∧
      ¬ Overruled binding.parameter.type := (isList_iff done).trans named_iff
  refine ⟨fun _ => joined_iff, ?_, list, ?_⟩
  · intro plain
    cases wireValue_eq_or_joined binding with
    | inl same => exact same
    | inr joined =>
        obtain ⟨format, joined⟩ := joined
        exact absurd joined (plain format)
  · simp only [joined_iff, list]
    constructor
    · intro same both
      obtain ⟨⟨format, joins, declared⟩, array, overruled⟩ := both
      have agreed := (same format).1 ⟨declared, joins, array⟩
      exact agreed.2.2.2 overruled
    · intro clear format
      constructor
      · intro joined
        obtain ⟨declared, joins, array⟩ := joined
        refine ⟨declared, joins, array, ?_⟩
        intro overruled
        exact clear ⟨⟨format, joins, declared⟩, array, overruled⟩
      · intro listed
        exact ⟨listed.1, listed.2.1, listed.2.2.1⟩

/-- Tags that are sent as one text. -/
def tags : Parameter where
  name := "tags"
  location := .query
  type := { type := some "array", items := some { type := some "string" }, nullable := true }
  collectionFormat := some .csv

/-- Tags are a list, which may be absent, and they are joined. -/
theorem tags_joined :
    ∃ mapped, (Models.ofSchemas []).map tags.type = .ok mapped ∧
      mapped.render = "list[str] | None" ∧ mapped.IsList ∧
      Joined ⟨"tags", tags, mapped, .argument⟩ .csv := by
  have shown : ((Models.ofSchemas []).map tags.type).toOption.map (·.render) =
      some "list[str] | None" := by
    decide +kernel
  obtain ⟨mapped, done, shown⟩ := toOption_map_eq_some_iff.1 shown
  have facts := @joined_iff_list_iff _ ⟨"tags", tags, mapped, .argument⟩ mapped done
  have notOverruled : ¬ Overruled tags.type := by simp [Overruled, tags]
  exact ⟨mapped, done, shown, facts.2.2.1.2 ⟨rfl, notOverruled⟩,
    (facts.1 .csv).2 ⟨rfl, by decide, rfl⟩⟩

/-- The order of a result: one of two texts, called an array by mistake. -/
def order : Parameter where
  name := "order"
  location := .query
  type := {
    type := some "array"
    items := some { type := some "string" }
    enum := some [.text "asc", .text "desc"] }
  collectionFormat := some .csv

/-- The order is no list, and yet it is joined. -/
theorem order_joined :
    (Models.ofSchemas []).map order.type = .ok (.literal [.text "asc", .text "desc"]) ∧
      ¬ (Mapped.literal [.text "asc", .text "desc"]).IsList ∧
      ∀ mapped source, wireValue ⟨"order", order, mapped, source⟩ =
        .call (.name "format_collection") [.name "order", .text "csv"] [] := by
  refine ⟨rfl, ?_, ?_⟩
  · simp [Mapped.IsList, Mapped.literal]
  · intro mapped source
    rfl

end Bindery.Client
