import Bindery.Proofs.Reads
import Mathlib.Logic.Function.Iterate

/-!
# Annotations that are widened once

A declared type may ask for the absence of a value at each of its levels, and whoever uses its
annotation may ask for it again.  Whatever asks, and however often, absence is added once at each
level: every union in an annotation has a left side that is neither a union nor the type of any
value, and the annotation as a whole is a union exactly if it is known to admit absence.
-/

namespace Bindery.Code.Expr

/-- An expression that can be widened: it is neither a union nor spelled like the type of any
value. -/
structure Narrow (value : Expr) : Prop where
  not_union : ∀ left right, value ≠ .union left right
  not_any : value ≠ .name "Any"

/-- At every depth, a union widens a narrow expression by the absence of a value. -/
def WidensOnce (value : Expr) : Prop :=
  ∀ left right, .union left right ∈ value.parts → left.Narrow ∧ right = .none

@[simp] theorem widensOnce_name (id : String) : (name id).WidensOnce := by
  simp [WidensOnce, parts]

@[simp] theorem widensOnce_text (value : String) : (text value).WidensOnce := by
  simp [WidensOnce, parts]

@[simp] theorem widensOnce_int (value : Int) : (int value).WidensOnce := by
  simp [WidensOnce, parts]

@[simp] theorem widensOnce_subscript {generic index : Expr} :
    (subscript generic index).WidensOnce ↔ generic.WidensOnce ∧ index.WidensOnce := by
  simp only [WidensOnce, parts, List.cons_append, List.mem_cons, reduceCtorEq, false_or,
    List.mem_append, or_imp, forall_and]
  exact and_and_and_comm

@[simp] theorem widensOnce_tuple {items : List Expr} :
    (tuple items).WidensOnce ↔ ∀ item ∈ items, item.WidensOnce := by
  simp only [WidensOnce, parts, partsOfAll_eq_flatMap, List.mem_cons, reduceCtorEq, false_or,
    List.mem_flatMap]
  constructor
  · intro once item member left right inside
    exact once left right ⟨item, member, inside⟩
  · intro once left right inside
    obtain ⟨item, member, inside⟩ := inside
    exact once item member left right inside

/-- Widening a narrow expression keeps it widened once. -/
theorem WidensOnce.union {value : Expr} (once : value.WidensOnce) (narrow : value.Narrow) :
    (Expr.union value .none).WidensOnce := by
  intro left right inside
  simp only [parts, List.cons_append, List.mem_cons, List.mem_append, List.not_mem_nil,
    or_false, reduceCtorEq] at inside
  cases inside with
  | inl same =>
      cases same
      exact ⟨narrow, rfl⟩
  | inr below => exact once left right below

end Bindery.Code.Expr

namespace Bindery.Typing

open Bindery.Api Bindery.Code Bindery.Steps

/-! ## The normal form -/

/-- An annotation in normal form: absence is added at most once at each level, and the annotation is
known to admit it exactly if it is a union with it. -/
structure Mapped.Normal (type : Mapped) : Prop where
  once : type.expr.WidensOnce
  nullable_iff : type.nullable = true ↔ ∃ inner, type.expr = .union inner .none

/-- An annotation in normal form that is not known to admit absence can be widened. -/
theorem Mapped.Normal.narrow {type : Mapped} (normal : type.Normal)
    (admits : (type.nullable || type.isAny) = false) : type.expr.Narrow := by
  simp only [Bool.or_eq_false_iff] at admits
  constructor
  · intro left right isUnion
    have top : Expr.union left right ∈ type.expr.parts := by
      rw [isUnion]
      exact List.mem_cons_self
    have absent := (normal.once left right top).2
    have nullable := normal.nullable_iff.2 ⟨left, by rw [isUnion, absent]⟩
    rw [admits.1] at nullable
    cases nullable
  · intro isAny
    have spelled := admits.2
    simp [Mapped.isAny, isAny] at spelled

/-- Widening keeps the normal form. -/
theorem Mapped.Normal.optional {type : Mapped} (normal : type.Normal) : type.optional.Normal := by
  unfold Mapped.optional
  split
  · exact normal
  · next admits =>
      constructor
      · exact normal.once.union (normal.narrow (by simpa using admits))
      · simp

theorem Mapped.normal_literal (values : List EnumValue) : (Mapped.literal values).Normal := by
  obtain ⟨choices, shown, once⟩ : ∃ choices,
      (Mapped.literal values).expr = .subscript (.name "Literal") choices ∧
        choices.WidensOnce :=
    exists_choices_literal Expr.widensOnce_text Expr.widensOnce_int
      (fun _ => Expr.widensOnce_tuple.2) values
  constructor
  · simp [shown, once]
  · simp [Mapped.literal]

/-- Every way of making an annotation keeps the normal form. -/
theorem closed_normal (models : Models) : Closed models Mapped.Normal where
  any := ⟨by simp [Mapped.any], by simp [Mapped.any]⟩
  literal values := Mapped.normal_literal values
  primitive primitive := ⟨by simp [Primitive.mapped], by simp [Primitive.mapped]⟩
  model className _ := ⟨by simp [Mapped.model], by simp [Mapped.model]⟩
  listOf inner normal := ⟨by simp [Mapped.listOf, normal.once], by simp [Mapped.listOf]⟩
  dictOf inner normal := ⟨by simp [Mapped.dictOf, normal.once], by simp [Mapped.dictOf]⟩
  optional _ normal := normal.optional

/-! ## Widening again and again -/

/-- An annotation in normal form stays so however often it is widened. -/
theorem Mapped.Normal.iterate {type : Mapped} (normal : type.Normal) (count : Nat) :
    (Mapped.optional^[count] type).Normal := by
  induction count with
  | zero => exact normal
  | succ count ih =>
      rw [Function.iterate_succ_apply']
      exact ih.optional

/-- Messages do not say whether a declared type asks for absence. -/
theorem describe_withNullable (type : TypeRef) (nullable : Bool) :
    { type with nullable := nullable : TypeRef }.describe = type.describe := by
  cases type
  rw [TypeRef.describe.eq_def, TypeRef.describe.eq_def]

/-- The fields that decide about an annotation do not say whether it is widened. -/
theorem Models.bare_withNullable (models : Models) (type : TypeRef) (nullable : Bool) :
    models.bare { type with nullable := nullable } = models.bare type := by
  simp only [bare, describe_withNullable]

/-- A declared type that asks for absence is mapped to the widened annotation of the one that does
not ask, and fails where that fails. -/
theorem Models.map_nullable (models : Models) (type : TypeRef) :
    models.map { type with nullable := true } =
      (models.map { type with nullable := false }).map .optional := by
  rw [map_eq, map_eq, bare_withNullable, bare_withNullable]
  cases models.bare type with
  | ok core => rfl
  | error cause => rfl

/-- A declared type that asks for absence is mapped to the annotation of the one that does not ask,
widened.  Widening twice is widening once.  Whatever a declared type is mapped to is in normal form,
however often it is widened after that: at no depth is absence added to what has it already, and the
annotation is known to admit absence exactly if it is a union with it. -/
theorem widened_once (models : Models) (type : TypeRef) :
    models.map { type with nullable := true } =
        (models.map { type with nullable := false }).map .optional ∧
      (∀ mapped : Mapped, mapped.optional.optional = mapped.optional) ∧
      ∀ mapped, models.map type = .ok mapped →
        ∀ count, (Mapped.optional^[count] mapped).Normal := by
  refine ⟨models.map_nullable type, Mapped.optional_optional, ?_⟩
  intro mapped done count
  have normal := (closed_normal models).map type done
  exact normal.iterate count

/-- Maps of readings in a list, where the list, each map and each reading may be missing. -/
def readings : TypeRef where
  type := some "array"
  nullable := true
  items := some {
    type := some "object"
    nullable := true
    additionalProperties := some { nullable := true } }

/-- The list and its maps are widened once, though they are asked for absence again, and readings of
any type admit absence anyway. -/
theorem readings_widened_once :
    ∃ mapped, (Models.ofSchemas []).map readings = .ok mapped ∧
      mapped.optional.optional.render = "list[dict[str, Any] | None] | None" ∧
      ∀ count, (Mapped.optional^[count] mapped).Normal := by
  have shown : ((Models.ofSchemas []).map readings).toOption.map (·.optional.optional.render) =
      some "list[dict[str, Any] | None] | None" := by
    decide +kernel
  obtain ⟨mapped, done, shown⟩ := toOption_map_eq_some_iff.1 shown
  exact ⟨mapped, done, shown, (widened_once (.ofSchemas []) readings).2.2 mapped done⟩

end Bindery.Typing
