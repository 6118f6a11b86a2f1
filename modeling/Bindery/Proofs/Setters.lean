import Bindery.Proofs.Absence
import Bindery.Proofs.Refusals

/-!
# Setters that take any value

A setter of a builder takes values of the type that the parameter is declared with, and stores them
as they are.  Only a setter for plain texts takes any value and makes a text of it.  Whether a
setter is one is noted deep in the mapping of declared types and read off the note much later, by
code that does not see the declared type any more.  Here the note is compared with the declared type
itself and with the annotation that the field of the options class has.
-/

namespace Bindery.Code

/-- A method that takes a value of some type, stores what it makes of the value under its own name
and returns its object. -/
structure Function.Sets (key : String) (taken stored : Expr) (function : Function) : Prop where
  name_eq : function.name = key
  arguments_eq : function.arguments = ⟨[⟨"self", none⟩, ⟨"value", some taken⟩], []⟩
  body_eq : function.body = [
    .assign (.field (.call (.field (.name "self") "_current") [] []) key) stored,
    .result (.name "self")]

/-- A method stores one thing. -/
theorem Function.Sets.stored_unique {key other : String} {taken taken' stored stored' : Expr}
    {function : Function} (first : function.Sets key taken stored)
    (second : function.Sets other taken' stored') : stored = stored' := by
  have same := first.body_eq.symm.trans second.body_eq
  cases same
  rfl

/-- The value of a setter as a text, except that the absence of a value stays. -/
def textOfValue : Expr :=
  .conditional (.call (.name "str") [.name "value"] []) (.isNot (.name "value") .none) .none

end Bindery.Code

namespace Bindery.Typing

open Bindery.Api Bindery.Code Bindery.Naming Bindery.Steps

/-! ## Declared types for plain texts -/

/-- The formats that make something else of a text. -/
def scalarFormats : List String := ["date-time", "date", "uuid", "binary", "byte"]

/-- A declared type for plain texts, which may be absent: it is neither a reference nor an
enumeration, and its format does not make something else of it. -/
structure DeclaresText (type : TypeRef) : Prop where
  named : Named type "string"
  format : ∀ format ∈ type.format, format ∉ scalarFormats

theorem declaresText_iff {type : TypeRef} :
    DeclaresText type ↔ (type.ref = none ∧ type.enum.getD [] = [] ∧ type.type = some "string") ∧
      ∀ format ∈ type.format, format ∉ scalarFormats :=
  ⟨fun declares => ⟨⟨declares.named.ref, declares.named.enum, declares.named.type⟩,
    declares.format⟩, fun ⟨⟨ref, enum, type⟩, format⟩ => ⟨⟨ref, enum, type⟩, format⟩⟩

instance : DecidablePred DeclaresText := fun _ => decidable_of_iff' _ declaresText_iff

theorem find?_eq_text_iff {name : String} {format : Option String} :
    Primitive.find? name format = some .text ↔
      name = "string" ∧ ∀ known ∈ format, known ∉ scalarFormats := by
  unfold Primitive.find?
  split
  · split
    case h_6 none_known =>
      refine iff_of_true rfl ⟨rfl, ?_⟩
      rintro known rfl
      simp_all [scalarFormats]
    all_goals simp [scalarFormats]
  · simp
  · simp
  · simp
  · simp_all

variable {models : Models} {type : TypeRef} {core mapped : Mapped}

/-- One step of the mapping notes that a type is for plain texts exactly if it is declared so. -/
theorem Step.isText_iff (step : Step models type (.ok core)) :
    core.isText = true ↔ DeclaresText type := by
  have other (noText : core.isText = false) (notDeclared : ¬ DeclaresText type) :
      core.isText = true ↔ DeclaresText type := by
    simp [noText, notDeclared]
  cases step with
  | reference isReference =>
      refine other rfl fun declares => ?_
      simp [declares.named.ref] at isReference
  | enumeration _ shown =>
      refine other rfl fun declares => ?_
      simp [declares.named.enum] at shown
  | unnamed _ _ nameless =>
      refine other rfl fun declares => ?_
      simp [declares.named.type] at nameless
  | array named | object named | openObject named =>
      exact other rfl fun declares => absurd (named.unique declares.named) (by decide)
  | @scalar name primitive named found =>
      have isText : primitive.mapped.isText = true ↔ primitive = .text := by
        simp [Primitive.mapped]
      rw [isText]
      constructor
      · rintro rfl
        obtain ⟨rfl, format⟩ := find?_eq_text_iff.1 found
        exact ⟨named, format⟩
      · intro declares
        obtain rfl := named.unique declares.named
        exact Option.some.inj (found.symm.trans (find?_eq_text_iff.2 ⟨rfl, declares.format⟩))

/-- The mapping notes that a type is for plain texts exactly if it is declared so. -/
theorem isText_iff_declaresText (done : models.map type = .ok mapped) :
    mapped.isText = true ↔ DeclaresText type := by
  obtain ⟨core, step, rfl⟩ := exists_step_of_map done
  rw [← step.isText_iff]
  split
  · rw [Mapped.optional_isText]
  · rfl

/-! ## The annotation of plain texts -/

/-- One step of the mapping comes to an annotation that is not yet widened. -/
theorem Step.nullable_eq_false (step : Step models type (.ok core)) : core.nullable = false := by
  cases step <;> rfl

/-- One step of the mapping comes to the annotation of texts exactly if it notes that. -/
theorem Step.expr_eq_str_iff {schemas : List String}
    (step : Step (.ofSchemas schemas) type (.ok core)) :
    core.expr = .name "str" ↔ core.isText = true := by
  cases step with
  | @reference ref name _ isClass =>
      refine iff_of_false ?_ Bool.false_ne_true
      simp only [className?_ofSchemas] at isClass
      split at isClass <;> cases isClass
      intro same
      exact className_ne_of_isLower (by decide) _ (Expr.name.inj same)
  | enumeration | array | object | openObject =>
      exact iff_of_false nofun Bool.false_ne_true
  | unnamed => exact iff_of_false (by simp [Mapped.any]) Bool.false_ne_true
  | @scalar name primitive => cases primitive <;> simp [Primitive.mapped, Primitive.name]

/-- An annotation that is not yet widened is widened to that of texts exactly if it is theirs. -/
theorem optional_expr_eq_str_iff (narrow : core.nullable = false) :
    core.optional.expr = .union (.name "str") .none ↔ core.expr = .name "str" := by
  unfold Mapped.optional
  split
  · next admits =>
      rw [narrow, Bool.false_or] at admits
      constructor <;> intro same <;> simp [Mapped.isAny, same] at admits
  · simp

/-- The widened annotation of a declared type is that of texts that may be absent exactly if the
type is declared for plain texts. -/
theorem optional_expr_iff_declaresText {schemas : List String}
    (done : (Models.ofSchemas schemas).map type = .ok mapped) :
    mapped.optional.expr = .union (.name "str") .none ↔ DeclaresText type := by
  obtain ⟨core, step, widened⟩ := exists_step_of_map done
  rw [optional_eq_of_widened widened, optional_expr_eq_str_iff step.nullable_eq_false,
    step.expr_eq_str_iff, step.isText_iff]

end Bindery.Typing

namespace Bindery.Client

open Bindery.Api Bindery.Code Bindery.Plan Bindery.Steps Bindery.Typing

/-! ## The setters of an operation -/

theorem sets_setterFunction (builder : String) (setter : Setter) :
    (setterFunction builder setter).Sets setter.name (setterTypeExpr setter)
      (setterValue setter) :=
  ⟨rfl, rfl, rfl⟩

/-- The method of a setter takes any value and makes a text of it exactly if the setter says so. -/
theorem sets_text_iff (builder : String) (setter : Setter) :
    (setterFunction builder setter).Sets setter.name (.name "object") textOfValue ↔
      setter.converts = true := by
  have sets := sets_setterFunction builder setter
  cases converts : setter.converts with
  | true =>
      rw [setterTypeExpr, setterValue, if_pos converts, if_pos converts] at sets
      exact iff_of_true sets rfl
  | false =>
      refine iff_of_false (fun text => ?_) Bool.false_ne_true
      have stored := sets.stored_unique text
      rw [setterValue, if_neg (by simp [converts])] at stored
      cases stored

/-- Any other setter takes values of the type of its field and stores them as they are. -/
theorem sets_value {setter : Setter} (builder : String) (keeps : setter.converts = false) :
    (setterFunction builder setter).Sets setter.name setter.field.type.expr (.name "value") := by
  have sets := sets_setterFunction builder setter
  have keeps : ¬ setter.converts = true := by simp [keeps]
  rwa [setterTypeExpr, setterValue, if_neg keeps, if_neg keeps] at sets

theorem map_fst_annotated_optionsClass (options : Options) (builder : Builder) :
    (optionsClass options builder).definition.annotated.map (·.1) =
      options.fields.map (·.optionalType.expr) := by
  rw [annotated_optionsClass, List.map_filterMap, ← List.filterMap_eq_map]
  rfl

/-- What is emitted for a parameter by the builder and the options class agrees with the type that
it is declared with: exactly if that is for plain texts, the setter is for any value, its method
makes a text of the value, and the field has the annotation of texts that may be absent.  Else the
method takes values of the type that the declared one is mapped to and stores them as they are. -/
structure SetsDeclared (models : Models) (type : TypeRef) (setter : Setter) (method : Function)
    (shown : Expr) : Prop where
  converts_iff : setter.converts = true ↔ DeclaresText type
  sets_text_iff : method.Sets setter.name (.name "object") textOfValue ↔ DeclaresText type
  shown_iff : shown = .union (.name "str") .none ↔ DeclaresText type
  sets_value : ¬ DeclaresText type → ∃ mapped, models.map type = .ok mapped ∧
    method.Sets setter.name mapped.expr (.name "value")

variable {schemas reserved : List String} {operation : Operation} {plan : OperationPlan}
  {variant : Variant}

/-- The setter of a field, its method and the annotation of the field agree with the type that the
field's parameter is declared with. -/
theorem setsDeclared_of_belongsTo {parameter : Parameter} {field : Field}
    (belongs : field.BelongsTo ⟨variant, .ofSchemas schemas, reserved⟩ parameter)
    (builder : String) :
    SetsDeclared (.ofSchemas schemas) parameter.type ⟨field, field.type.isText⟩
      (setterFunction builder ⟨field, field.type.isText⟩) field.optionalType.expr := by
  have isText := isText_iff_declaresText belongs.map_eq
  constructor
  case converts_iff => exact isText
  case sets_text_iff => rw [sets_text_iff, isText]
  case shown_iff => exact optional_expr_iff_declaresText belongs.map_eq
  case sets_value =>
    intro other
    rw [← isText, Bool.not_eq_true] at other
    exact ⟨field.type, belongs.map_eq, sets_value builder other⟩

/-- What stands at one position of the setters, their methods and the fields of a plan's options
agrees with the declared type of the parameter at that position. -/
theorem exists_setsDeclared_of_gathers {options : Options} {builder : Builder}
    (gathers : plan.Gathers ⟨variant, .ofSchemas schemas, reserved⟩ operation options builder)
    {index : Nat} {parameter : Parameter} (found : operation.parameters[index]? = some parameter) :
    ∃ setter method field,
      builder.setters[index]? = some setter ∧
      (builder.setters.map (setterFunction builder.name))[index]? = some method ∧
      (optionsClass options builder).definition.annotated[index]? = some field ∧
      SetsDeclared (.ofSchemas schemas) parameter.type setter method field.1 := by
  obtain ⟨field, belongs, -, inFields, inSetters, -⟩ := gathers.position index parameter found
  have shown : ((optionsClass options builder).definition.annotated.map (·.1))[index]? =
      some field.optionalType.expr := by
    rw [map_fst_annotated_optionsClass, List.getElem?_map, inFields]
    rfl
  rw [List.getElem?_map, Option.map_eq_some_iff] at shown
  obtain ⟨declared, inClass, shown⟩ := shown
  have inMethods : (builder.setters.map (setterFunction builder.name))[index]? =
      some (setterFunction builder.name ⟨field, field.type.isText⟩) := by
    rw [List.getElem?_map, inSetters]
    rfl
  exact ⟨_, _, declared, inSetters, inMethods, inClass,
    shown ▸ setsDeclared_of_belongsTo belongs builder.name⟩

/-- The options of an operation that is planned and has parameters have a setter for each of these,
a method for each setter and an annotated field for each setter, and what stands at one position
agrees with the type that the parameter at this position is declared with. -/
theorem setters_agree_with_declared_types (some_parameter : operation.parameters ≠ [])
    (planned : Plan.plan ⟨.options, .ofSchemas schemas, reserved⟩ operation = .ok plan) :
    ∃ options builder start finish methods,
      plan.options = some options ∧ plan.builder = some builder ∧
      (builderClass builder).definition.methods = start :: methods ++ [finish] ∧
      builder.setters.length = operation.parameters.length ∧
      methods.length = operation.parameters.length ∧
      (optionsClass options builder).definition.annotated.length = operation.parameters.length ∧
      ∀ (index : Nat) (parameter : Parameter), operation.parameters[index]? = some parameter →
        ∃ setter method field,
          builder.setters[index]? = some setter ∧ methods[index]? = some method ∧
          (optionsClass options builder).definition.annotated[index]? = some field ∧
          SetsDeclared (.ofSchemas schemas) parameter.type setter method field.1 := by
  obtain ⟨names, types, resolved, mapped, rfl⟩ := plan_eq_ok_iff.1 planned
  have uses : Setting.usesOptions ⟨.options, .ofSchemas schemas, reserved⟩ operation = true :=
    usesOptions_eq_true_iff.2 ⟨rfl, some_parameter⟩
  rw [uses] at resolved
  have gathers := gathers_assemble resolved mapped resolved.optionsClass
  obtain ⟨start, finish, -, -, methods⟩ := exists_methods_builderClass (.make _)
  refine ⟨_, _, start, finish, _, gathers.options_eq, gathers.builder_eq, methods,
    gathers.length_setters, ?_, ?_, fun index parameter => exists_setsDeclared_of_gathers gathers⟩
  · rw [List.length_map, gathers.length_setters]
  · rw [← List.length_map (f := (·.1)), map_fst_annotated_optionsClass, List.length_map,
      gathers.length_fields]

/-- An operation with one parameter for plain texts, which may be absent, and with others whose
types have to do with texts: two that make something else of them, a reference to a schema that is
called like their annotation, and a list of them. -/
def admitPet : Operation where
  name := "admit-pet"
  parameters := [
    { name := "note", location := .query,
      type := {
        type := some "string", format := some "email", enum := some [], nullable := true } },
    { name := "born", location := .query,
      type := { type := some "string", format := some "date" } },
    { name := "size", location := .query,
      type := { type := some "string", enum := some [.text "small"] } },
    { name := "owner", location := .body, type := { type := some "string", ref := some "str" } },
    { name := "tags", location := .query,
      type := { type := some "array", items := some { type := some "string" } } }]

/-- The setter for plain texts is the only one that takes any value. -/
theorem admitPet_setters_agree :
    admitPet.parameters ≠ [] ∧
    (∀ parameter ∈ admitPet.parameters, DeclaresText parameter.type ↔ parameter.name = "note") ∧
    ∃ plan options builder start finish methods,
      Plan.plan ⟨.options, .ofSchemas ["str"], []⟩ admitPet = .ok plan ∧
      plan.options = some options ∧ plan.builder = some builder ∧
      (builderClass builder).definition.methods = start :: methods ++ [finish] ∧
      builder.setters.map (·.converts) = [true, false, false, false, false] ∧
      ∀ (index : Nat) (parameter : Parameter), admitPet.parameters[index]? = some parameter →
        ∃ setter method field,
          builder.setters[index]? = some setter ∧ methods[index]? = some method ∧
          (optionsClass options builder).definition.annotated[index]? = some field ∧
          SetsDeclared (.ofSchemas ["str"]) parameter.type setter method field.1 := by
  have converts : ((Plan.plan ⟨.options, .ofSchemas ["str"], []⟩ admitPet).toOption.bind
      (·.builder)).map (fun builder => builder.setters.map (·.converts)) =
        some [true, false, false, false, false] := by
    decide +kernel
  obtain ⟨builder, isBuilder, converts⟩ := Option.map_eq_some_iff.1 converts
  obtain ⟨plan, planned, built⟩ := toOption_bind_eq_some_iff.1 isBuilder
  have some_parameter : admitPet.parameters ≠ [] := List.cons_ne_nil _ _
  obtain ⟨options, other, start, finish, methods, found, same, between, -, -, -, agree⟩ :=
    setters_agree_with_declared_types some_parameter planned
  cases built.symm.trans same
  exact ⟨some_parameter, by decide, plan, options, builder, start, finish, methods, planned, found,
    built, between, converts, agree⟩

end Bindery.Client
