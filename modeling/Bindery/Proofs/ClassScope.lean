import Bindery.Proofs.Scope

/-!
# What the bodies of classes capture

The body of a class runs from top to bottom, and whatever it has bound hides the same name from all
that it reads afterwards.  The fields of an options class and the setters of a builder class are
bound under arbitrary names.  They keep clear of everything that annotations of parameters read, but
nothing keeps them clear of three other names that the two bodies read after them: the decorator of
the method that starts a builder, the annotation of setters for plain texts, and the options class
that a builder ends in.
-/

namespace Bindery.Code

/-! ## Bodies that run -/

/-- What the body of a class does with a name. -/
inductive ScopeStep where
  | read (name : String)
  | bind (name : String)
  deriving DecidableEq, Repr

/-- The names that are read to define a function: by its decorators, the defaults of its arguments
and its annotations.  What stands in quotes is not read then. -/
def Function.evaluated (function : Function) : List String :=
  function.decorators.flatMap Expr.reads ++
    function.arguments.keywordOnly.flatMap (·.2.reads) ++
    (function.arguments.annotations ++ function.returns.toList).flatMap Expr.reads

/-- What a statement in the body of a class does with names, in its order.  A declaration reads its
annotation when the value is bound already. -/
def Statement.scopeSteps : Statement → List ScopeStep
  | declare id type value => value.reads.map .read ++ .bind id :: type.reads.map .read
  | statement => statement.reads.map .read ++ statement.binds.map .bind

/-- What a member of a class does with names. -/
def Member.scopeSteps : Member → List ScopeStep
  | .statement line => line.scopeSteps
  | .method function => function.evaluated.map .read ++ [.bind function.name]

/-- What the body of a class does with names when it runs. -/
def ClassDefinition.scopeSteps (definition : ClassDefinition) : List ScopeStep :=
  definition.body.flatMap (·.scopeSteps)

/-- A name that is bound and read later on: what is read there is what has been bound. -/
def Captured (name : String) (steps : List ScopeStep) : Prop :=
  List.Sublist [ScopeStep.bind name, .read name] steps

instance (name : String) (steps : List ScopeStep) : Decidable (Captured name steps) :=
  inferInstanceAs (Decidable (List.Sublist _ _))

/-- The body of a class reads a name that it has bound itself. -/
def ClassDefinition.Captures (definition : ClassDefinition) (name : String) : Prop :=
  Captured name definition.scopeSteps

instance (definition : ClassDefinition) (name : String) : Decidable (definition.Captures name) :=
  inferInstanceAs (Decidable (Captured _ _))

variable {name : String} {first second steps : List ScopeStep}

theorem Captured.bind_mem (captured : Captured name steps) : .bind name ∈ steps :=
  captured.subset List.mem_cons_self

theorem Captured.read_mem (captured : Captured name steps) : .read name ∈ steps :=
  captured.subset (List.mem_cons_of_mem _ List.mem_cons_self)

/-- A name is captured in one part of a body, in the other, or from the one to the other. -/
theorem captured_append :
    Captured name (first ++ second) ↔
      Captured name first ∨ (.bind name ∈ first ∧ .read name ∈ second) ∨ Captured name second := by
  constructor
  · intro captured
    obtain ⟨before, after, parts, inFirst, inSecond⟩ := List.sublist_append_iff.1 captured
    match before with
    | [] =>
        cases parts
        exact .inr (.inr inSecond)
    | [bound] =>
        cases parts
        have bound := List.singleton_sublist.1 inFirst
        exact .inr (.inl ⟨bound, List.singleton_sublist.1 inSecond⟩)
    | bound :: read :: more =>
        obtain ⟨rfl, rest⟩ := List.cons.inj parts
        obtain ⟨rfl, -⟩ := List.cons.inj rest
        exact .inl ((List.sublist_append_left [_, _] more).trans inFirst)
  · rintro (inFirst | ⟨bound, read⟩ | inSecond)
    · exact inFirst.trans (List.sublist_append_left first second)
    · exact (List.singleton_sublist.2 bound).append (List.singleton_sublist.2 read)
    · exact inSecond.trans (List.sublist_append_right first second)

/-- Where no item captures a name by itself, the name is captured exactly if an item binds it and a
later one reads it. -/
theorem captured_flatMap_iff {α : Type} {items : List α} {run : α → List ScopeStep}
    (alone : ∀ item ∈ items, ¬ Captured name (run item)) :
    Captured name (items.flatMap run) ↔
      ∃ item later, List.Sublist [item, later] items ∧
        .bind name ∈ run item ∧ .read name ∈ run later := by
  induction items with
  | nil => simp [Captured]
  | cons head rest ih =>
      rw [List.flatMap_cons, captured_append,
        ih fun item member => alone item (List.mem_cons_of_mem head member)]
      constructor
      · rintro (here | ⟨bound, read⟩ | ⟨item, later, inRest, bound, read⟩)
        · exact absurd here (alone head List.mem_cons_self)
        · obtain ⟨later, inRest, read⟩ := List.mem_flatMap.1 read
          exact ⟨head, later, (List.singleton_sublist.2 inRest).cons_cons head, bound, read⟩
        · exact ⟨item, later, inRest.cons head, bound, read⟩
      · rintro ⟨item, later, ordered, bound, read⟩
        cases ordered with
        | cons _ inRest => exact .inr (.inr ⟨item, later, inRest, bound, read⟩)
        | cons_cons _ inRest =>
            have member := List.singleton_sublist.1 inRest
            exact .inr (.inl ⟨bound, List.mem_flatMap_of_mem member read⟩)

end Bindery.Code

namespace Bindery.Client

open Bindery.Api Bindery.Code Bindery.Naming Bindery.Plan Bindery.Steps Bindery.Typing

variable {name : String}

/-! ## Fields and setters -/

/-- The declaration of a field binds the field. -/
theorem bind_mem_scopeSteps_fieldStatement {field : Field} :
    .bind name ∈ (fieldStatement field).scopeSteps ↔ name = field.name := by
  simp [fieldStatement, Statement.scopeSteps]

/-- A name that a member may have is not read by the declaration of a field. -/
theorem read_not_mem_scopeSteps_fieldStatement {field : Field} (notField : name ≠ "Field")
    (unread : name ∉ field.optionalType.expr.reads) :
    .read name ∉ (fieldStatement field).scopeSteps := by
  cases described : fieldDescription? field <;>
    simp [fieldStatement, Statement.scopeSteps, described, notField, unread]

/-- A setter binds its name after it has read the annotation of its value. -/
theorem scopeSteps_setterMethod (builder : String) (setter : Setter) :
    (setterMethod builder setter).scopeSteps =
      (setterTypeExpr setter).reads.map .read ++ [.bind setter.name] := by
  simp [setterMethod, method, Member.scopeSteps, Function.evaluated, Arguments.annotations]

theorem bind_mem_scopeSteps_setterMethod {builder : String} {setter : Setter} :
    .bind name ∈ (setterMethod builder setter).scopeSteps ↔ name = setter.name := by
  simp [scopeSteps_setterMethod]

theorem not_captured_setterMethod {builder : String} {setter : Setter} :
    ¬ Captured name (setterMethod builder setter).scopeSteps := by
  rw [scopeSteps_setterMethod, captured_append]
  rintro (captured | ⟨bound, -⟩ | captured)
  · simpa using captured.bind_mem
  · simp at bound
  · simpa using captured.read_mem

/-- A setter reads a name that annotations of parameters do not read exactly if it is for plain
texts and the name is that of the type of all objects. -/
theorem read_mem_scopeSteps_setterMethod {builder : String} {setter : Setter}
    (unread : name ∉ setter.field.type.expr.reads) :
    .read name ∈ (setterMethod builder setter).scopeSteps ↔
      name = "object" ∧ setter.converts = true := by
  rw [scopeSteps_setterMethod]
  simp only [setterTypeExpr]
  split
  · next converts => simp [converts]
  · next keeps => simp [keeps, unread]

/-! ## The two classes -/

variable {options : Options}

theorem scopeSteps_optionsClass (builder : Builder) :
    (optionsClass options builder).definition.scopeSteps =
      [.read "ConfigDict", .bind "model_config"] ++
        options.fields.flatMap (fun field => (fieldStatement field).scopeSteps) ++
        [.read "classmethod", .bind "builder"] := by
  simp [ClassDefinition.scopeSteps, optionsClass, Member.scopeSteps, Statement.scopeSteps,
    Statement.reads, Statement.binds, builderMethod, Function.evaluated, Arguments.annotations,
    List.flatMap_map]

theorem scopeSteps_builderClass (options : Options) :
    (builderClass (.make options)).definition.scopeSteps =
      [.bind "__slots__", .bind "__init__"] ++
        options.fields.flatMap (fun field =>
          (setterMethod (Builder.make options).name ⟨field, field.type.isText⟩).scopeSteps) ++
        [.read options.name, .bind "build"] := by
  simp [ClassDefinition.scopeSteps, builderClass, Builder.make, method, Member.scopeSteps,
    Statement.scopeSteps, Statement.reads, Statement.binds, Function.evaluated,
    Arguments.annotations, List.flatMap_map]

/-- The options class captures, among the names that its fields may have, that of the decorator of
its method. -/
theorem captures_optionsClass_iff {builder : Builder} (member : name ∈ options.fieldNames)
    (notField : name ≠ "Field")
    (unread : ∀ field ∈ options.fields, name ∉ field.optionalType.expr.reads) :
    (optionsClass options builder).definition.Captures name ↔ name = "classmethod" := by
  have quiet : .read name ∉
      options.fields.flatMap fun field => (fieldStatement field).scopeSteps := by
    intro read
    obtain ⟨field, inFields, inside⟩ := List.mem_flatMap.1 read
    exact read_not_mem_scopeSteps_fieldStatement notField (unread field inFields) inside
  simp only [ClassDefinition.Captures, scopeSteps_optionsClass]
  rw [captured_append, captured_append]
  constructor
  · rintro ((first | ⟨-, read⟩ | fields) | ⟨-, read⟩ | last)
    · have bound : name = "model_config" := by simpa using first.bind_mem
      have read : name = "ConfigDict" := by simpa using first.read_mem
      exact absurd (bound.symm.trans read) (by decide)
    · exact absurd read quiet
    · exact absurd fields.read_mem quiet
    · simpa using read
    · simpa using last.read_mem
  · rintro rfl
    obtain ⟨field, inFields, same⟩ := List.mem_map.1 member
    have bound := bind_mem_scopeSteps_fieldStatement.2 same.symm
    exact .inr (.inl ⟨List.mem_append_right _ (List.mem_flatMap_of_mem inFields bound), by simp⟩)

/-- The builder class captures, among the names that its setters may have, that of the class it
builds values of, and that of the type of all objects if a setter for plain texts comes later. -/
theorem captures_builderClass_iff (member : name ∈ options.fieldNames)
    (unread : ∀ field ∈ options.fields, name ∉ field.type.expr.reads) :
    (builderClass (.make options)).definition.Captures name ↔
      name = options.name ∨
        (name = "object" ∧ ∃ field later, List.Sublist [field, later] options.fields ∧
          field.name = name ∧ later.type.isText = true) := by
  have setters : Captured name (options.fields.flatMap fun field =>
      (setterMethod (Builder.make options).name ⟨field, field.type.isText⟩).scopeSteps) ↔
      name = "object" ∧ ∃ field later, List.Sublist [field, later] options.fields ∧
        field.name = name ∧ later.type.isText = true := by
    rw [captured_flatMap_iff fun _ _ => not_captured_setterMethod]
    constructor
    · rintro ⟨field, later, ordered, bound, read⟩
      have inFields := ordered.subset (List.mem_cons_of_mem _ List.mem_cons_self)
      obtain ⟨isObject, isText⟩ :=
        (read_mem_scopeSteps_setterMethod (unread later inFields)).1 read
      exact ⟨isObject, field, later, ordered, (bind_mem_scopeSteps_setterMethod.1 bound).symm,
        isText⟩
    · rintro ⟨isObject, field, later, ordered, same, isText⟩
      have inFields := ordered.subset (List.mem_cons_of_mem _ List.mem_cons_self)
      exact ⟨field, later, ordered, bind_mem_scopeSteps_setterMethod.2 same.symm,
        (read_mem_scopeSteps_setterMethod (unread later inFields)).2 ⟨isObject, isText⟩⟩
  simp only [ClassDefinition.Captures, scopeSteps_builderClass]
  rw [captured_append, captured_append, setters]
  constructor
  · rintro ((first | ⟨bound, read⟩ | captured) | ⟨-, read⟩ | last)
    · simpa using first.read_mem
    · obtain ⟨field, inFields, inside⟩ := List.mem_flatMap.1 read
      obtain ⟨rfl, -⟩ := (read_mem_scopeSteps_setterMethod (unread field inFields)).1 inside
      simp at bound
    · exact .inr captured
    · exact .inl (by simpa using read)
    · exact .inl (by simpa using last.read_mem)
  · rintro (rfl | captured)
    · obtain ⟨field, inFields, same⟩ := List.mem_map.1 member
      have bound : .bind options.name ∈ (setterMethod (Builder.make options).name
          ⟨field, field.type.isText⟩).scopeSteps :=
        bind_mem_scopeSteps_setterMethod.2 same.symm
      exact .inr (.inl ⟨List.mem_append_right _ (List.mem_flatMap_of_mem inFields bound), by simp⟩)
    · exact .inl (.inr (.inr captured))

/-! ## Every operation -/

variable {variant : Variant} {document : Document} {modelsModule : String} {coverage : Coverage}

/-- The body of an options class reads one name that its fields do not keep clear of: the decorator
of its method.  That of a builder class reads two: the class that it builds values of, and the type
of all objects if a setter for plain texts comes after the one that has its name.  These three are
captured wherever a parameter is called like them, and nothing else that the two bodies read is. -/
theorem members_captured_iff
    (covered : cover (.ofDocument variant document) modelsModule document.operations =
      .ok coverage) :
    ∀ code ∈ coverage.codes, code.plan.usesOptions = true →
      ∃ options, code.plan.options = some options ∧
        code.classes = [optionsClass options (.make options), builderClass (.make options)] ∧
        options.fieldNames = code.plan.names.members ∧
        ∀ name ∈ code.plan.names.members,
          ((optionsClass options (.make options)).definition.Captures name ↔
            name = "classmethod") ∧
          ((builderClass (.make options)).definition.Captures name ↔
            name = options.name ∨
              (name = "object" ∧ ∃ field later, List.Sublist [field, later] options.fields ∧
                field.name = name ∧ later.type.isText = true)) := by
  intro code inCodes uses
  obtain ⟨operation, -, names, types, keywords, resolved, mapped, -, rfl⟩ :=
    exists_assembled_of_mem_codes covered inCodes
  obtain ⟨options, found⟩ := Option.isSome_iff_exists.1 uses
  obtain ⟨optionsName, -, rfl⟩ := Option.map_eq_some_iff.1 found
  obtain ⟨belong, members⟩ := fields_of_resolved resolved mapped
  refine ⟨_, found, classesOf_of_options rfl found, members, ?_⟩
  intro name member
  have inFields : name ∈ (fieldsOf names.members operation.parameters types.parameters).map
      (·.name) := by
    rw [members]
    exact member
  have free : name ∉ parameterReserved (endpointReserved (.ofDocument document)) := by
    obtain ⟨field, isField, rfl⟩ := List.mem_map.1 inFields
    obtain ⟨parameter, -, belongs⟩ := exists_mem_of_forall₂ belong isField
    exact not_mem_of_memberName belongs.memberName_eq
  have notField : name ≠ "Field" := by
    rintro rfl
    apply free
    simp [parameterReserved, endpointReserved, modelBaseNames]
  have known := (closed_known _).fields mapped names.members
  have accounted := (closed_accounted (.ofDocument document)).fields mapped names.members
  refine ⟨captures_optionsClass_iff inFields notField ?_, captures_builderClass_iff inFields ?_⟩
  · intro field isField read
    exact free (mem_parameterReserved_of_mem_reads
      ((closed_known _).optional _ (known field isField))
      ((closed_accounted (.ofDocument document)).optional _ (accounted field isField)) read)
  · intro field isField read
    exact free (mem_parameterReserved_of_mem_reads (known field isField)
      (accounted field isField) read)

/-- An operation with parameters of all three names, in an order in which each is captured. -/
def toolbox : Document where
  operations := [{
    name := "tag"
    parameters := [
      { name := "classmethod", location := .query, description := some "A way to call." },
      { name := "object", location := .query, type := { type := some "integer" } },
      { name := "TagParams", location := .header, required := true },
      { name := "list", location := .query, type := { type := some "string" } }] }]

theorem toolbox_members_captured :
    ∃ coverage code options,
      cover (.ofDocument .options toolbox) ".models" toolbox.operations = .ok coverage ∧
      code ∈ coverage.codes ∧
      code.classes = [optionsClass options (.make options), builderClass (.make options)] ∧
      code.plan.names.members = ["classmethod", "object", "TagParams", "list_"] ∧
      (∀ name ∈ code.plan.names.members,
        (optionsClass options (.make options)).definition.Captures name ↔ name = "classmethod") ∧
      (∀ name ∈ code.plan.names.members,
        (builderClass (.make options)).definition.Captures name ↔
          name ∈ ["TagParams", "object"]) := by
  have first : (cover (.ofDocument .options toolbox) ".models"
      toolbox.operations).toOption.bind (fun coverage => coverage.codes.head?.map fun code =>
        decide (code.plan.usesOptions = true ∧
          code.plan.names.members = ["classmethod", "object", "TagParams", "list_"] ∧
          code.plan.options.map (·.name) = some "TagParams" ∧
          code.plan.options.map (·.fields.map fun field => (field.name, field.type.isText)) =
            some [("classmethod", false), ("object", false), ("TagParams", false),
              ("list_", true)])) = some true := by
    decide +kernel
  obtain ⟨coverage, code, covered, inCodes, same⟩ := exists_code_of_head? first
  obtain ⟨uses, members, named, shown⟩ := of_decide_eq_true same
  obtain ⟨options, found, classes, -, captured⟩ := members_captured_iff covered code inCodes uses
  rw [found] at named shown
  have named : options.name = "TagParams" := Option.some.inj named
  have shown : (options.fields.map fun field => (field.name, field.type.isText)) = _ :=
    Option.some.inj shown
  have later : ∃ field later, List.Sublist [field, later] options.fields ∧
      field.name = "object" ∧ later.type.isText = true := by
    have ordered : List.Sublist [("object", false), ("list_", true)]
        (options.fields.map fun field => (field.name, field.type.isText)) := by
      rw [shown]
      decide
    obtain ⟨pair, inFields, same⟩ := List.sublist_map_iff.1 ordered
    obtain ⟨field, later, rfl⟩ : ∃ field later, pair = [field, later] :=
      List.length_eq_two.1 (by simpa using congrArg List.length same.symm)
    simp only [List.map_cons, List.map_nil, List.cons.injEq, Prod.mk.injEq, and_true] at same
    exact ⟨field, later, inFields, same.1.1.symm, same.2.2.symm⟩
  refine ⟨coverage, code, options, covered, inCodes, classes, members, ?_, ?_⟩
  · exact fun name member => (captured name member).1
  · intro name member
    rw [(captured name member).2, named, List.mem_cons, List.mem_singleton]
    refine or_congr_right ⟨And.left, ?_⟩
    rintro rfl
    exact ⟨rfl, later⟩

/-- An operation with one parameter, which is called like the decorator. -/
def tagging : Document where
  operations := [{
    name := "tag"
    parameters := [
      { name := "classmethod", location := .query, type := { type := some "string" } }] }]

/-- The field hides the decorator: the body of the class reads its own field, which is absent by
default, where it means to read the decorator. -/
theorem tagging_captures_decorator :
    ∃ coverage code piece,
      cover (.ofDocument .options tagging) ".models" tagging.operations = .ok coverage ∧
      code ∈ coverage.codes ∧ piece ∈ code.classes ∧
      "classmethod" ∈ code.plan.names.members ∧
      piece.definition.Captures "classmethod" := by
  have first : (cover (.ofDocument .options tagging) ".models"
      tagging.operations).toOption.bind (fun coverage => coverage.codes.head?.map fun code =>
        decide ("classmethod" ∈ code.plan.names.members ∧
          ∃ piece ∈ code.classes, piece.definition.Captures "classmethod")) = some true := by
    decide +kernel
  obtain ⟨coverage, code, covered, member, same⟩ := exists_code_of_head? first
  obtain ⟨isMember, piece, inClasses, captured⟩ := of_decide_eq_true same
  exact ⟨coverage, code, piece, covered, member, inClasses, isMember, captured⟩

end Bindery.Client
