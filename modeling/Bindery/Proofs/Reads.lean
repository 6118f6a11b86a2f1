import Bindery.Code.Soundness
import Bindery.Proofs.Annotations

/-!
# The names that code reads

Code reads names wherever an expression stands: in its statements, in annotations and defaults, in
the bases of classes.  A name that a function reads in its body is one of its locals or comes from
around it.  An annotation reads nothing but names that are always there, names that it asks to be
imported and model classes that it mentions, however deep its parts are nested.
-/

namespace Bindery.Code

/-! ## Expressions -/

namespace Expr

/-- The name that an expression is. -/
def name? : Expr → Option String
  | name id => some id
  | _ => Option.none

/-- The names that an expression reads, in itself and in its parts. -/
def reads (value : Expr) : List String := value.parts.filterMap name?

/-- The names that an expression reads as an annotation. An annotation may be a name in quotes. -/
def annotated : Expr → List String
  | text quoted => [quoted]
  | type => type.reads

/-- The names that a part of an f-string reads. -/
def readsOfPart : TemplatePart → List String
  | .literal _ => []
  | .hole value => value.reads

@[simp] theorem reads_name (id : String) : (name id).reads = [id] := rfl

@[simp] theorem reads_text (value : String) : (text value).reads = [] := rfl

@[simp] theorem reads_int (value : Int) : (int value).reads = [] := rfl

@[simp] theorem reads_none : none.reads = [] := rfl

@[simp] theorem reads_true : true.reads = [] := rfl

@[simp] theorem reads_field (owner : Expr) (key : String) :
    (field owner key).reads = owner.reads := rfl

@[simp] theorem reads_await (value : Expr) : (await value).reads = value.reads := rfl

@[simp] theorem reads_subscript (generic index : Expr) :
    (subscript generic index).reads = generic.reads ++ index.reads :=
  List.filterMap_append

@[simp] theorem reads_union (left right : Expr) :
    (union left right).reads = left.reads ++ right.reads :=
  List.filterMap_append

@[simp] theorem reads_isNot (left right : Expr) :
    (isNot left right).reads = left.reads ++ right.reads :=
  List.filterMap_append

@[simp] theorem annotated_name (id : String) : (name id).annotated = [id] := rfl

@[simp] theorem annotated_text (quoted : String) : (text quoted).annotated = [quoted] := rfl

@[simp] theorem annotated_none : none.annotated = [] := rfl

@[simp] theorem annotated_subscript (generic index : Expr) :
    (subscript generic index).annotated = generic.reads ++ index.reads :=
  reads_subscript generic index

@[simp] theorem annotated_union (left right : Expr) :
    (union left right).annotated = left.reads ++ right.reads :=
  reads_union left right

theorem reads_subset_annotated (type : Expr) : type.reads ⊆ type.annotated := by
  cases type with
  | text => exact List.nil_subset _
  | _ => exact List.Subset.refl _

@[simp] theorem reads_conditional (body test otherwise : Expr) :
    (conditional body test otherwise).reads = body.reads ++ test.reads ++ otherwise.reads := by
  simp only [reads, parts]
  rw [List.cons_append, List.cons_append, List.filterMap_cons_none rfl, List.filterMap_append,
    List.filterMap_append]

theorem partsOfAll_eq_flatMap (items : List Expr) : partsOfAll items = items.flatMap parts := by
  induction items with
  | nil => rfl
  | cons item items ih => rw [partsOfAll, ih, List.flatMap_cons]

theorem filterMap_partsOfAll (items : List Expr) :
    (partsOfAll items).filterMap name? = items.flatMap reads := by
  rw [partsOfAll_eq_flatMap, List.filterMap_flatMap]
  rfl

theorem filterMap_partsOfEntries (entries : List (String × Expr)) :
    (partsOfEntries entries).filterMap name? = entries.flatMap (·.2.reads) := by
  induction entries with
  | nil => rfl
  | cons entry entries ih =>
      rw [partsOfEntries, List.filterMap_append, ih]
      rfl

theorem filterMap_partsOfHoles (holes : List TemplatePart) :
    (partsOfHoles holes).filterMap name? = holes.flatMap readsOfPart := by
  induction holes with
  | nil => rfl
  | cons part holes ih =>
      cases part with
      | literal text =>
          rw [partsOfHoles, ih]
          rfl
      | hole value =>
          rw [partsOfHoles, List.filterMap_append, ih]
          rfl

@[simp] theorem reads_tuple (items : List Expr) :
    (tuple items).reads = items.flatMap reads :=
  filterMap_partsOfAll items

@[simp] theorem reads_dict (entries : List (String × Expr)) :
    (dict entries).reads = entries.flatMap (·.2.reads) :=
  filterMap_partsOfEntries entries

@[simp] theorem reads_template (holes : List TemplatePart) :
    (template holes).reads = holes.flatMap readsOfPart :=
  filterMap_partsOfHoles holes

@[simp] theorem reads_call (function : Expr) (arguments : List Expr)
    (keywords : List (String × Expr)) :
    (call function arguments keywords).reads =
      function.reads ++ arguments.flatMap reads ++ keywords.flatMap (·.2.reads) := by
  simp only [reads, parts]
  rw [List.cons_append, List.cons_append, List.filterMap_cons_none rfl, List.filterMap_append,
    List.filterMap_append, filterMap_partsOfAll, filterMap_partsOfEntries]
  rfl

end Expr

/-! ## Statements and definitions -/

/-- The names that a statement reads. A name that a value is assigned to is not read. -/
def Statement.reads : Statement → List String
  | pass | importFrom _ => []
  | evaluate value | result value => value.reads
  | assign (.name _) value => value.reads
  | assign target value => target.reads ++ value.reads
  | declare _ type value => type.annotated ++ value.reads

/-- The names that a statement binds. -/
def Statement.binds : Statement → List String
  | assign (.name id) _ => [id]
  | declare id _ _ => [id]
  | importFrom imports => imports.names
  | _ => []

/-- The annotations of a function's arguments. -/
def Arguments.annotations (arguments : Arguments) : List Expr :=
  arguments.positional.filterMap (·.type) ++ arguments.keywordOnly.filterMap (·.1.type)

namespace Function

/-- The names that the body of a function binds. -/
def bound (function : Function) : List String := function.body.flatMap (·.binds)

/-- The locals of a function: its arguments and what its body binds. -/
def locals (function : Function) : List String := function.arguments.names ++ function.bound

/-- The names that the body of a function reads. -/
def bodyReads (function : Function) : List String := function.body.flatMap (·.reads)

/-- The names that are read where a function is defined: by its decorators, by the defaults of its
arguments and by its annotations. -/
def headReads (function : Function) : List String :=
  function.decorators.flatMap Expr.reads ++
    function.arguments.keywordOnly.flatMap (·.2.reads) ++
    (function.arguments.annotations ++ function.returns.toList).flatMap Expr.annotated

/-- The names that a function reads and that are not its own. -/
def globals (function : Function) : List String :=
  function.headReads ++ function.bodyReads.filter (· ∉ function.locals)

end Function

/-- The names that a member of a class reads and that are not its own. -/
def Member.globals : Member → List String
  | .statement line => line.reads
  | .method function => function.globals

/-- The names that a class reads and that its methods do not bind. -/
def ClassDefinition.globals (definition : ClassDefinition) : List String :=
  definition.bases.flatMap Expr.reads ++ definition.body.flatMap Member.globals

/-- The names that an item of a module reads and that are not its own. -/
def Item.globals : Item → List String
  | .statement line => line.reads
  | .function code => code.globals
  | .class_ definition => definition.globals

/-- The names that a module reads and that are no locals of its functions. -/
def Module.globals (module : Module) : List String := module.body.flatMap Item.globals

/-! ## Imports -/

namespace Imports

/-- A name that is asked for from a module that needs an import statement. -/
def Provides (imports : Imports) (name : String) : Prop :=
  ∃ module names, (module, names) ∈ imports.requests ∧ module ≠ "builtins" ∧ name ∈ names

theorem mem_statements {imports : Imports} {statement : Import} :
    statement ∈ imports.statements ↔
      ∃ module ∈ imports.emittedModules, imports.statement module = statement := by
  simp only [statements, List.mem_map, List.mem_append, List.mem_filter, decide_eq_true_eq]
  constructor
  · rintro ⟨module, (⟨member, -⟩ | ⟨member, -⟩) | ⟨member, -⟩, made⟩ <;>
      exact ⟨module, member, made⟩
  · rintro ⟨module, member, made⟩
    refine ⟨module, ?_, made⟩
    cases origin module with
    | standard => exact .inl (.inl ⟨member, rfl⟩)
    | thirdParty => exact .inl (.inr ⟨member, rfl⟩)
    | relative => exact .inr ⟨member, rfl⟩

/-- The import statements bind the names that are provided. -/
theorem mem_names_statements {imports : Imports} {name : String} :
    name ∈ imports.statements.flatMap (·.names) ↔ imports.Provides name := by
  simp only [List.mem_flatMap, mem_statements, emittedModules, List.mem_filter, mem_modules,
    decide_eq_true_eq]
  constructor
  · rintro ⟨_, ⟨module, ⟨-, emitted⟩, rfl⟩, inside⟩
    obtain ⟨names, asked, found⟩ := mem_names.1 inside
    exact ⟨module, names, asked, emitted, found⟩
  · rintro ⟨module, names, asked, emitted, found⟩
    exact ⟨_, ⟨module, ⟨⟨names, asked⟩, emitted⟩, rfl⟩, mem_names.2 ⟨names, asked, found⟩⟩

namespace Provides

variable {name module : String} {names : List String} {first second : Imports}

theorem from_ (member : name ∈ names) (emitted : module ≠ "builtins") :
    Provides (.from_ module names) name :=
  ⟨module, names, List.mem_singleton_self _, emitted, member⟩

theorem left (provided : first.Provides name) : (first ++ second).Provides name := by
  obtain ⟨module, names, asked, emitted, member⟩ := provided
  exact ⟨module, names, List.mem_append_left _ asked, emitted, member⟩

theorem right (provided : second.Provides name) : (first ++ second).Provides name := by
  obtain ⟨module, names, asked, emitted, member⟩ := provided
  exact ⟨module, names, List.mem_append_right _ asked, emitted, member⟩

theorem all {pieces : List Imports} {piece : Imports} (member : piece ∈ pieces)
    (provided : piece.Provides name) : (Imports.all pieces).Provides name := by
  obtain ⟨module, names, asked, emitted, inside⟩ := provided
  exact ⟨module, names, List.mem_flatMap_of_mem member asked, emitted, inside⟩

/-- What is provided is asked for. -/
theorem mem_requested (provided : first.Provides name) : name ∈ first.requested := by
  obtain ⟨module, names, asked, -, member⟩ := provided
  exact List.mem_flatMap_of_mem asked member

end Provides

end Imports

end Bindery.Code

namespace Bindery.Typing

open Bindery.Api Bindery.Code Bindery.Naming

/-! ## Annotations -/

/-- An annotation that reads only names that are always there, names that it asks for and model
classes that it mentions. -/
def Mapped.Accounted (type : Mapped) : Prop :=
  ∀ name ∈ type.expr.annotated,
    name ∈ annotationBuiltins ∨ type.imports.Provides name ∨ name ∈ type.models

/-- What a literal chooses from has every property that texts and numbers have and that tuples get
from their items. -/
theorem exists_choices_literal {property : Expr → Prop} (text : ∀ value, property (.text value))
    (int : ∀ value, property (.int value))
    (tuple : ∀ items, (∀ item ∈ items, property item) → property (.tuple items))
    (values : List EnumValue) :
    ∃ choices, (Mapped.literal values).expr = .subscript (.name "Literal") choices ∧
      property choices := by
  refine ⟨_, rfl, ?_⟩
  generalize isShown : values.map _ = shown
  have each : ∀ item ∈ shown, property item := by
    intro item member
    rw [← isShown] at member
    obtain ⟨value, -, rfl⟩ := List.mem_map.1 member
    cases value with
    | text value => exact text value
    | int value => exact int value
  split
  · next only => exact each only (List.mem_singleton_self only)
  · exact tuple shown each

/-- The values of an enumeration read nothing. -/
theorem annotated_literal (values : List EnumValue) :
    (Mapped.literal values).expr.annotated = ["Literal"] := by
  obtain ⟨choices, shown, nothing⟩ : ∃ choices,
      (Mapped.literal values).expr = .subscript (.name "Literal") choices ∧
        choices.reads = [] := by
    apply exists_choices_literal (fun _ => rfl) (fun _ => rfl)
    intro items each
    rwa [Expr.reads_tuple, List.flatMap_eq_nil_iff]
  rw [shown, Expr.annotated_subscript, nothing]
  rfl

theorem closed_accounted (models : Models) : Closed models Mapped.Accounted where
  any := by
    intro name member
    cases List.mem_singleton.1 member
    exact .inr (.inl (.from_ (by decide) (by decide)))
  literal values := by
    intro name member
    rw [annotated_literal] at member
    cases List.mem_singleton.1 member
    exact .inr (.inl (.from_ (by decide) (by decide)))
  primitive primitive := by
    intro name member
    cases List.mem_singleton.1 member
    cases primitive with
    | text | bytes | integer | number | boolean => exact .inl (by decide)
    | timestamp | date | uuid => exact .inr (.inl (.from_ (by decide) (by decide)))
  model className _ := by
    intro name member
    exact .inr (.inr member)
  listOf inner accounted := by
    intro name member
    simp only [Mapped.listOf, Expr.annotated_subscript, Expr.reads_name, List.mem_append,
      List.mem_singleton] at member
    rcases member with rfl | inside
    · exact .inl (by decide)
    · exact accounted name (Expr.reads_subset_annotated _ inside)
  dictOf inner accounted := by
    intro name member
    simp only [Mapped.dictOf, Expr.annotated_subscript, Expr.reads_tuple, Expr.reads_name,
      List.flatMap_cons, List.flatMap_nil, List.append_nil, List.mem_append,
      List.mem_singleton] at member
    rcases member with rfl | rfl | inside
    · exact .inl (by decide)
    · exact .inl (by decide)
    · exact accounted name (Expr.reads_subset_annotated _ inside)
  optional type accounted := by
    intro name member
    rw [Mapped.optional_imports, Mapped.optional_models]
    apply accounted
    simp only [Mapped.optional] at member
    split at member
    · exact member
    · have inside : name ∈ type.expr.reads := by simpa using member
      exact Expr.reads_subset_annotated _ inside

end Bindery.Typing
