import Bindery.Client.Endpoints
import Bindery.Proofs.Resolution

/-!
# What a module binds

A module binds names by its import statements and by the classes and functions that it defines,
and it exports the names that it lists.  These views of a module do not depend on how the module
was put together; for the endpoints module they are read off the code of its operations.
-/

namespace Bindery.Code

namespace Item

/-- The name of the class or function that an item defines. -/
def definedName? : Item → Option String
  | .statement _ => none
  | .function code => some code.name
  | .class_ code => some code.name

/-- The import that an item is. -/
def import? : Item → Option Import
  | .statement (.importFrom imports) => some imports
  | _ => none

/-- The names that an item lists for export. -/
def exported : Item → List String
  | .statement (.assign (.name "__all__") (.tuple items)) =>
      items.filterMap fun
        | .text name => some name
        | _ => none
  | _ => []

end Item

namespace Module

/-- The classes and functions that a module defines, in their order. -/
def definitions (module : Module) : List Item := module.body.filter (·.definedName?.isSome)

/-- The names of the classes and functions that a module defines, in their order. -/
def definedNames (module : Module) : List String := module.body.filterMap Item.definedName?

/-- The import statements of a module. -/
def imports (module : Module) : List Import := module.body.filterMap Item.import?

/-- The names that the import statements of a module bind. -/
def importedNames (module : Module) : List String := module.imports.flatMap (·.names)

/-- The names that a module exports. -/
def exportedNames (module : Module) : List String := module.body.flatMap Item.exported

end Module

@[simp] theorem exported_exports (names : List String) :
    (Item.statement (exports names)).exported = names := by
  simp [exports, Item.exported, List.filterMap_map]

/-- Import statements define nothing. -/
theorem filterMap_definedName?_importFrom (statements : List Import) :
    (statements.map fun imports => Item.statement (.importFrom imports)).filterMap
      Item.definedName? = [] := by
  simp [Item.definedName?]

theorem Imports.all_flatMap {α : Type} (items : List α) (pieces : α → List Imports) :
    all (items.flatMap pieces) = all (items.map fun item => all (pieces item)) := by
  simp only [all, List.flatMap_assoc, List.flatMap_map]

end Bindery.Code

namespace Bindery.Client

open Bindery.Api Bindery.Code Bindery.Plan Bindery.Steps

/-! ## The code of one operation -/

/-- What is written for a plan whose request can be expressed. -/
theorem endpoint_eq_ok_iff {modelsModule : String} {plan : OperationPlan} {code : EndpointCode} :
    endpoint modelsModule plan = .ok code ↔
      ∃ keywords, requestKeywords plan = .ok keywords ∧
        code = ⟨endpointFunction plan keywords false, endpointFunction plan keywords true,
          endpointImports modelsModule plan⟩ := by
  simp only [endpoint]
  cases requestKeywords plan with
  | error error => simp
  | ok keywords => simp [eq_comm]

namespace OperationCode

/-- What is written for a plan: its classes beside its functions. -/
theorem make_eq_ok_iff {modelsModule : String} {plan : OperationPlan} {code : OperationCode} :
    make modelsModule plan = .ok code ↔
      ∃ functions, endpoint modelsModule plan = .ok functions ∧
        code = ⟨plan, classesOf plan, functions⟩ := by
  simp only [make]
  rw [map_eq_ok_iff]
  simp only [eq_comm]

/-- The names that the code of an operation defines, in the order of their definition. -/
def definedNames (code : OperationCode) : List String := code.items.filterMap Item.definedName?

/-- The code of an operation consists of definitions. -/
theorem definedName?_isSome_of_mem_items {code : OperationCode} {item : Item}
    (member : item ∈ code.items) : item.definedName?.isSome = true := by
  simp only [items] at member
  rcases List.mem_append.1 member with inClasses | inFunctions
  · obtain ⟨definition, -, rfl⟩ := List.mem_map.1 inClasses
    rfl
  · simp only [List.mem_cons, List.not_mem_nil, or_false] at inFunctions
    rcases inFunctions with rfl | rfl <;> rfl

theorem import?_eq_none_of_mem_items {code : OperationCode} {item : Item}
    (member : item ∈ code.items) : item.import? = none := by
  have defined := definedName?_isSome_of_mem_items member
  cases item with
  | statement => cases defined
  | function => rfl
  | class_ => rfl

theorem exported_eq_nil_of_mem_items {code : OperationCode} {item : Item}
    (member : item ∈ code.items) : item.exported = [] := by
  have defined := definedName?_isSome_of_mem_items member
  cases item with
  | statement => cases defined
  | function => rfl
  | class_ => rfl

theorem definedNames_eq (code : OperationCode) :
    code.definedNames =
      code.classes.map (·.definition.name) ++
        [code.functions.sync.name, code.functions.async.name] := by
  simp [definedNames, items, List.filterMap_map, Function.comp_def, Item.definedName?]

/-- The classes of a plan have the names that were derived for them. -/
theorem map_name_classesOf_assemble {reserved : List String} {operation : Operation}
    {usesOptions : Bool} {names : Names} (resolved : names.Resolved reserved operation usesOptions)
    (types : OperationTypes) :
    (classesOf (.assemble operation names types)).map (·.definition.name) = names.classes := by
  have builderClass : names.builderClass = names.optionsClass.map Naming.builderClass := by
    rw [resolved.heading]
    rfl
  simp only [Names.classes]
  rw [builderClass]
  cases optionsClass : names.optionsClass with
  | none => simp [classesOf, OperationPlan.assemble, optionsOf, optionsClass]
  | some name =>
      simp [classesOf, OperationPlan.assemble, optionsOf, optionsClass, Client.optionsClass,
        Client.builderClass, Builder.make]

/-- The code of an operation defines the names that its plan claims at the top of the module. -/
theorem definedNames_perm {setting : Setting} {modelsModule : String} {operation : Operation}
    {code : OperationCode} (planned : Plan.plan setting operation = .ok code.plan)
    (made : make modelsModule code.plan = .ok code) :
    code.definedNames.Perm code.plan.names.moduleNames := by
  obtain ⟨names, types, resolved, -, assembled⟩ := plan_eq_ok_iff.1 planned
  obtain ⟨functions, written, shape⟩ := make_eq_ok_iff.1 made
  obtain ⟨keywords, -, rfl⟩ := endpoint_eq_ok_iff.1 written
  rw [shape, assembled, definedNames_eq, map_name_classesOf_assemble resolved]
  exact List.perm_append_comm

end OperationCode

/-! ## The endpoints module -/

variable (codes : List OperationCode)

/-- The endpoints module defines what the code of its operations consists of, in their order. -/
theorem definitions_endpointsModule :
    (endpointsModule codes).definitions = codes.flatMap OperationCode.items := by
  have kept : (codes.flatMap OperationCode.items).filter (·.definedName?.isSome) =
      codes.flatMap OperationCode.items := by
    refine List.filter_eq_self.2 fun item member => ?_
    obtain ⟨code, -, inside⟩ := List.mem_flatMap.1 member
    exact OperationCode.definedName?_isSome_of_mem_items inside
  simp only [Module.definitions, endpointsModule]
  rw [List.filter_append, List.filter_append, kept, List.filter_map]
  simp [Function.comp_def, Item.definedName?]

theorem definedNames_endpointsModule :
    (endpointsModule codes).definedNames = codes.flatMap OperationCode.definedNames := by
  simp only [Module.definedNames, endpointsModule]
  rw [List.filterMap_append, List.filterMap_append, filterMap_definedName?_importFrom,
    List.filterMap_flatMap]
  rfl

/-- The endpoints module imports what the code of its operations asks for. -/
theorem imports_endpointsModule :
    (endpointsModule codes).imports =
      (Imports.all (codes.map OperationCode.imports)).statements := by
  have none_there : (codes.flatMap OperationCode.items).filterMap Item.import? = [] := by
    refine List.filterMap_eq_nil_iff.2 fun item member => ?_
    obtain ⟨code, -, inside⟩ := List.mem_flatMap.1 member
    exact OperationCode.import?_eq_none_of_mem_items inside
  simp only [Module.imports, endpointsModule]
  rw [List.filterMap_append, List.filterMap_append, none_there, List.filterMap_map]
  simp [Function.comp_def, Item.import?, exports]

/-- The endpoints module exports the names that the code of its operations defines. -/
theorem exportedNames_endpointsModule :
    (endpointsModule codes).exportedNames = sorted (endpointNames codes) := by
  have none_there : (codes.flatMap OperationCode.items).flatMap Item.exported = [] := by
    refine List.flatMap_eq_nil_iff.2 fun item member => ?_
    obtain ⟨code, -, inside⟩ := List.mem_flatMap.1 member
    exact OperationCode.exported_eq_nil_of_mem_items inside
  have none_imported (statements : List Import) :
      (statements.map fun imports => Item.statement (.importFrom imports)).flatMap
        Item.exported = [] := by
    simp [List.flatMap_eq_nil_iff, Item.exported]
  simp only [Module.exportedNames, endpointsModule]
  rw [List.flatMap_append, List.flatMap_append, none_there, none_imported, List.nil_append,
    List.append_nil, List.flatMap_singleton, exported_exports]

end Bindery.Client
