import Bindery.Proofs.Alignment
import Bindery.Proofs.Definitions

/-!
# One list of members in three pieces of code

The options class of an operation declares its members, the builder class stores them and the
functions read them.  The three pieces are written by different rules, and nothing in the emitted
code ties them together: what each of them says about members is read back from the code here, and
all of them say the same list.
-/

namespace Bindery.Code

/-- The value that a declared field takes if it is left out. -/
def Expr.default? : Expr → Option Expr
  | .call (.name "Field") _ keywords => keywords.lookup "default"
  | value => some value

/-- The field that a member of a class declares, with the value it is declared with. -/
def Member.declared? : Member → Option (String × Expr)
  | .statement (.declare name _ value) => some (name, value)
  | _ => none

/-- The method that a member of a class is. -/
def Member.method? : Member → Option Function
  | .method function => some function
  | .statement _ => none

namespace ClassDefinition

/-- The fields that a class declares, in their order. -/
def declared (definition : ClassDefinition) : List (String × Expr) :=
  definition.body.filterMap (·.declared?)

/-- The methods of a class, in their order. -/
def methods (definition : ClassDefinition) : List Function :=
  definition.body.filterMap (·.method?)

end ClassDefinition

/-- The attribute of the pending value that a method stores before it returns its object. -/
def Function.stored? (function : Function) : Option String :=
  match function.body with
  | [.assign (.field (.call (.field (.name "self") "_current") [] []) key) _,
      .result (.name "self")] => some key
  | _ => none

/-- A local that is bound to a field of the options value; a check names the operation and the
parameter that it is made for. -/
structure FieldLocal where
  name : String
  field : String
  check : Option (String × String)
  deriving DecidableEq, Repr

/-- The local that a statement binds to a field of the options value. -/
def Statement.fieldLocal? : Statement → Option FieldLocal
  | .assign (.name name) (.field (.name "params") field) => some ⟨name, field, none⟩
  | .assign (.name name)
      (.call (.name "require")
        [.field (.name "params") field, .text operation, .text parameter] []) =>
    some ⟨name, field, some (operation, parameter)⟩
  | _ => none

/-- A class of builders with one method for each attribute, between the one that starts it and the
one that ends it. -/
def ClassDefinition.Stores (attributes : List String) (definition : ClassDefinition) : Prop :=
  ∃ start finish setters, definition.methods = start :: setters ++ [finish] ∧
    start.name = "__init__" ∧ finish.name = "build" ∧
    setters.map (·.name) = attributes ∧
    setters.map (·.stored?) = attributes.map some

/-- A function that binds locals to fields of the options value and then answers with a
request. -/
def Function.BindsThenSends (locals : List FieldLocal) (function : Function) : Prop :=
  ∃ bindings arguments keywords,
    bindings.map (·.fieldLocal?) = locals.map some ∧
    function.body = bindings ++ [.result (
      if function.isAsync then .await (.call (.name "request_async") arguments keywords)
      else .call (.name "request_sync") arguments keywords)]

end Bindery.Code

namespace Bindery.Client

open Bindery.Api Bindery.Code Bindery.Plan Bindery.Steps Bindery.Typing

/-! ## The options class -/

@[simp] theorem declared?_fieldStatement (field : Field) :
    (Member.statement (fieldStatement field)).declared?.map (·.1) = some field.name := rfl

/-- A field may be left out and is absent then, whether it is described or not. -/
theorem default?_of_declared?_fieldStatement {field : Field} {declared : String × Expr}
    (found : (Member.statement (fieldStatement field)).declared? = some declared) :
    declared.2.default? = some .none := by
  cases found
  cases fieldDescription? field <;> rfl

theorem declared_optionsClass (options : Options) (builder : Builder) :
    (optionsClass options builder).definition.declared =
      options.fields.filterMap fun field =>
        (Member.statement (fieldStatement field)).declared? := by
  simp only [ClassDefinition.declared, optionsClass]
  rw [List.cons_append, List.filterMap_cons_none rfl, List.filterMap_append, List.filterMap_map]
  exact List.append_nil _

/-- The options class declares the fields of the options type. -/
theorem map_name_declared_optionsClass (options : Options) (builder : Builder) :
    (optionsClass options builder).definition.declared.map (·.1) = options.fieldNames := by
  rw [declared_optionsClass, List.map_filterMap]
  simp only [declared?_fieldStatement, List.filterMap_eq_map']
  rfl

theorem default?_of_mem_declared_optionsClass {options : Options} {builder : Builder}
    {declared : String × Expr}
    (member : declared ∈ (optionsClass options builder).definition.declared) :
    declared.2.default? = some .none := by
  rw [declared_optionsClass] at member
  obtain ⟨field, -, found⟩ := List.mem_filterMap.1 member
  exact default?_of_declared?_fieldStatement found

/-! ## The builder class -/

/-- The function of a setter. -/
def setterFunction (builder : String) (setter : Setter) : Function where
  name := setter.name
  isAsync := false
  decorators := []
  arguments := ⟨[⟨"self", none⟩, ⟨"value", some (setterTypeExpr setter)⟩], []⟩
  returns := some (.text builder)
  documentation := none
  body := [
    .assign (.field (selfCall "_current") setter.field.name) (setterValue setter),
    .result (.name "self")]

/-- Between the method that starts it and the one that ends it, the class of a builder has a method
for each setter. -/
theorem exists_methods_builderClass (builder : Builder) :
    ∃ start finish, start.name = "__init__" ∧ finish.name = "build" ∧
      (builderClass builder).definition.methods =
        start :: builder.setters.map (setterFunction builder.name) ++ [finish] := by
  refine ⟨?start, ?finish, ?startName, ?finishName, ?methods⟩
  case methods =>
    simp only [ClassDefinition.methods, builderClass, method, List.cons_append,
      List.filterMap_cons, List.filterMap_append, List.filterMap_map, Member.method?]
    rw [← List.filterMap_eq_map]
    rfl
  case startName => rfl
  case finishName => rfl

/-- The class of a builder stores the fields of its setters, each by the method of its name. -/
theorem stores_builderClass (builder : Builder) :
    (builderClass builder).definition.Stores builder.setterNames := by
  obtain ⟨start, finish, starts, finishes, methods⟩ := exists_methods_builderClass builder
  refine ⟨start, finish, _, methods, starts, finishes, ?names, ?stored⟩
  case names =>
    rw [List.map_map]
    rfl
  case stored =>
    rw [Builder.setterNames, List.map_map, List.map_map]
    rfl

/-! ## The functions -/

/-- The local that is bound for a parameter whose member is known. -/
def fieldLocal (operation : Operation) (parameter : Parameter) (member : String) : FieldLocal where
  name := member
  field := member
  check := if parameter.required then some (operation.name, parameter.name) else none

/-- The statement for a parameter binds its member to the field of that name, and checks that it
is there if the parameter is required. -/
theorem fieldLocal?_bindStatement (operation : Operation) (field : Field) :
    (bindStatement operation.name (field.binding .options)).fieldLocal? =
      some (fieldLocal operation field.parameter field.name) := by
  cases required : field.parameter.required <;>
    simp [bindStatement, Statement.fieldLocal?, fieldLocal, Field.binding, Binding.checksPresence,
      optionsArgument, required]

/-- A function of a plan with options binds a local for each of its fields and sends its request
after that. -/
theorem bindsThenSends_endpointFunction {plan : OperationPlan} {fields : List Field}
    (uses : plan.usesOptions = true)
    (bindings : plan.bindings = fields.map (·.binding .options))
    (keywords : List (String × Expr)) (isAsync : Bool) :
    (endpointFunction plan keywords isAsync).BindsThenSends
      (fields.map fun field => fieldLocal plan.operation field.parameter field.name) := by
  refine ⟨bindStatements plan, ?arguments, keywords, ?bound, ?body⟩
  case body =>
    simp only [endpointFunction, requestExpr]
    cases isAsync <;> rfl
  case bound =>
    simp only [bindStatements]
    rw [if_pos uses, bindings, List.map_map, List.map_map, List.map_map]
    exact List.map_congr_left fun field _ => fieldLocal?_bindStatement plan.operation field

/-- Fields that belong to parameters give the locals of these parameters. -/
theorem map_fieldLocal_eq_zipWith {setting : Setting} {operation : Operation}
    {parameters : List Parameter} {fields : List Field}
    (belong : List.Forall₂ (Field.BelongsTo setting) parameters fields) :
    (fields.map fun field => fieldLocal operation field.parameter field.name) =
      List.zipWith (fieldLocal operation) parameters (fields.map (·.name)) := by
  induction belong with
  | nil => rfl
  | cons first _ ih =>
      rw [List.map_cons, List.map_cons, List.zipWith_cons_cons, ih, first.parameter_eq]

/-! ## All three -/

/-- The code of an operation that says one list of members in each of its three pieces. -/
structure OperationCode.Agrees (members : List String) (code : OperationCode)
    (optionsCode builderCode : ClassDefinition) : Prop where
  items_eq : code.items = [.class_ optionsCode, .class_ builderCode,
    .function code.functions.sync, .function code.functions.async]
  declared_eq : optionsCode.declared.map (·.1) = members
  default_eq : ∀ declared ∈ optionsCode.declared, declared.2.default? = some .none
  stores : builderCode.Stores members
  sync : code.functions.sync.isAsync = false
  async : code.functions.async.isAsync = true
  binds : ∀ function ∈ [code.functions.sync, code.functions.async],
    function.BindsThenSends
      (List.zipWith (fieldLocal code.plan.operation) code.plan.operation.parameters members)

variable {setting : Setting}

/-- The code of a plan agrees on the fields of its options type if its locals are made from
them. -/
theorem agrees_fieldNames {plan : OperationPlan} {options : Options}
    (found : plan.options = some options) (built : plan.builder = some (.make options))
    (bindings : plan.bindings = options.fields.map (·.binding .options))
    (belong : List.Forall₂ (Field.BelongsTo setting) plan.operation.parameters options.fields)
    (modelsModule : String) (keywords : List (String × Expr)) :
    (OperationCode.assemble modelsModule plan keywords).Agrees options.fieldNames
      (optionsClass options (.make options)).definition
      (builderClass (.make options)).definition := by
  have binds := bindsThenSends_endpointFunction (congrArg Option.isSome found) bindings keywords
  rw [map_fieldLocal_eq_zipWith belong] at binds
  constructor
  case items_eq =>
    simp only [OperationCode.items, OperationCode.assemble, OperationCode.classesOf]
    rw [found, built]
    rfl
  case declared_eq => exact map_name_declared_optionsClass options (.make options)
  case default_eq => exact fun declared => default?_of_mem_declared_optionsClass
  case stores =>
    rw [← Builder.setterNames_make]
    exact stores_builderClass (.make options)
  case sync => rfl
  case async => rfl
  case binds =>
    intro function member
    simp only [List.mem_cons, List.not_mem_nil, or_false] at member
    rcases member with rfl | rfl
    · exact binds false
    · exact binds true

/-- An operation with options gets three pieces of code that agree on its members, one for each
parameter: the options class declares them and none of them has a value by default; the builder
class stores them, each by the method of its name; and both functions bind a local to each of them
before they send the request, and check those that are required. -/
theorem members_agree {modelsModule : String} {operations : List Operation}
    {coverage : Coverage}
    (covered : cover setting modelsModule operations = .ok coverage) :
    ∀ code ∈ coverage.codes, code.plan.usesOptions = true →
      ∃ optionsCode builderCode, code.plan.operation ∈ operations ∧
        List.Forall₂
          (fun parameter member => memberName setting.reserved parameter.name = .ok member)
          code.plan.operation.parameters code.plan.names.members ∧
        code.Agrees code.plan.names.members optionsCode builderCode := by
  intro code member uses
  obtain ⟨operation, inOperations, names, types, keywords, resolved, mapped, -, rfl⟩ :=
    exists_assembled_of_mem_codes covered member
  obtain ⟨options, found⟩ := Option.isSome_iff_exists.1 uses
  obtain ⟨optionsName, named, rfl⟩ := Option.map_eq_some_iff.1 found
  obtain ⟨belong, members⟩ := fields_of_resolved resolved mapped
  have bindings : (OperationPlan.assemble operation names types).bindings =
      (fieldsOf names.members operation.parameters types.parameters).map
        (·.binding .options) := by
    simp only [OperationPlan.assemble]
    rw [optionsOf_eq_some operation types named]
    rfl
  have agrees := agrees_fieldNames found (congrArg (Option.map Builder.make) found) bindings
    belong modelsModule keywords
  rw [Options.fieldNames, members] at agrees
  exact ⟨_, _, inOperations, forall₂_memberName resolved.members, agrees⟩

/-- The operation of the pet shop that has options has two members, both of them required. -/
theorem petShop_members_agree :
    ∃ coverage code optionsCode builderCode,
      cover (.ofDocument .options petShop) ".models" petShop.operations = .ok coverage ∧
      code ∈ coverage.codes ∧ code.plan.usesOptions = true ∧
      code.Agrees ["id", "pet"] optionsCode builderCode := by
  obtain ⟨coverage, covered, shown⟩ := exists_cover_petShop
  have first : (true, ["id", "pet"]) ∈
      coverage.codes.map fun code => (code.plan.usesOptions, code.plan.names.members) :=
    shown ▸ List.mem_cons_self
  obtain ⟨code, member, same⟩ := List.mem_map.1 first
  obtain ⟨uses, members⟩ := Prod.mk.inj same
  obtain ⟨optionsCode, builderCode, -, -, agrees⟩ := members_agree covered code member uses
  rw [members] at agrees
  exact ⟨coverage, code, optionsCode, builderCode, covered, member, uses, agrees⟩

end Bindery.Client
