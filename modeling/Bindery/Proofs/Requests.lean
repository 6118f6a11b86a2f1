import Bindery.Proofs.Bodies
import Bindery.Proofs.Locals
import Bindery.Proofs.Shapes

/-!
# Where parameters are sent

The parameters of an operation stand in one list, and its request has a place for each location: the
path, three dictionaries, and the body.  This module reads the places back from the emitted call and
compares them with the list.  Every parameter is sent once, where it belongs, under its name on the
wire and from its own local.  That no name comes twice is nowhere tested; it follows from the locals
having different names.
-/

namespace Bindery.Plan

open Bindery.Api Bindery.Naming Bindery.Steps Bindery.Typing

/-! ## Different names -/

/-- The members that are resolved are different from each other and from the names before them. -/
theorem nodup_of_resolveMembers {reserved : List String} {operation : String}
    {taken members : List String} {parameters : List Parameter}
    (resolved : Names.resolveMembers reserved operation taken parameters = .ok members) :
    members.Nodup ∧ ∀ member ∈ members, member ∉ taken := by
  -- The names that are taken grow along the list, so the rest keeps clear of what came before it.
  induction parameters generalizing taken members with
  | nil =>
      cases resolved
      simp
  | cons parameter rest ih =>
      obtain ⟨name, more, -, free, later, rfl⟩ := Names.resolveMembers_cons_eq_ok_iff.1 resolved
      obtain ⟨distinct, apart⟩ := ih later
      have fresh : name ∉ more := by
        intro inside
        exact apart name inside List.mem_cons_self
      constructor
      · exact List.nodup_cons.2 ⟨fresh, distinct⟩
      · intro member inside
        cases List.mem_cons.1 inside with
        | inl same => rwa [same]
        | inr later =>
            intro before
            exact apart member later (List.mem_cons_of_mem name before)

/-- Parameters with different members have different names. -/
theorem nodup_map_name_of_members {reserved members : List String} {parameters : List Parameter}
    (named : List.Forall₂ (fun parameter member => memberName reserved parameter.name = .ok member)
      parameters members)
    (distinct : members.Nodup) : (parameters.map (·.name)).Nodup := by
  have same : parameters.map (fun parameter => memberName reserved parameter.name) =
      members.map Except.ok := by
    induction named with
    | nil => rfl
    | cons first _ ih => rw [List.map_cons, List.map_cons, first, ih distinct.of_cons]
  have images : (members.map (Except.ok : String → Except EmptyName String)).Nodup :=
    distinct.map fun _ _ => Except.ok.inj
  rw [← same] at images
  apply List.Nodup.of_map (memberName reserved)
  rwa [List.map_map]

variable {setting : Setting} {operation : Operation} {plan : OperationPlan}

/-- The names of the locals of a plan. -/
def OperationPlan.locals (plan : OperationPlan) : List String := plan.bindings.map (·.name)

theorem locals_eq_members (planned : Plan.plan setting operation = .ok plan) :
    plan.locals = plan.names.members := by
  obtain ⟨names, types, resolved, mapped, rfl⟩ := plan_eq_ok_iff.1 planned
  exact bindings_assemble resolved mapped

/-- The locals of a plan have different names, and so have the parameters of its operation. -/
theorem nodup_locals (planned : Plan.plan setting operation = .ok plan) :
    plan.locals.Nodup ∧ (operation.parameters.map (·.name)).Nodup := by
  rw [locals_eq_members planned]
  obtain ⟨names, types, resolved, -, rfl⟩ := plan_eq_ok_iff.1 planned
  have distinct := (nodup_of_resolveMembers resolved.members).1
  exact ⟨distinct, nodup_map_name_of_members (forall₂_memberName resolved.members) distinct⟩

/-- No local is called like a name that the setting reserves, unless that ends in an underscore. -/
theorem not_mem_locals (planned : Plan.plan setting operation = .ok plan) {taken : String}
    (isTaken : taken ∈ setting.reserved) (unmarked : Unmarked taken) : taken ∉ plan.locals := by
  rw [locals_eq_members planned]
  obtain ⟨names, types, resolved, -, rfl⟩ := plan_eq_ok_iff.1 planned
  intro member
  obtain ⟨parameter, -, derived⟩ :=
    exists_mem_of_forall₂ (forall₂_memberName resolved.members) member
  exact memberName_ne derived (by simp [parameterReserved, isTaken]) unmarked rfl

end Bindery.Plan

namespace Bindery.Client

open Bindery.Api Bindery.Code Bindery.Plan Bindery.Steps Bindery.Typing

/-! ## Keyword arguments -/

/-- The keyword arguments of the call that an expression makes or waits for. -/
def sentKeywords : Expr → List (String × Expr)
  | .call _ _ keywords => keywords
  | .await (.call _ _ keywords) => keywords
  | _ => []

@[simp] theorem sentKeywords_requestExpr (plan : OperationPlan) (keywords : List (String × Expr))
    (isAsync : Bool) : sentKeywords (requestExpr plan keywords isAsync) = keywords := by
  cases isAsync <;> rfl

theorem lookup_keyword? (key other : String) (value : Option Expr) :
    (keyword? key value).lookup other = if other = key then value else none := by
  cases value with
  | none => simp [keyword?]
  | some found =>
      by_cases same : other = key
      · simp [keyword?, same]
      · simp [keyword?, same, List.lookup_cons, beq_false_of_ne same]

/-- The dictionaries of a request, by their keywords, and the locations they are for. -/
def dictionarySlots : List (String × Location) :=
  [("params", .query), ("headers", .header), ("data", .form)]

/-- What the keyword arguments of a request are. -/
structure Keywords (plan : OperationPlan) (body : Option Expr)
    (keywords : List (String × Expr)) : Prop where
  sublist : (keywords.map (·.1)).Sublist
    ["params", "headers", "data", "json", "response_model", "error_model"]
  dictionary : ∀ slot ∈ dictionarySlots,
    keywords.lookup slot.1 = dictionary? slot.2 plan.bindings
  json : keywords.lookup "json" = body
  response : keywords.lookup "response_model" = plan.returnType.map (·.expr)
  error : keywords.lookup "error_model" = plan.errorType.map (·.expr)

theorem map_fst_keyword?_sublist (key : String) (value : Option Expr) :
    ((keyword? key value).map (·.1)).Sublist [key] := by
  cases value <;> simp [keyword?]

theorem keywords_of_requestKeywords {plan : OperationPlan} {keywords : List (String × Expr)}
    (found : requestKeywords plan = .ok keywords) :
    ∃ body, body? plan.bindings = .ok body ∧ Keywords plan body keywords := by
  obtain ⟨body, bodyFound, rfl⟩ := map_eq_ok_iff.1 found
  refine ⟨body, bodyFound, ?sublist, ?dictionary, ?json, ?response, ?error⟩
  case sublist =>
    have each := map_fst_keyword?_sublist
    simp only [List.map_append]
    exact (((((each _ _).append (each _ _)).append (each _ _)).append (each _ _)).append
      (each _ _)).append (each _ _)
  case dictionary =>
    intro slot member
    simp only [dictionarySlots, List.mem_cons, List.not_mem_nil, or_false] at member
    rcases member with rfl | rfl | rfl <;> simp [List.lookup_append, lookup_keyword?]
  all_goals simp [List.lookup_append, lookup_keyword?]

/-! ## Dictionaries -/

/-- The entry of a dictionary for a local: its key is the name of the parameter on the wire, and its
value is the local, which a helper may join.  Of the locals the value reads this one alone, unless
the helper is hidden by a local of its name. -/
structure EntryFor (plan : OperationPlan) (binding : Binding) (entry : String × Expr) : Prop where
  key_eq : entry.1 = binding.parameter.name
  value_eq : entry.2 = .name binding.name ∨ ∃ format, entry.2 =
    .call (.name "format_collection") [.name binding.name, .text format] []
  reads_eq : "format_collection" ∉ plan.locals →
    entry.2.reads.filter (· ∈ plan.locals) = [binding.name]

theorem entryFor_wireValue {plan : OperationPlan} {binding : Binding}
    (member : binding ∈ plan.bindings) :
    EntryFor plan binding (binding.parameter.name, wireValue binding) := by
  have isLocal : binding.name ∈ plan.locals := List.mem_map_of_mem member
  refine ⟨rfl, wireValue_cases binding, ?_⟩
  intro notHidden
  cases wireValue_cases binding with
  | inl plain => simp [plain, isLocal]
  | inr joined =>
      obtain ⟨format, joined⟩ := joined
      simp [joined, isLocal, notHidden]

/-- The dictionary for a location has an entry for each of its locals, and is there if there are
any. -/
theorem dictionary?_eq (location : Location) (bindings : List Binding) :
    dictionary? location bindings = if located location bindings = [] then none
      else some (.dict ((located location bindings).map fun binding =>
        (binding.parameter.name, wireValue binding))) := by
  simp only [dictionary?]
  split
  · next nothing => rw [if_pos nothing]
  · next found => rw [if_neg found]

/-- The keys of a dictionary, if it is there. -/
def dictionaryKeys : Option Expr → List String
  | some (.dict entries) => entries.map (·.1)
  | _ => []

theorem dictionaryKeys_dictionary? (location : Location) (bindings : List Binding) :
    dictionaryKeys (dictionary? location bindings) =
      (located location bindings).map (·.parameter.name) := by
  rw [dictionary?_eq]
  split
  · next nothing => rw [nothing]; rfl
  · simp [dictionaryKeys, Function.comp_def]

/-- The names under which the dictionaries of a request hold values. -/
def sentNames (keywords : List (String × Expr)) : List String :=
  dictionarySlots.flatMap fun slot => dictionaryKeys (keywords.lookup slot.1)

variable {setting : Setting} {operation : Operation} {plan : OperationPlan}

theorem sentNames_eq (planned : Plan.plan setting operation = .ok plan) {body : Option Expr}
    {keywords : List (String × Expr)} (sent : Keywords plan body keywords) :
    sentNames keywords = dictionarySlots.flatMap fun slot =>
      (operation.parameters.filter (·.location = slot.2)).map (·.name) := by
  simp only [sentNames]
  apply List.flatMap_congr
  intro slot member
  rw [sent.dictionary slot member, dictionaryKeys_dictionary?, map_name_located planned]

/-- Among parameters of different names, the name of one is found once where it is looked for and
nowhere else. -/
theorem count_name_filter {parameters : List Parameter} (distinct : (parameters.map (·.name)).Nodup)
    {parameter : Parameter} (member : parameter ∈ parameters) (chosen : Parameter → Bool) :
    ((parameters.filter chosen).map (·.name)).count parameter.name =
      if chosen parameter then 1 else 0 := by
  split
  · next isChosen =>
      apply List.count_eq_one_of_mem
      · exact distinct.sublist (List.filter_sublist.map _)
      · exact List.mem_map_of_mem (List.mem_filter.2 ⟨member, isChosen⟩)
  · next notChosen =>
      apply List.count_eq_zero_of_not_mem
      intro inside
      obtain ⟨other, found, same⟩ := List.mem_map.1 inside
      obtain ⟨inParameters, isChosen⟩ := List.mem_filter.1 found
      have equal : other = parameter := List.inj_on_of_nodup_map distinct inParameters member same
      exact notChosen (equal ▸ isChosen)

theorem count_sentNames (planned : Plan.plan setting operation = .ok plan) {body : Option Expr}
    {keywords : List (String × Expr)} (sent : Keywords plan body keywords) {parameter : Parameter}
    (member : parameter ∈ operation.parameters) :
    (sentNames keywords).count parameter.name =
      if parameter.location ∈ dictionarySlots.map (·.2) then 1 else 0 := by
  have distinct := (nodup_locals planned).2
  rw [sentNames_eq planned sent]
  simp only [dictionarySlots, List.flatMap_cons, List.flatMap_nil, List.append_nil,
    List.count_append, count_name_filter distinct member]
  cases parameter.location <;> simp

theorem nodup_sentNames (planned : Plan.plan setting operation = .ok plan) {body : Option Expr}
    {keywords : List (String × Expr)} (sent : Keywords plan body keywords) :
    (sentNames keywords).Nodup := by
  rw [List.nodup_iff_count_le_one]
  intro name
  by_cases inside : name ∈ sentNames keywords
  · have found := inside
    rw [sentNames_eq planned sent] at found
    obtain ⟨slot, -, inSlot⟩ := List.mem_flatMap.1 found
    obtain ⟨parameter, inLocation, rfl⟩ := List.mem_map.1 inSlot
    rw [count_sentNames planned sent (List.mem_filter.1 inLocation).1]
    split <;> omega
  · rw [List.count_eq_zero_of_not_mem inside]
    omega

/-! ## Requests -/

/-- The body of a request is the local of the body parameter, if there is one. -/
theorem toList_body? {bindings : List Binding} {body : Option Expr}
    (found : body? bindings = .ok body) :
    body.toList = (located .body bindings).map (.name ·.name) := by
  simp only [body?] at found
  split at found
  · next none =>
      cases found
      rw [none]
      rfl
  · next binding one =>
      cases found
      rw [one]
      rfl
  · cases found

/-- There are locals for a location if there are parameters for it. -/
theorem located_ne_nil_iff (planned : Plan.plan setting operation = .ok plan)
    (location : Location) :
    located location plan.bindings ≠ [] ↔
      ∃ parameter ∈ operation.parameters, parameter.location = location := by
  rw [← map_parameter_bindings planned]
  simp [located, List.filter_eq_nil_iff]

/-- An optional part of an operation is shown if it is declared, by its annotation. -/
theorem rel_of_mapPart? {models : Models} {name part : String} {type : Option TypeRef}
    {found : Option Mapped} (done : mapPart? models name part type = .ok found) :
    Option.Rel (fun type shown => ∃ mapped, models.map type = .ok mapped ∧ shown = mapped.expr)
      type (found.map (·.expr)) := by
  cases type with
  | none =>
      cases done
      exact .none
  | some type =>
      obtain ⟨mapped, there, rfl⟩ := map_eq_ok_iff.1 done
      exact .some ⟨mapped, mapError_eq_ok_iff.1 there, rfl⟩

/-- How the keyword arguments of a request carry the parameters of an operation and its types. -/
structure Carries (models : Models) (operation : Operation) (plan : OperationPlan)
    (keywords : List (String × Expr)) : Prop where
  sublist : (keywords.map (·.1)).Sublist
    ["params", "headers", "data", "json", "response_model", "error_model"]
  /-- There is a dictionary for each location that has parameters. -/
  present : ∀ slot ∈ dictionarySlots, (keywords.lookup slot.1).isSome ↔
    ∃ parameter ∈ operation.parameters, parameter.location = slot.2
  /-- A dictionary has an entry for each local of its location, in their order. -/
  entries : ∀ slot ∈ dictionarySlots, ∀ value ∈ keywords.lookup slot.1,
    ∃ entries, value = .dict entries ∧
      List.Forall₂ (EntryFor plan) (located slot.2 plan.bindings) entries
  once : ∀ parameter ∈ operation.parameters, (sentNames keywords).count parameter.name =
    if parameter.location ∈ dictionarySlots.map (·.2) then 1 else 0
  distinct : (sentNames keywords).Nodup
  body : (keywords.lookup "json").toList = (located .body plan.bindings).map (.name ·.name)
  bodyPresent : (keywords.lookup "json").isSome ↔
    ∃ parameter ∈ operation.parameters, parameter.location = .body
  response : Option.Rel (fun type shown => ∃ mapped, models.map type = .ok mapped ∧
    shown = mapped.expr) operation.returnType (keywords.lookup "response_model")
  error : Option.Rel (fun type shown => ∃ mapped, models.map type = .ok mapped ∧
    shown = mapped.expr) operation.errorType (keywords.lookup "error_model")

theorem carries_of_keywords (planned : Plan.plan setting operation = .ok plan)
    {body : Option Expr} (bodyFound : body? plan.bindings = .ok body)
    {keywords : List (String × Expr)} (sent : Keywords plan body keywords) :
    Carries setting.models operation plan keywords := by
  obtain ⟨names, types, -, mapped, assembled⟩ := plan_eq_ok_iff.1 planned
  obtain ⟨-, returnType, errorType⟩ := mapTypes_eq_ok_iff.1 mapped
  have isBody : (keywords.lookup "json").toList =
      (located .body plan.bindings).map (.name ·.name) := by
    rw [sent.json]
    exact toList_body? bodyFound
  constructor
  case sublist => exact sent.sublist
  case present =>
    intro slot member
    rw [← located_ne_nil_iff planned, sent.dictionary slot member, dictionary?_eq]
    split
    · next none => simp [none]
    · next some => simp [some]
  case entries =>
    intro slot member value found
    rw [sent.dictionary slot member, dictionary?_eq] at found
    split at found
    · cases found
    · cases found
      refine ⟨_, rfl, List.forall₂_map_right_iff.2 (List.forall₂_same.2 ?_)⟩
      intro binding inLocation
      exact entryFor_wireValue (List.mem_filter.1 inLocation).1
  case once => exact fun parameter => count_sentNames planned sent
  case distinct => exact nodup_sentNames planned sent
  case body => exact isBody
  case bodyPresent =>
    have nothing : keywords.lookup "json" = none ↔ located .body plan.bindings = [] := by
      rw [← Option.toList_eq_nil_iff, isBody, List.map_eq_nil_iff]
    rw [← located_ne_nil_iff planned, Option.isSome_iff_ne_none]
    exact not_congr nothing
  case response =>
    rw [sent.response, assembled]
    exact rel_of_mapPart? returnType
  case error =>
    rw [sent.error, assembled]
    exact rel_of_mapPart? errorType

/-- The code for an operation cannot be written if it has two body parameters or more, and then the
failure names them.  Otherwise its functions send the same keyword arguments: each query, header and
form parameter has one entry, in the dictionary for its location and in the order of the
declarations, under its own name and with the value of its own local; no two entries have the same
name; and the body, the dictionaries and the types are there if the operation declares something for
them. -/
theorem request_carries_parameters (planned : Plan.plan setting operation = .ok plan)
    (modelsModule : String) :
    plan.bindings.map (·.parameter) = operation.parameters ∧ plan.locals.Nodup ∧
      ("format_collection" ∈ setting.reserved → "format_collection" ∉ plan.locals) ∧
      (∀ fault, endpoint modelsModule plan = .error fault ↔
        2 ≤ (operation.parameters.filter (·.location = .body)).length ∧
          fault = severalBodies operation) ∧
      ∀ code, endpoint modelsModule plan = .ok code →
        ∃ keywords, code.sync.results.map sentKeywords = [keywords] ∧
          code.async.results.map sentKeywords = [keywords] ∧
          Carries setting.models operation plan keywords := by
  refine ⟨map_parameter_bindings planned, (nodup_locals planned).1, ?helper, ?failure, ?written⟩
  case helper =>
    intro isReserved
    exact not_mem_locals planned isReserved (by decide)
  case failure =>
    intro fault
    rw [endpoint_eq_error_iff planned]
    simp [Operation.hasSeveralBodies, Operation.bodies, Nat.succ_le_iff]
  case written =>
    intro code written
    obtain ⟨keywords, found, rfl⟩ := endpoint_eq_ok_iff.1 written
    obtain ⟨body, bodyFound, sent⟩ := keywords_of_requestKeywords found
    refine ⟨keywords, ?_, ?_, carries_of_keywords planned bodyFound sent⟩
    · simp
    · simp

/-- An operation with parameters for every place of its request, in no order, and one that is called
like the helper that joins arrays. -/
def uploadPhotos : Operation where
  name := "uploadPhotos"
  method := "POST"
  path := "/pets/{id}/photos"
  parameters := [
    { name := "tags", location := .query, collectionFormat := some .pipes,
      type := { type := some "array", items := some { type := some "string" } } },
    { name := "caption", location := .form, type := { type := some "string" } },
    { name := "id", location := .path, required := true, type := { type := some "integer" } },
    { name := "format_collection", location := .header, type := { type := some "boolean" } },
    { name := "pet", location := .body, required := true, type := { ref := some "Pet" } },
    { name := "X-Trace", location := .header, type := { type := some "string" } }]
  returnType := some { ref := some "Pet" }
  errorType := some {}

/-- Every parameter of the operation is sent where it belongs, and the one that is called like the
helper does not hide it. -/
theorem uploadPhotos_carries :
    ∃ plan code keywords,
      Plan.plan ⟨.options, .ofSchemas ["Pet"], ["format_collection"]⟩ uploadPhotos = .ok plan ∧
      endpoint ".models" plan = .ok code ∧
      code.sync.results.map sentKeywords = [keywords] ∧
      keywords.map (·.1) =
        ["params", "headers", "data", "json", "response_model", "error_model"] ∧
      sentNames keywords = ["tags", "format_collection", "X-Trace", "caption"] ∧
      "format_collection" ∉ plan.locals ∧
      Carries (.ofSchemas ["Pet"]) uploadPhotos plan keywords := by
  have shown : ((Plan.plan ⟨.options, .ofSchemas ["Pet"], ["format_collection"]⟩
      uploadPhotos).toOption.bind fun plan => (endpoint ".models" plan).toOption.map fun code =>
        (code.sync.results.map sentKeywords).map fun keywords =>
          (keywords.map (·.1), sentNames keywords)) =
      some [(["params", "headers", "data", "json", "response_model", "error_model"],
        ["tags", "format_collection", "X-Trace", "caption"])] := by
    decide +kernel
  obtain ⟨plan, planned, shown⟩ := toOption_bind_eq_some_iff.1 shown
  obtain ⟨code, written, shown⟩ := toOption_map_eq_some_iff.1 shown
  obtain ⟨-, -, helper, -, request⟩ := request_carries_parameters planned ".models"
  obtain ⟨keywords, sync, -, carries⟩ := request code written
  rw [sync] at shown
  obtain ⟨keys, names⟩ := Prod.mk.inj (List.cons.inj shown).1
  exact ⟨plan, code, keywords, planned, written, sync, keys, names,
    helper List.mem_cons_self, carries⟩

end Bindery.Client
