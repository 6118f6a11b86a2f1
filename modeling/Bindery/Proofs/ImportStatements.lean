import Bindery.Proofs.ModelNames
import Mathlib.Data.List.Sort

/-!
# Import statements as a normal form

Names are asked for while the code of a module is put together: one by one or many at a time, in any
order, and over and over again.  The import statements forget that history.  The predicate
`Canonical` says what statements there are for the names that are asked for from each module,
without a word about how they were collected, and leaves no choice: statements that satisfy it for
the same names are equal.
-/

namespace Bindery.Code

namespace Imports

/-! ## The order of import statements -/

/-- The place of a group among the import statements. -/
def Origin.rank : Origin → Nat
  | standard => 0
  | thirdParty => 1
  | relative => 2

/-- A module goes before another if its group does, or by its name within one group. -/
def Precedes (first second : String) : Prop :=
  (origin first).rank < (origin second).rank ∨ origin first = origin second ∧ first < second

theorem Precedes.asymm {first second : String} (before : Precedes first second) :
    ¬ Precedes second first := by
  rintro (after | ⟨sameOrigin, after⟩)
  · rcases before with before | ⟨sameOrigin, -⟩
    · exact Nat.lt_asymm before after
    · exact absurd after (by rw [sameOrigin]; exact Nat.lt_irrefl _)
  · rcases before with before | ⟨-, before⟩
    · exact absurd before (by rw [sameOrigin]; exact Nat.lt_irrefl _)
    · exact String.lt_asymm before after

instance : Std.Asymm fun first second : Import => Precedes first.module second.module :=
  ⟨fun _ _ before => before.asymm⟩

theorem pairwise_orderedModules (imports : Imports) :
    imports.orderedModules.Pairwise Precedes := by
  have within (kind : Origin) :
      (imports.emittedModules.filter (origin · = kind)).Pairwise Precedes := by
    have byName : (imports.emittedModules.filter (origin · = kind)).Pairwise (· < ·) :=
      ((pairwise_lt_ascending _).filter _).filter _
    refine byName.imp_of_mem fun inFirst inSecond before => ?_
    have first := of_decide_eq_true (List.mem_filter.1 inFirst).2
    have second := of_decide_eq_true (List.mem_filter.1 inSecond).2
    exact .inr ⟨first.trans second.symm, before⟩
  have across {first second : String} {earlier later : Origin}
      (inEarlier : first ∈ imports.emittedModules.filter (origin · = earlier))
      (inLater : second ∈ imports.emittedModules.filter (origin · = later))
      (order : earlier.rank < later.rank) : Precedes first second := by
    rw [← of_decide_eq_true (List.mem_filter.1 inEarlier).2,
      ← of_decide_eq_true (List.mem_filter.1 inLater).2] at order
    exact .inl order
  simp only [orderedModules, List.pairwise_append, List.mem_append]
  refine ⟨⟨within _, within _, fun _ first _ second => across first second (by decide)⟩,
    within _, ?_⟩
  rintro first (inFirst | inFirst) second inSecond
  · exact across inFirst inSecond (by decide)
  · exact across inFirst inSecond (by decide)

/-! ## The statements for what is asked for -/

/-- Some import statements are those for the names that are asked for from each module: one for
every module but the one that is always there, in order, each with its dots apart from its name and
with its names in order. -/
structure Canonical (asked : String → String → Prop) (statements : List Import) : Prop where
  ordered : statements.Pairwise fun first second => Precedes first.module second.module
  complete : ∀ module, (∃ statement ∈ statements, statement.module = module) ↔
    module ≠ "builtins" ∧ ∃ name, asked module name
  parted : ∀ statement ∈ statements, statement.source.toList.head? ≠ some '.'
  increasing : ∀ statement ∈ statements, statement.names.Pairwise (· < ·)
  mem_iff : ∀ statement ∈ statements, ∀ name,
    name ∈ statement.names ↔ asked statement.module name

/-- The dots of a statement and its source can be read off the module that it names. -/
theorem parts_of_module {statement : Import}
    (parted : statement.source.toList.head? ≠ some '.') :
    statement.dots = (statement.module.toList.takeWhile (· = '.')).length ∧
      statement.source = String.ofList (statement.module.toList.dropWhile (· = '.')) := by
  have dots : ∀ c ∈ List.replicate statement.dots '.', decide (c = '.') = true := by simp
  have takes : statement.source.toList.takeWhile (· = '.') = [] := by
    cases shape : statement.source.toList with
    | nil => rfl
    | cons c rest => exact List.takeWhile_cons_of_neg (by simpa [shape] using parted)
  have drops : statement.source.toList.dropWhile (· = '.') = statement.source.toList := by
    simpa [takes] using List.takeWhile_append_dropWhile (p := (· = '.'))
      (l := statement.source.toList)
  rw [Import.module, String.toList_ofList, List.takeWhile_append_of_pos dots,
    List.dropWhile_append_of_pos dots, takes, drops]
  simp

namespace Canonical

variable {asked others : String → String → Prop} {statements more : List Import}

/-- What is asked for from a module can be read off its statement. -/
theorem asked_iff (canonical : Canonical asked statements) {module name : String}
    (emitted : module ≠ "builtins") :
    asked module name ↔
      ∃ statement ∈ statements, statement.module = module ∧ name ∈ statement.names := by
  constructor
  · intro wanted
    obtain ⟨statement, member, rfl⟩ := (canonical.complete module).2 ⟨emitted, name, wanted⟩
    exact ⟨statement, member, rfl, (canonical.mem_iff statement member name).2 wanted⟩
  · rintro ⟨statement, member, rfl, inside⟩
    exact (canonical.mem_iff statement member name).1 inside

/-- Statements for the same names that name one module are equal. -/
theorem eq_of_module_eq (canonical : Canonical asked statements) (other : Canonical asked more)
    {first second : Import} (inFirst : first ∈ statements) (inSecond : second ∈ more)
    (same : first.module = second.module) : first = second := by
  obtain ⟨dots, source⟩ := parts_of_module (canonical.parted first inFirst)
  obtain ⟨otherDots, otherSource⟩ := parts_of_module (other.parted second inSecond)
  have names : first.names = second.names := by
    refine (canonical.increasing first inFirst).eq_of_mem_iff
      (other.increasing second inSecond) fun name => ?_
    rw [canonical.mem_iff first inFirst, other.mem_iff second inSecond, same]
  rw [same, ← otherDots] at dots
  rw [same, ← otherSource] at source
  cases first
  cases second
  cases dots
  cases source
  cases names
  rfl

theorem subset (canonical : Canonical asked statements) (other : Canonical asked more) :
    statements ⊆ more := by
  intro statement member
  have listed := (canonical.complete statement.module).1 ⟨statement, member, rfl⟩
  obtain ⟨found, inMore, same⟩ := (other.complete statement.module).2 listed
  rwa [canonical.eq_of_module_eq other member inMore same.symm]

/-- There is one list of statements for what is asked for. -/
theorem unique (canonical : Canonical asked statements) (other : Canonical asked more) :
    statements = more :=
  canonical.ordered.eq_of_mem_iff other.ordered fun _ =>
    ⟨fun member => canonical.subset other member, fun member => other.subset canonical member⟩

/-- What is asked for from the module that is always there does not count. -/
theorem congr (canonical : Canonical asked statements)
    (same : ∀ module name, module ≠ "builtins" → (asked module name ↔ others module name)) :
    Canonical others statements where
  ordered := canonical.ordered
  complete module := by
    rw [canonical.complete module]
    exact and_congr_right fun emitted => exists_congr fun name => same module name emitted
  parted := canonical.parted
  increasing := canonical.increasing
  mem_iff statement member name := by
    have emitted := ((canonical.complete statement.module).1 ⟨statement, member, rfl⟩).1
    rw [canonical.mem_iff statement member name, same statement.module name emitted]

/-- Two lists of statements are equal exactly if the same is asked for, apart from the module that
is always there. -/
theorem eq_iff (canonical : Canonical asked statements) (other : Canonical others more) :
    statements = more ↔
      ∀ module name, module ≠ "builtins" → (asked module name ↔ others module name) := by
  constructor
  · rintro rfl module name emitted
    rw [canonical.asked_iff emitted, other.asked_iff emitted]
  · intro same
    exact (canonical.congr same).unique other

end Canonical

/-- Every module that is asked for is asked for some name. -/
def Full (imports : Imports) : Prop := ∀ request ∈ imports.requests, request.2 ≠ []

/-- The statements that are written for some imports are those for the names that they ask for. -/
theorem canonical_statements {imports : Imports} (full : imports.Full) :
    Canonical (fun module name => name ∈ imports.names module) imports.statements := by
  rw [statements_eq]
  constructor
  case ordered =>
    rw [List.pairwise_map]
    simpa only [module_statement] using pairwise_orderedModules imports
  case complete =>
    intro module
    simp only [List.mem_map, exists_exists_and_eq_and, module_statement, exists_eq_right,
      mem_orderedModules, mem_modules, mem_names]
    constructor
    · rintro ⟨⟨names, asked⟩, emitted⟩
      obtain ⟨name, member⟩ := List.exists_mem_of_ne_nil names (full _ asked)
      exact ⟨emitted, name, names, asked, member⟩
    · rintro ⟨emitted, -, names, asked, -⟩
      exact ⟨⟨names, asked⟩, emitted⟩
  case parted =>
    rw [List.forall_mem_map]
    intro module _ dot
    simp only [statement, String.toList_ofList] at dot
    simpa [dot] using List.head?_dropWhile_not (· = '.') module.toList
  case increasing =>
    rw [List.forall_mem_map]
    exact fun module _ => pairwise_lt_ascending _
  case mem_iff =>
    rw [List.forall_mem_map]
    intro module _ name
    rw [module_statement]
    rfl

/-! ## How names are collected -/

/-- A call that adds to what is asked for: one name from a module, or requests for several names
from several modules. -/
inductive Addition where
  | one (module name : String)
  | several (requests : List (String × List String))
  deriving Repr

/-- What a call adds to the imports. -/
def Addition.imports : Addition → Imports
  | one module name => .from_ module [name]
  | several requests => ⟨requests⟩

/-- A call adds a name from a module. -/
def Addition.Adds : Addition → String → String → Prop
  | one asked wanted, module, name => module = asked ∧ name = wanted
  | several requests, module, name => ∃ names, (module, names) ∈ requests ∧ name ∈ names

/-- A call adds some name from every module that it mentions. -/
def Addition.Full : Addition → Prop
  | one _ _ => True
  | several requests => ∀ request ∈ requests, request.2 ≠ []

instance : DecidablePred Addition.Full
  | .one _ _ => inferInstanceAs (Decidable True)
  | .several requests => inferInstanceAs (Decidable (∀ request ∈ requests, request.2 ≠ []))

/-- One call after others. -/
def add (imports : Imports) (addition : Addition) : Imports := imports ++ addition.imports

/-- What has been asked for after some calls. -/
def collect (additions : List Addition) : Imports := additions.foldl add {}

section Collect

variable {imports : Imports} {additions : List Addition} {module name : String}

theorem mem_names_add {addition : Addition} :
    name ∈ (imports.add addition).names module ↔
      name ∈ imports.names module ∨ addition.Adds module name := by
  rw [add, mem_names_append]
  refine or_congr_right ?_
  cases addition with
  | one =>
      rw [Addition.imports, mem_names_from_, List.mem_singleton]
      rfl
  | several =>
      rw [Addition.imports, mem_names]
      rfl

theorem Full.add {addition : Addition} (full : imports.Full) (more : addition.Full) :
    (imports.add addition).Full := by
  intro request member
  rcases List.mem_append.1 member with before | inAddition
  · exact full request before
  · cases addition with
    | one =>
        cases List.mem_singleton.1 inAddition
        simp
    | several => exact more request inAddition

/-- A run of calls adds to what was there what its calls add. -/
theorem mem_names_foldl_add :
    name ∈ (additions.foldl add imports).names module ↔
      name ∈ imports.names module ∨ ∃ addition ∈ additions, addition.Adds module name := by
  induction additions generalizing imports with
  | nil => simp
  | cons addition rest ih => rw [List.foldl_cons, ih, mem_names_add, List.exists_mem_cons_iff,
      or_assoc]

theorem Full.foldl_add (full : imports.Full) (more : ∀ addition ∈ additions, addition.Full) :
    (additions.foldl Imports.add imports).Full := by
  induction additions generalizing imports with
  | nil => exact full
  | cons addition rest ih =>
      obtain ⟨first, later⟩ := List.forall_mem_cons.1 more
      exact ih (full.add first) later

end Collect

/-- A name has been asked for from a module by one of some calls. -/
def Asked (additions : List Addition) (module name : String) : Prop :=
  ∃ addition ∈ additions, addition.Adds module name

theorem canonical_collect {additions : List Addition}
    (full : ∀ addition ∈ additions, addition.Full) :
    Canonical (Asked additions) (collect additions).statements := by
  have nothing : Full {} := by
    intro request member
    cases member
  refine (canonical_statements (nothing.foldl_add full)).congr fun module name _ => ?_
  rw [mem_names_foldl_add]
  simp [Asked]

/-- After calls that each add some name from every module that they mention, the statements are
those for the names that were asked for, and no others would be.  Calls that ask for the same names
have the same statements, however they are ordered, grouped and repeated. -/
theorem collected_statements_canonical {additions : List Addition}
    (full : ∀ addition ∈ additions, addition.Full) :
    Canonical (Asked additions) (collect additions).statements ∧
    (∀ statements, Canonical (Asked additions) statements →
      statements = (collect additions).statements) ∧
    ∀ others : List Addition, (∀ addition ∈ others, addition.Full) →
      ((collect others).statements = (collect additions).statements ↔
        ∀ module name, module ≠ "builtins" →
          (Asked others module name ↔ Asked additions module name)) := by
  have canonical := canonical_collect full
  exact ⟨canonical, fun _ other => other.unique canonical,
    fun _ otherFull => (canonical_collect otherFull).eq_iff canonical⟩

/-- Calls that ask for names from modules of every group, and from the one that is always there. -/
def mixedAdditions : List Addition := [
  .one ".models" "Pet", .several [("typing", ["Literal", "Any"]), ("builtins", ["str"])],
  .one "pydantic" "BaseModel", .one "typing" "Any", .one "datetime" "date"]

/-- The same names, asked for in other calls. -/
def regroupedAdditions : List Addition := [
  .several [("datetime", ["date"]), (".models", ["Pet", "Pet"])], .one "typing" "Literal",
  .several [("typing", ["Any"]), ("pydantic", ["BaseModel"])]]

/-- Both ways to ask for the names have the same statements. -/
theorem regroupedAdditions_canonical :
    (∀ addition ∈ mixedAdditions, addition.Full) ∧
    (∀ addition ∈ regroupedAdditions, addition.Full) ∧
    Canonical (Asked mixedAdditions) (collect mixedAdditions).statements ∧
    (collect mixedAdditions).statements = [
      ⟨0, "datetime", ["date"]⟩, ⟨0, "typing", ["Any", "Literal"]⟩, ⟨0, "pydantic", ["BaseModel"]⟩,
      ⟨1, "models", ["Pet"]⟩] ∧
    (collect regroupedAdditions).statements = (collect mixedAdditions).statements ∧
    ∀ module name, module ≠ "builtins" →
      (Asked regroupedAdditions module name ↔ Asked mixedAdditions module name) := by
  have full : ∀ addition ∈ mixedAdditions, addition.Full := by decide
  have regroupedFull : ∀ addition ∈ regroupedAdditions, addition.Full := by decide
  have same : (collect regroupedAdditions).statements = (collect mixedAdditions).statements := by
    decide +kernel
  obtain ⟨canonical, -, equal⟩ := collected_statements_canonical full
  exact ⟨full, regroupedFull, canonical, by decide +kernel, same,
    (equal regroupedAdditions regroupedFull).1 same⟩

end Imports

end Bindery.Code
