import Bindery.Loading.Load
import Bindery.Proofs.JsonGrammar
import Bindery.Proofs.Steps

/-!
# Descriptions that are spelled otherwise

A description is made of records of five kinds, and each kind says what stands under its keys: plain
data, a record, a list of records, or records under names that the description chooses.  A key that
is written under its other spelling, in whatever records of a description, makes no difference.  A
key that a record does not have, in whatever record, makes the description be refused.
-/

namespace Bindery.Api

open Bindery.Data

/-! ## Records in descriptions -/

/-- The kinds of records that a description is made of. -/
inductive Kind where
  | document | schema | operation | parameter | type
  deriving DecidableEq, Repr

/-- What stands under a key: data of its own, a record, a list of records, or a map from chosen
names to records. -/
inductive Part where
  | data
  | one (kind : Kind)
  | several (kind : Kind)
  | named (kind : Kind)
  deriving DecidableEq, Repr

namespace Kind

/-- The keys of a kind of record. -/
def keys : Kind → List Key
  | document => Document.keys
  | schema => Schema.keys
  | operation => Operation.keys
  | parameter => Parameter.keys
  | type => TypeRef.keys

/-- What stands under a key of a kind of record. -/
def part (kind : Kind) (key : Key) : Part :=
  match kind, key.name with
  | document, "schemas" => .named .schema
  | document, "operations" => .several .operation
  | schema, "properties" => .named .type
  | operation, "parameters" => .several .parameter
  | operation, "returnType" | operation, "errorType" => .one .type
  | parameter, "type" => .one .type
  | type, "items" | type, "additionalProperties" => .one .type
  | _, _ => .data

/-- No two keys of a record have a spelling in common. -/
theorem apart_keys (kind : Kind) : Key.Apart kind.keys := by
  cases kind <;> decide

end Kind

mutual

/-- A part of a description in which keys of records are written under other spellings. -/
inductive Respelled : Part → Value → Value → Prop where
  | same (part : Part) (value : Value) : Respelled part value value
  | one {kind : Kind} {entries others : List (Value × Value)} :
      entries.length = others.length →
      (∀ pair ∈ entries.zip others, RespelledEntry kind pair.1 pair.2) →
      Respelled (.one kind) (.map entries) (.map others)
  | several {kind : Kind} {items others : List Value} :
      items.length = others.length →
      (∀ pair ∈ items.zip others, Respelled (.one kind) pair.1 pair.2) →
      Respelled (.several kind) (.list items) (.list others)
  | named {kind : Kind} {entries others : List (Value × Value)} :
      entries.length = others.length →
      (∀ pair ∈ entries.zip others, pair.1.1 = pair.2.1) →
      (∀ pair ∈ entries.zip others, Respelled (.one kind) pair.1.2 pair.2.2) →
      Respelled (.named kind) (.map entries) (.map others)

/-- An entry of a record that is written under a spelling of its key, or is kept. -/
inductive RespelledEntry : Kind → Value × Value → Value × Value → Prop where
  | key {kind : Kind} {key : Key} {name other : String} {value held : Value} :
      key ∈ kind.keys → name ∈ key.spellings → other ∈ key.spellings →
      Respelled (kind.part key) value held →
      RespelledEntry kind (.text name, value) (.text other, held)
  | kept (kind : Kind) (entry : Value × Value) : RespelledEntry kind entry entry

end

/-- A part of a description to which one key is added that the record it is in does not have. -/
inductive Intruded : Part → Value → Value → Prop where
  | here {kind : Kind} {before after : List (Value × Value)} {name : String} {value : Value} :
      (∀ key ∈ kind.keys, name ∉ key.spellings) →
      Intruded (.one kind) (.map (before ++ after)) (.map (before ++ (.text name, value) :: after))
  | key {kind : Kind} {key : Key} {name : String} {before after : List (Value × Value)}
      {value held : Value} :
      key ∈ kind.keys → name ∈ key.spellings → Intruded (kind.part key) value held →
      Intruded (.one kind) (.map (before ++ (.text name, value) :: after))
        (.map (before ++ (.text name, held) :: after))
  | item {kind : Kind} {before after : List Value} {item other : Value} :
      Intruded (.one kind) item other →
      Intruded (.several kind) (.list (before ++ item :: after)) (.list (before ++ other :: after))
  | named {kind : Kind} {before after : List (Value × Value)} {name value held : Value} :
      Intruded (.one kind) value held →
      Intruded (.named kind) (.map (before ++ (name, value) :: after))
        (.map (before ++ (name, held) :: after))

/-! ## Parts that are respelled -/

theorem eq_of_respelled_data {value held : Value} (respelled : Respelled .data value held) :
    value = held := by
  cases respelled
  rfl

theorem Respelled.record {kind : Kind} {entries others : List (Value × Value)}
    (each : List.Forall₂ (RespelledEntry kind) entries others) :
    Respelled (.one kind) (.map entries) (.map others) :=
  .one each.length_eq fun _ member => (List.forall₂_iff_zip.1 each).2 member

theorem Respelled.items {kind : Kind} {items others : List Value}
    (each : List.Forall₂ (Respelled (.one kind)) items others) :
    Respelled (.several kind) (.list items) (.list others) :=
  .several each.length_eq fun _ member => (List.forall₂_iff_zip.1 each).2 member

/-- An entry that is respelled stays the same key. -/
theorem RespelledEntry.changed {kind : Kind} {entry other : Value × Value}
    (respelled : RespelledEntry kind entry other) (json : entry.2.IsJson) :
    Key.Changed kind.keys
      (fun key value held => value.IsJson ∧ Respelled (kind.part key) value held) entry other := by
  intro also alsoDeclared
  cases respelled with
  | @key _ key name other _ _ declared spelled otherSpelled value =>
      simp only [Key.names_iff_mem]
      have only {written : String} (here : written ∈ key.spellings)
          (there : written ∈ also.spellings) : key = also :=
        kind.apart_keys key declared also alsoDeclared written here there
      constructor
      · constructor
        · intro named
          rwa [← only spelled named]
        · intro named
          rwa [← only otherSpelled named]
      · intro named
        rw [← only spelled named]
        exact ⟨json, value⟩
  | kept => exact ⟨Iff.rfl, fun _ => ⟨json, .same _ _⟩⟩

/-- A record that is respelled is a record with changed entries, or it is the same. -/
theorem Respelled.changed {kind : Kind} {value other : Value}
    (respelled : Respelled (.one kind) value other) (json : value.IsJson) :
    value = other ∨
      ∃ entries others, value = .map entries ∧ other = .map others ∧
        List.Forall₂ (Key.Changed kind.keys fun key value held =>
          value.IsJson ∧ Respelled (kind.part key) value held) entries others := by
  cases respelled with
  | same => exact .inl rfl
  | @one _ entries others length each =>
      right
      refine ⟨entries, others, rfl, rfl, List.forall₂_iff_zip.2 ⟨length, ?_⟩⟩
      intro entry other member
      exact (each _ member).changed (json.of_mem_map (List.of_mem_zip member).1)

/-! ## Reading what is respelled -/

/-- A reader of records of a kind gives the same for what is respelled. -/
def Steady {α : Type} (part : Part) (reader : Value → Checked α) : Prop :=
  ∀ value held, value.IsJson → Respelled part value held →
    (reader value).Preserved (reader held)

namespace Steady

variable {α : Type} {kind : Kind} {reader : Value → Checked α}

theorem data (reader : Value → Checked α) : Steady .data reader := by
  intro value held _ respelled
  rw [eq_of_respelled_data respelled]
  exact .refl _

theorem optional (steady : Steady (.one kind) reader) :
    Steady (.one kind) (Checked.optional reader) := by
  intro value held json respelled
  have inner := steady value held json respelled
  cases respelled with
  | same => exact .refl _
  | one =>
      intro result done
      obtain ⟨found, here, same⟩ := Checked.map_eq_valid_iff.1 done
      exact Checked.map_eq_valid_iff.2 ⟨found, inner found here, same⟩

theorem tuple (steady : Steady (.one kind) reader) :
    Steady (.several kind) (Checked.tuple reader) := by
  intro value held json respelled
  cases respelled with
  | same => exact .refl _
  | @several _ items others length each =>
      refine .tuple rfl rfl (List.forall₂_iff_zip.2 ⟨length, ?_⟩)
      intro item other member
      exact steady item other (json.of_mem_list (List.of_mem_zip member).1) (each _ member)

theorem dictionary (steady : Steady (.one kind) reader) :
    Steady (.named kind) (Checked.dictionary reader) := by
  intro value held json respelled
  cases respelled with
  | same => exact .refl _
  | @named _ entries others length names each =>
      refine .dictionary rfl rfl (List.forall₂_iff_zip.2 ⟨length, ?_⟩)
      intro entry other member
      exact ⟨names _ member,
        steady _ _ (json.of_mem_map (List.of_mem_zip member).1) (each _ member)⟩

variable {fields : List (Value × Value) → Checked α}

/-- A record that holds nothing but its keys is read as before if each of its keys is. -/
theorem ofMaps
    (unfolds : ∀ entries, reader (.map entries) =
      fields entries <* Key.nothingElse kind.keys entries)
    (each : ∀ entries others, Key.Tidy kind.keys entries →
      List.Forall₂ (Key.Changed kind.keys fun key value held =>
        value.IsJson ∧ Respelled (kind.part key) value held) entries others →
      (fields entries).Preserved (fields others)) :
    Steady (.one kind) reader := by
  intro value held json respelled
  cases respelled.changed json with
  | inl same =>
      rw [same]
      exact .refl _
  | inr maps =>
      obtain ⟨entries, others, rfl, rfl, changed⟩ := maps
      rw [unfolds, unfolds]
      intro result done
      obtain ⟨read, _, only⟩ := Checked.seqLeft_eq_valid_iff.1 done
      have tidy := Key.Tidy.of_nothingElse kind.apart_keys json.nodup_keys only
      have alsoOnly := (tidy.of_changed changed).nothingElse_eq_valid
      exact Checked.seqLeft_eq_valid_iff.2 ⟨each _ _ tidy changed _ read, _, alsoOnly⟩

end Steady

section

variable {kind : Kind} {key : Key} {entries others : List (Value × Value)}
  (tidy : Key.Tidy kind.keys entries)
  (changed : List.Forall₂ (Key.Changed kind.keys fun key value held =>
    value.IsJson ∧ Respelled (kind.part key) value held) entries others)
include tidy changed

/-- A key is read as before from a record that is respelled. -/
theorem Steady.read {α : Type} {reader : Value → Checked α} {absent : Checked α}
    (steady : Steady (kind.part key) reader) (declared : key ∈ kind.keys) :
    (key.read entries absent reader).Preserved (key.read others absent reader) :=
  Key.preserved_read tidy changed declared fun value held same => steady value held same.1 same.2

end

theorem steady_type (depth : Nat) (around : List Nat) :
    Steady (.one .type) (TypeRef.readWithin depth around) := by
  induction depth generalizing around with
  | zero =>
      intro value held _ _ found done
      rw [TypeRef.readWithin] at done
      cases done
  | succ depth ih =>
      refine .ofMaps (fun _ => rfl) fun entries others tidy changed => ?_
      refine ((((((Checked.Preserved.image _ ?_).seq ?_).seq ?_).seq ?_).seq ?_).seq ?_).seq ?_
      · exact Steady.read tidy changed (.data _) (by decide)
      · exact Steady.read tidy changed (.data _) (by decide)
      · exact Steady.read tidy changed (ih _).optional (by decide)
      · exact Steady.read tidy changed (ih _).optional (by decide)
      · exact Steady.read tidy changed (.data _) (by decide)
      · exact Steady.read tidy changed (.data _) (by decide)
      · exact Steady.read tidy changed (.data _) (by decide)

theorem steady_parameter : Steady (.one .parameter) Parameter.read := by
  refine .ofMaps (fun _ => rfl) fun entries others tidy changed => ?_
  refine (((((Checked.Preserved.image _ ?_).seq ?_).seq ?_).seq ?_).seq ?_).seq ?_
  · exact Steady.read tidy changed (.data _) (by decide)
  · exact Steady.read tidy changed (.data _) (by decide)
  · exact Steady.read tidy changed (.data _) (by decide)
  · exact Steady.read tidy changed (steady_type _ _) (by decide)
  · exact Steady.read tidy changed (.data _) (by decide)
  · exact Steady.read tidy changed (.data _) (by decide)

theorem steady_operation : Steady (.one .operation) Operation.read := by
  refine .ofMaps (fun _ => rfl) fun entries others tidy changed => ?_
  refine ((((((Checked.Preserved.image _ ?_).seq ?_).seq ?_).seq ?_).seq ?_).seq ?_).seq ?_
  · exact Steady.read tidy changed (.data _) (by decide)
  · exact Steady.read tidy changed (.data _) (by decide)
  · exact Steady.read tidy changed (.data _) (by decide)
  · exact Steady.read tidy changed steady_parameter.tuple (by decide)
  · exact Steady.read tidy changed (steady_type _ _).optional (by decide)
  · exact Steady.read tidy changed (steady_type _ _).optional (by decide)
  · exact Steady.read tidy changed (.data _) (by decide)

theorem steady_schema : Steady (.one .schema) Schema.read := by
  refine .ofMaps (fun _ => rfl) fun entries others tidy changed => ?_
  refine ((Checked.Preserved.image _ ?_).seq ?_).seq ?_
  · exact Steady.read tidy changed (.data _) (by decide)
  · exact Steady.read tidy changed (steady_type _ _).dictionary (by decide)
  · exact Steady.read tidy changed (.data _) (by decide)

theorem steady_document : Steady (.one .document) Document.read := by
  refine .ofMaps (fun _ => rfl) fun entries others tidy changed => ?_
  refine (((Checked.Preserved.image _ ?_).seq ?_).seq ?_).seq ?_
  · exact Steady.read tidy changed (.data _) (by decide)
  · exact Steady.read tidy changed (.data _) (by decide)
  · exact Steady.read tidy changed steady_schema.dictionary (by decide)
  · exact Steady.read tidy changed steady_operation.tuple (by decide)

/-! ## Reading what has a key too many -/

/-- A reader of records of a kind refuses what a key is added to. -/
def Refuses {α : Type} (part : Part) (reader : Value → Checked α) : Prop :=
  ∀ value held, value.IsJson → Intruded part value held → (reader held).Refused

namespace Refuses

variable {α : Type} {kind : Kind} {reader : Value → Checked α}

theorem data (reader : Value → Checked α) : Refuses .data reader := by
  intro value held _ intruded
  cases intruded

theorem optional (refuses : Refuses (.one kind) reader) :
    Refuses (.one kind) (Checked.optional reader) := by
  intro value held json intruded
  have inner := refuses value held json intruded
  have isMap : ∃ entries, held = .map entries := by
    cases intruded with
    | here => exact ⟨_, rfl⟩
    | key => exact ⟨_, rfl⟩
  obtain ⟨entries, rfl⟩ := isMap
  intro result done
  obtain ⟨found, here, _⟩ := Checked.map_eq_valid_iff.1 done
  exact inner found here

theorem tuple (refuses : Refuses (.one kind) reader) :
    Refuses (.several kind) (Checked.tuple reader) := by
  intro value held json intruded
  cases intruded with
  | @item _ before after item other inner =>
      have ofItem := json.of_mem_list (List.mem_append_right before List.mem_cons_self)
      exact .tuple rfl (List.mem_append_right before List.mem_cons_self)
        (refuses item other ofItem inner)

theorem dictionary (refuses : Refuses (.one kind) reader) :
    Refuses (.named kind) (Checked.dictionary reader) := by
  intro value held json intruded
  cases intruded with
  | @named _ before after name value held inner =>
      have ofEntry := json.of_mem_map (List.mem_append_right before List.mem_cons_self)
      exact .dictionary rfl (List.mem_append_right before List.mem_cons_self)
        (refuses value held ofEntry inner)

end Refuses

/-- What a record holds under one of its keys is something that a key is added to. -/
def IntrudedAt (kind : Kind) (key : Key) (entries : List (Value × Value)) : Prop :=
  ∃ name value held, key.find? entries = some (name, held) ∧ value.IsJson ∧
    Intruded (kind.part key) value held

section

variable {kind : Kind} {key : Key} {entries : List (Value × Value)}

theorem IntrudedAt.part_ne_data (intruded : IntrudedAt kind key entries) :
    kind.part key ≠ .data := by
  obtain ⟨_, _, _, _, _, inner⟩ := intruded
  intro isData
  rw [isData] at inner
  cases inner

/-- A key is refused in a record if what stands under it is. -/
theorem IntrudedAt.refused {α : Type} {reader : Value → Checked α} {absent : Checked α}
    (intruded : IntrudedAt kind key entries) (refuses : Refuses (kind.part key) reader) :
    (key.read entries absent reader).Refused := by
  obtain ⟨name, value, held, found, json, inner⟩ := intruded
  rw [Key.read, found]
  exact (refuses value held json inner).under name

/-- A record with a key that its kind does not have holds more than its keys. -/
theorem nothingElse_ne_valid {before after : List (Value × Value)} {name : String} {value : Value}
    (stray : ∀ key ∈ kind.keys, name ∉ key.spellings) :
    Key.nothingElse kind.keys (before ++ (.text name, value) :: after) ≠ .valid () := by
  rw [Ne, Key.nothingElse_eq_valid_iff]
  intro only
  obtain ⟨used, isUsed, same⟩ := only _ (List.mem_append_right before List.mem_cons_self)
  cases same
  obtain ⟨key, declared, found, here⟩ := Key.mem_used_iff.1 isUsed
  exact stray key declared (Key.mem_of_find? here).1

end

/-- A record that holds nothing but its keys is refused if one of its keys is. -/
theorem Refuses.ofMaps {α : Type} {kind : Kind} {reader : Value → Checked α}
    {fields : List (Value × Value) → Checked α}
    (unfolds : ∀ entries, reader (.map entries) =
      fields entries <* Key.nothingElse kind.keys entries)
    (each : ∀ key ∈ kind.keys, ∀ entries, IntrudedAt kind key entries →
      (fields entries).Refused) :
    Refuses (.one kind) reader := by
  intro value held json intruded
  cases intruded with
  | here stray =>
      rw [unfolds]
      intro result done
      obtain ⟨_, _, only⟩ := Checked.seqLeft_eq_valid_iff.1 done
      exact nothingElse_ne_valid stray only
  | @key _ key name before after value held declared spelled inner =>
      rw [unfolds]
      intro result done
      obtain ⟨read, _, only⟩ := Checked.seqLeft_eq_valid_iff.1 done
      -- The keys are those of the record that nothing is added to, so they differ.
      have distinct := json.nodup_keys
      have sameKeys : (before ++ (.text name, value) :: after).map (·.1) =
          (before ++ (.text name, held) :: after).map (·.1) := by simp
      rw [sameKeys] at distinct
      have tidy := Key.Tidy.of_nothingElse kind.apart_keys distinct only
      have member : (.text name, held) ∈ before ++ (.text name, held) :: after :=
        List.mem_append_right before List.mem_cons_self
      have found := (tidy.find?_eq_some_iff declared).2 ⟨spelled, member⟩
      have ofEntry := json.of_mem_map (List.mem_append_right before List.mem_cons_self)
      exact each key declared _ ⟨name, value, held, found, ofEntry, inner⟩ result read

theorem refuses_type (depth : Nat) (around : List Nat) :
    Refuses (.one .type) (TypeRef.readWithin depth around) := by
  induction depth generalizing around with
  | zero =>
      intro value held _ _ found done
      rw [TypeRef.readWithin] at done
      cases done
  | succ depth ih =>
      have parts : ∀ key ∈ TypeRef.keys, Kind.type.part key ≠ .data →
          key = .plain "items" ∨ key = ⟨"additionalProperties", "additional_properties"⟩ := by
        decide
      refine .ofMaps (fun _ => rfl) fun key declared entries intruded => ?_
      cases parts key declared intruded.part_ne_data with
      | inl items =>
          subst items
          exact (((((intruded.refused (ih _).optional).second _).first _).first _).first _).first _
      | inr values =>
          subst values
          exact ((((intruded.refused (ih _).optional).second _).first _).first _).first _

theorem refuses_parameter : Refuses (.one .parameter) Parameter.read := by
  have parts : ∀ key ∈ Parameter.keys, Kind.parameter.part key ≠ .data → key = .plain "type" := by
    decide
  refine .ofMaps (fun _ => rfl) fun key declared entries intruded => ?_
  have type := parts key declared intruded.part_ne_data
  subst type
  exact (((intruded.refused (refuses_type _ _)).second _).first _).first _

theorem refuses_operation : Refuses (.one .operation) Operation.read := by
  have parts : ∀ key ∈ Operation.keys, Kind.operation.part key ≠ .data →
      key = .plain "parameters" ∨ key = ⟨"returnType", "return_type"⟩ ∨
        key = ⟨"errorType", "error_type"⟩ := by
    decide
  refine .ofMaps (fun _ => rfl) fun key declared entries intruded => ?_
  obtain parameters | returned | raised := parts key declared intruded.part_ne_data
  · subst parameters
    exact ((((intruded.refused refuses_parameter.tuple).second _).first _).first _).first _
  · subst returned
    exact (((intruded.refused (refuses_type _ _).optional).second _).first _).first _
  · subst raised
    exact ((intruded.refused (refuses_type _ _).optional).second _).first _

theorem refuses_schema : Refuses (.one .schema) Schema.read := by
  have parts : ∀ key ∈ Schema.keys, Kind.schema.part key ≠ .data → key = .plain "properties" := by
    decide
  refine .ofMaps (fun _ => rfl) fun key declared entries intruded => ?_
  have properties := parts key declared intruded.part_ne_data
  subst properties
  exact ((intruded.refused (refuses_type _ _).dictionary).second _).first _

theorem refuses_document : Refuses (.one .document) Document.read := by
  have parts : ∀ key ∈ Document.keys, Kind.document.part key ≠ .data →
      key = .plain "schemas" ∨ key = .plain "operations" := by
    decide
  refine .ofMaps (fun _ => rfl) fun key declared entries intruded => ?_
  cases parts key declared intruded.part_ne_data with
  | inl schemas =>
      subst schemas
      exact ((intruded.refused refuses_schema.dictionary).second _).first _
  | inr operations =>
      subst operations
      exact (intruded.refused refuses_operation.tuple).second _

end Bindery.Api

namespace Bindery.Loading

open Bindery.Api Bindery.Data

/-- Of a description that is accepted, every respelling is accepted as the same description, and
whatever has a key too many in one of its records is refused.  A key changes its spelling where it
stands, so no record has both spellings; the names of schemas and properties are kept. -/
theorem accept_respelled {source : String} {content : Value} {document : Document}
    (json : content.IsJson) (accepted : accept source content = .ok document) :
    (∀ other, Respelled (.one .document) content other → accept source other = .ok document) ∧
      ∀ other, Intruded (.one .document) content other →
        ∃ issues, accept source other = .error (.fault (.invalidDocument source issues)) := by
  have read : Document.read content = .valid document := by
    rw [accept] at accepted
    cases result : Document.read content with
    | valid found =>
        rw [result] at accepted
        cases accepted
        rfl
    | invalid issues =>
        rw [result] at accepted
        cases accepted
  constructor
  · intro other respelled
    rw [accept, steady_document content other json respelled document read]
  · intro other intruded
    obtain ⟨issues, refused⟩ := (refuses_document content other json intruded).exists_issues
    rw [accept, refused]
    exact ⟨_, rfl⟩

/-- A description whose one operation takes a map of tags, written with given spellings of three
keys, and with given other keys in the type of the map. -/
def tagging (base place values : String) (stray : List (Value × Value)) : Value :=
  .map [
    (.text base, .text "https://kennel.test"),
    (.text "operations", .list [
      .map [
        (.text "name", .text "tagDog"),
        (.text "parameters", .list [
          .map [
            (.text "name", .text "tags"),
            (.text place, .text "query"),
            (.text "type",
              .map (stray ++ [(.text values, .map [(.text "type", .text "string")])]))]])]])]

/-- Both spellings of the keys make the same description, and one more key in the type of the map
is one too many. -/
theorem accept_tagging_respelled :
    ∃ document, accept "tags.json" (tagging "base_url" "location" "additional_properties" []) =
        .ok document ∧
      ∃ issues, accept "tags.json" (tagging "baseUrl" "in" "additionalProperties"
        [(.text "colour", .null)]) = .error (.fault (.invalidDocument "tags.json" issues)) := by
  have json : (tagging "baseUrl" "in" "additionalProperties" []).IsJson := by
    repeat
      first
      | exact .text _
      | refine .map (by simp) (by simp) ?_
      | refine .list ?_
      | refine List.forall_mem_cons.2 ⟨?_, ?_⟩
      | exact fun _ none => absurd none List.not_mem_nil
  have accepted : (accept "tags.json"
      (tagging "baseUrl" "in" "additionalProperties" [])).toOption.isSome = true := by
    decide +kernel
  obtain ⟨document, accepted⟩ := Steps.isSome_toOption_iff.1 accepted
  obtain ⟨respelled, intruded⟩ := accept_respelled json accepted
  refine ⟨document, respelled _ ?_, intruded _ ?_⟩
  · have type : Respelled (.one .type)
        (.map [(.text "additionalProperties", .map [(.text "type", .text "string")])])
        (.map [(.text "additional_properties", .map [(.text "type", .text "string")])]) :=
      .record (.cons
        (@RespelledEntry.key _ ⟨"additionalProperties", "additional_properties"⟩ _ _ _ _
          (by decide) (by decide) (by decide) (.same _ _)) .nil)
    have parameter := Respelled.record (.cons (.kept .parameter (.text "name", .text "tags"))
      (.cons (@RespelledEntry.key _ ⟨"in", "location"⟩ "in" "location" _ _
        (by decide) (by decide) (by decide) (.same _ (.text "query")))
      (.cons (@RespelledEntry.key _ (.plain "type") "type" "type" _ _
        (by decide) (by decide) (by decide) type) .nil)))
    have operation := Respelled.record (.cons (.kept .operation (.text "name", .text "tagDog"))
      (.cons (@RespelledEntry.key _ (.plain "parameters") "parameters" "parameters" _ _
        (by decide) (by decide) (by decide)
        (.items (.cons parameter .nil))) .nil))
    exact .record (.cons (@RespelledEntry.key _ ⟨"baseUrl", "base_url"⟩ _ _ _ _
        (by decide) (by decide) (by decide) (.same _ _))
      (.cons (@RespelledEntry.key _ (.plain "operations") "operations" "operations" _ _
        (by decide) (by decide) (by decide)
        (.items (.cons operation .nil))) .nil))
  · have type : Intruded (.one .type)
        (.map [(.text "additionalProperties", .map [(.text "type", .text "string")])])
        (.map [(.text "colour", .null),
          (.text "additionalProperties", .map [(.text "type", .text "string")])]) :=
      @Intruded.here .type [] _ _ _ (by decide)
    have parameter := @Intruded.key .parameter (.plain "type") "type"
      [(.text "name", .text "tags"), (.text "in", .text "query")] [] _ _
      (by decide) (by decide) type
    have operation := @Intruded.key .operation (.plain "parameters") "parameters"
      [(.text "name", .text "tagDog")] [] _ _ (by decide) (by decide)
      (@Intruded.item _ [] [] _ _ parameter)
    exact @Intruded.key .document (.plain "operations") "operations"
      [(.text "baseUrl", .text "https://kennel.test")] [] _ _ (by decide) (by decide)
      (@Intruded.item _ [] [] _ _ operation)

end Bindery.Loading
