import Bindery.Proofs.Checks
import Mathlib.Data.List.Pairwise

/-!
# Records with two spellings for a key

A record that holds nothing but its keys holds each of them once, under one of its spellings.  In
such a record a key is found exactly where one of its spellings stands.
-/

namespace Bindery.Data

namespace Value

/-- A key of a map is the same as a text only if it is that text. -/
theorem sameKey_text_iff {key : Value} {name : String} :
    key.sameKey (.text name) = true ↔ key = .text name := by
  cases key with
  | text other => simp [sameKey, number?]
  | real value => cases known : value.toInt? <;> simp [sameKey, number?, known]
  | _ => simp [sameKey, number?]

/-- What a map holds under a text stands in one of its entries. -/
theorem mem_of_find? {entries : List (Value × Value)} {name : String} {value : Value}
    (found : find? entries name = some value) : (.text name, value) ∈ entries := by
  rw [find?, Option.map_eq_some_iff] at found
  obtain ⟨⟨key, held⟩, here, rfl⟩ := found
  have same := List.find?_some here
  rw [sameKey_text_iff] at same
  exact same ▸ List.mem_of_find?_eq_some here

theorem find?_eq_none_iff {entries : List (Value × Value)} {name : String} :
    find? entries name = none ↔ ∀ entry ∈ entries, entry.1 ≠ .text name := by
  rw [find?, Option.map_eq_none_iff, List.find?_eq_none]
  simp only [sameKey_text_iff, ne_eq]

end Value

namespace Key

/-- The names that a key can be written under. -/
def spellings (key : Key) : List String := [key.name, key.spelling]

/-- A value in the place of a key is one of the spellings of a key. -/
def Names (key : Key) (written : Value) : Prop := ∃ name ∈ key.spellings, written = .text name

/-- No two of several keys have a spelling in common. -/
def Apart (keys : List Key) : Prop :=
  ∀ key ∈ keys, ∀ other ∈ keys, ∀ name ∈ key.spellings, name ∈ other.spellings → key = other

instance (keys : List Key) : Decidable (Apart keys) :=
  inferInstanceAs
    (Decidable (∀ key ∈ keys, ∀ other ∈ keys, ∀ name ∈ key.spellings, name ∈ other.spellings →
      key = other))

/-- Every entry of a record is one of its keys, and no two entries are the same key. -/
structure Tidy (keys : List Key) (entries : List (Value × Value)) : Prop where
  declared : ∀ entry ∈ entries, ∃ key ∈ keys, key.Names entry.1
  single : entries.Pairwise fun first second =>
    ∀ key ∈ keys, ¬ (key.Names first.1 ∧ key.Names second.1)

variable {keys : List Key} {entries : List (Value × Value)} {key : Key} {name : String}
  {value : Value}

theorem names_iff_mem (key : Key) (name : String) :
    key.Names (.text name) ↔ name ∈ key.spellings := by
  simp [Names]

theorem Apart.eq_of_names (apart : Apart keys) {other : Key} (first : key ∈ keys)
    (second : other ∈ keys) {written : Value} (named : key.Names written)
    (also : other.Names written) : key = other := by
  obtain ⟨name, spelled, rfl⟩ := named
  exact apart key first other second name spelled ((names_iff_mem other name).1 also)

/-! ## Looking up -/

theorem mem_of_find? (found : key.find? entries = some (name, value)) :
    name ∈ key.spellings ∧ (.text name, value) ∈ entries := by
  rw [find?] at found
  cases known : Value.find? entries key.name with
  | some held =>
      rw [known] at found
      cases found
      exact ⟨List.mem_cons_self, Value.mem_of_find? known⟩
  | none =>
      rw [known, Option.map_eq_some_iff] at found
      obtain ⟨held, here, same⟩ := found
      cases same
      exact ⟨List.mem_cons_of_mem _ List.mem_cons_self, Value.mem_of_find? here⟩

theorem find?_eq_none_iff : key.find? entries = none ↔ ∀ entry ∈ entries, ¬ key.Names entry.1 := by
  have absent : key.find? entries = none ↔
      Value.find? entries key.name = none ∧ Value.find? entries key.spelling = none := by
    rw [find?]
    cases Value.find? entries key.name with
    | some held => simp
    | none => simp
  rw [absent, Value.find?_eq_none_iff, Value.find?_eq_none_iff, ← forall₂_and]
  refine forall₂_congr fun entry _ => ?_
  simp [Names, spellings]

/-- Entries that are the same key are the same entry. -/
theorem Tidy.eq_of_names (tidy : Tidy keys entries) (declared : key ∈ keys)
    {first second : Value × Value} (here : first ∈ entries) (there : second ∈ entries)
    (named : key.Names first.1) (also : key.Names second.1) : first = second := by
  by_contra differ
  have symmetric : Std.Symm fun first second : Value × Value =>
      ∀ key ∈ keys, ¬ (key.Names first.1 ∧ key.Names second.1) :=
    ⟨fun _ _ apart key declared both => apart key declared both.symm⟩
  exact tidy.single.forall here there differ key declared ⟨named, also⟩

/-- In a record that holds each key once, a key is found where one of its spellings stands. -/
theorem Tidy.find?_eq_some_iff (tidy : Tidy keys entries) (declared : key ∈ keys) :
    key.find? entries = some (name, value) ↔
      name ∈ key.spellings ∧ (.text name, value) ∈ entries := by
  constructor
  · intro found
    exact mem_of_find? found
  · intro held
    obtain ⟨spelled, member⟩ := held
    have named := (names_iff_mem key name).2 spelled
    cases found : key.find? entries with
    | none => exact absurd named (find?_eq_none_iff.1 found _ member)
    | some other =>
        obtain ⟨otherSpelled, otherMember⟩ := mem_of_find? found
        have same : ((.text other.1, other.2) : Value × Value) = (.text name, value) :=
          tidy.eq_of_names declared otherMember member
            ((names_iff_mem key other.1).2 otherSpelled) named
        cases same
        rfl

/-! ## Nothing but keys -/

theorem mem_used_iff :
    name ∈ used keys entries ↔ ∃ key ∈ keys, ∃ value, key.find? entries = some (name, value) := by
  simp [used]

theorem nothingElse_eq_valid_iff :
    nothingElse keys entries = .valid () ↔
      ∀ entry ∈ entries, ∃ name ∈ used keys entries, entry.1 = .text name := by
  have issueless (issues : List Issue) :
      (if issues.isEmpty then Checked.valid () else .invalid issues) = .valid () ↔
        issues = [] := by
    cases issues <;> simp
  rw [nothingElse]
  dsimp only
  rw [issueless, List.filterMap_eq_nil_iff]
  refine forall₂_congr fun entry _ => ?_
  obtain ⟨key, value⟩ := entry
  cases key <;> simp

/-- A record of different keys holds nothing but its keys exactly if each of its entries is a key
that no other entry is. -/
theorem Tidy.of_nothingElse (apart : Apart keys) (distinct : (entries.map (·.1)).Nodup)
    (done : nothingElse keys entries = .valid ()) : Tidy keys entries := by
  rw [nothingElse_eq_valid_iff] at done
  constructor
  · intro entry member
    obtain ⟨name, isUsed, same⟩ := done entry member
    obtain ⟨key, declared, value, found⟩ := mem_used_iff.1 isUsed
    exact ⟨key, declared, name, (mem_of_find? found).1, same⟩
  · refine (List.pairwise_map.1 distinct).imp_of_mem ?_
    intro first second here there differ key declared both
    -- Both entries are found under the one name that their key is written under.
    have foundAt (entry : Value × Value) (member : entry ∈ entries) (named : key.Names entry.1) :
        ∃ name value, key.find? entries = some (name, value) ∧ entry.1 = .text name := by
      obtain ⟨name, isUsed, same⟩ := done entry member
      obtain ⟨other, alsoDeclared, value, found⟩ := mem_used_iff.1 isUsed
      have also : other.Names entry.1 := ⟨name, (mem_of_find? found).1, same⟩
      rw [apart.eq_of_names declared alsoDeclared named also]
      exact ⟨name, value, found, same⟩
    obtain ⟨name, value, found, same⟩ := foundAt first here both.1
    obtain ⟨other, held, alsoFound, alsoSame⟩ := foundAt second there both.2
    rw [found] at alsoFound
    cases alsoFound
    exact differ (same.trans alsoSame.symm)

theorem Tidy.nothingElse_eq_valid (tidy : Tidy keys entries) :
    nothingElse keys entries = .valid () := by
  rw [nothingElse_eq_valid_iff]
  intro entry member
  obtain ⟨key, declared, name, spelled, same⟩ := tidy.declared entry member
  have held : (.text name, entry.2) ∈ entries := same ▸ member
  refine ⟨name, mem_used_iff.2 ⟨key, declared, entry.2, ?_⟩, same⟩
  exact (tidy.find?_eq_some_iff declared).2 ⟨spelled, held⟩

/-! ## Records that are changed -/

/-- An entry of a record that takes the place of another one is the same key, and its value comes
from the value of the other. -/
def Changed (keys : List Key) (change : Key → Value → Value → Prop)
    (entry other : Value × Value) : Prop :=
  ∀ key ∈ keys, (key.Names entry.1 ↔ key.Names other.1) ∧
    (key.Names entry.1 → change key entry.2 other.2)

variable {change : Key → Value → Value → Prop} {others : List (Value × Value)}

theorem Tidy.of_changed (tidy : Tidy keys entries)
    (changed : List.Forall₂ (Changed keys change) entries others) : Tidy keys others := by
  induction changed with
  | nil => exact tidy
  | @cons entry other rest more first later ih =>
      obtain ⟨declared, single⟩ := tidy
      rw [List.forall_mem_cons] at declared
      rw [List.pairwise_cons] at single
      obtain ⟨moreDeclared, moreSingle⟩ := ih ⟨declared.2, single.2⟩
      constructor
      · rw [List.forall_mem_cons]
        obtain ⟨key, member, named⟩ := declared.1
        exact ⟨⟨key, member, (first key member).1.1 named⟩, moreDeclared⟩
      · rw [List.pairwise_cons]
        refine ⟨?_, moreSingle⟩
        intro second member key isKey both
        obtain ⟨before, inRest, same⟩ := Steps.exists_mem_of_forall₂ later member
        exact single.1 before inRest key isKey
          ⟨(first key isKey).1.2 both.1, (same key isKey).1.2 both.2⟩

/-- A key that a record holds is also held by the changed record, with the changed value. -/
theorem exists_find?_of_changed (tidy : Tidy keys entries)
    (changed : List.Forall₂ (Changed keys change) entries others) (declared : key ∈ keys)
    (found : key.find? entries = some (name, value)) :
    ∃ other held, key.find? others = some (other, held) ∧ change key value held := by
  obtain ⟨spelled, member⟩ := mem_of_find? found
  obtain ⟨entry, inOthers, same⟩ := Steps.exists_mem_of_forall₂ changed.flip member
  have named := (names_iff_mem key name).2 spelled
  obtain ⟨other, otherSpelled, written⟩ := (same key declared).1.1 named
  have held : (.text other, entry.2) ∈ others := written ▸ inOthers
  refine ⟨other, entry.2, ?_, (same key declared).2 named⟩
  exact ((tidy.of_changed changed).find?_eq_some_iff declared).2 ⟨otherSpelled, held⟩

theorem find?_eq_none_of_changed (changed : List.Forall₂ (Changed keys change) entries others)
    (declared : key ∈ keys) (absent : key.find? entries = none) : key.find? others = none := by
  rw [find?_eq_none_iff] at absent ⊢
  intro other member named
  obtain ⟨entry, inEntries, same⟩ := Steps.exists_mem_of_forall₂ changed member
  exact absent entry inEntries ((same key declared).1.2 named)

/-- A key of a changed record is read as before if its value is. -/
theorem preserved_read {α : Type} {reader : Value → Checked α} {absent : Checked α}
    (tidy : Tidy keys entries) (changed : List.Forall₂ (Changed keys change) entries others)
    (declared : key ∈ keys)
    (preserved : ∀ value held, change key value held →
      (reader value).Preserved (reader held)) :
    (key.read entries absent reader).Preserved (key.read others absent reader) := by
  rw [read, read]
  cases found : key.find? entries with
  | none =>
      rw [find?_eq_none_of_changed changed declared found]
      exact .refl absent
  | some held =>
      obtain ⟨name, value, alsoFound, same⟩ := exists_find?_of_changed tidy changed declared found
      rw [alsoFound]
      exact (preserved _ _ same).under _ _

end Key

end Bindery.Data
