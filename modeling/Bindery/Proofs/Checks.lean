import Bindery.Data.Record
import Bindery.Proofs.Steps
import Mathlib.Data.List.Forall2

/-!
# Checks that succeed

Several checks succeed together exactly if each of them does, and the value that they give is made
of theirs.  So a check of data that is changed still gives the same value if every part of it does.
-/

namespace Bindery.Data.Checked

variable {α β : Type}

/-! ## What succeeds together -/

theorem map_eq_valid_iff {check : Checked α} {image : α → β} {result : β} :
    map image check = .valid result ↔ ∃ value, check = .valid value ∧ image value = result := by
  cases check with
  | valid value => simp [map]
  | invalid issues => simp [map]

theorem apply_eq_valid_iff {image : Checked (α → β)} {check : Checked α} {result : β} :
    apply image check = .valid result ↔
      ∃ function value, image = .valid function ∧ check = .valid value ∧
        function value = result := by
  cases image with
  | valid function =>
      cases check with
      | valid value => simp [apply]
      | invalid issues => simp [apply]
  | invalid first =>
      cases check with
      | valid value => simp [apply]
      | invalid second => simp [apply]

theorem seq_eq_valid_iff {image : Checked (α → β)} {check : Checked α} {result : β} :
    image <*> check = .valid result ↔
      ∃ function value, image = .valid function ∧ check = .valid value ∧
        function value = result :=
  apply_eq_valid_iff

theorem image_eq_valid_iff {check : Checked α} {image : α → β} {result : β} :
    image <$> check = .valid result ↔ ∃ value, check = .valid value ∧ image value = result := by
  change apply (valid image) check = .valid result ↔ _
  rw [apply_eq_valid_iff]
  simp

theorem seqLeft_eq_valid_iff {check : Checked α} {other : Checked β} {result : α} :
    check <* other = .valid result ↔ check = .valid result ∧ ∃ value, other = .valid value := by
  change (Function.const β <$> check) <*> other = .valid result ↔ _
  rw [seq_eq_valid_iff]
  constructor
  · intro done
    obtain ⟨function, value, first, second, same⟩ := done
    obtain ⟨found, here, rfl⟩ := image_eq_valid_iff.1 first
    cases same
    exact ⟨here, value, second⟩
  · intro done
    obtain ⟨first, value, second⟩ := done
    exact ⟨_, value, image_eq_valid_iff.2 ⟨result, first, rfl⟩, second, rfl⟩

@[simp] theorem under_eq_valid_iff {check : Checked α} {step : String} {result : α} :
    check.under step = .valid result ↔ check = .valid result := by
  cases check with
  | valid value => rfl
  | invalid issues => simp [under]

theorem all_eq_valid_iff {checks : List (Checked α)} {values : List α} :
    all checks = .valid values ↔
      List.Forall₂ (fun check value => check = .valid value) checks values := by
  induction checks generalizing values with
  | nil =>
      rw [List.forall₂_nil_left_iff]
      constructor
      · intro done
        cases done
        rfl
      · intro same
        rw [same]
        rfl
  | cons first rest ih =>
      rw [all, apply_eq_valid_iff]
      constructor
      · intro done
        obtain ⟨function, more, here, there, same⟩ := done
        obtain ⟨value, found, rfl⟩ := map_eq_valid_iff.1 here
        cases same
        exact .cons found (ih.1 there)
      · intro done
        cases done with
        | cons found later =>
            exact ⟨_, _, map_eq_valid_iff.2 ⟨_, found, rfl⟩, ih.2 later, rfl⟩

theorem all_mapIdx_under_eq_valid_iff {read : Value → Checked α} {items : List Value}
    {label : Nat → String} {values : List α} :
    all (items.mapIdx fun index item => (read item).under (label index)) = .valid values ↔
      List.Forall₂ (fun item value => read item = .valid value) items values := by
  rw [all_eq_valid_iff]
  induction items generalizing label values with
  | nil => simp
  | cons item rest ih =>
      rw [List.mapIdx_cons, List.forall₂_cons_left_iff, List.forall₂_cons_left_iff]
      simp only [under_eq_valid_iff, ih]

/-- The items of a list are read together exactly if each of them is. -/
theorem tuple_eq_valid_iff {read : Value → Checked α} {value : Value} {values : List α} :
    tuple read value = .valid values ↔
      ∃ items, value.items? = some items ∧
        List.Forall₂ (fun item found => read item = .valid found) items values := by
  rw [tuple]
  cases value.items? with
  | none => simp [fail]
  | some items => simp [each, all_mapIdx_under_eq_valid_iff]

/-- The entries of a map are read together exactly if the name and the value of each of them are. -/
theorem dictionary_eq_valid_iff {read : Value → Checked α} {value : Value}
    {held : List (String × α)} :
    dictionary read value = .valid held ↔
      ∃ entries, value.entries? = some entries ∧
        ∃ found : List (String × α),
          List.Forall₂ (fun entry named => text entry.1 = .valid named.1 ∧
            read entry.2 = .valid named.2) entries found ∧
          found.foldl (fun held named => dictionary.put held named.1 named.2) [] = held := by
  rw [dictionary]
  cases value.entries? with
  | none => simp [fail]
  | some entries =>
      simp only [Option.some.injEq, exists_eq_left', map_eq_valid_iff, all_eq_valid_iff,
        List.forall₂_map_left_iff]
      refine exists_congr fun found => and_congr_left fun _ => ?_
      have pair (entry : Value × Value) (named : String × α) :
          Prod.mk <$> ((text entry.1).under "[key]").under entry.1.keyText <*>
              (read entry.2).under entry.1.keyText = .valid named ↔
            text entry.1 = .valid named.1 ∧ read entry.2 = .valid named.2 := by
        rw [seq_eq_valid_iff]
        simp only [image_eq_valid_iff, under_eq_valid_iff]
        constructor
        · intro done
          obtain ⟨function, value, ⟨name, here, rfl⟩, there, rfl⟩ := done
          exact ⟨here, there⟩
        · intro done
          exact ⟨_, _, ⟨_, done.1, rfl⟩, done.2, rfl⟩
      constructor
      · intro read
        exact read.imp fun entry named => (pair entry named).1
      · intro read
        exact read.imp fun entry named => (pair entry named).2

/-! ## Checks that give what others give -/

/-- A check gives every value that another one gives. -/
def Preserved (first second : Checked α) : Prop :=
  ∀ value, first = .valid value → second = .valid value

namespace Preserved

theorem refl (check : Checked α) : Preserved check check :=
  fun _ done => done

theorem image {first second : Checked α} (function : α → β) (preserved : Preserved first second) :
    Preserved (function <$> first) (function <$> second) := by
  intro result done
  obtain ⟨value, here, same⟩ := image_eq_valid_iff.1 done
  exact image_eq_valid_iff.2 ⟨value, preserved value here, same⟩

theorem seq {first second : Checked (α → β)} {check changed : Checked α}
    (functions : Preserved first second) (values : Preserved check changed) :
    Preserved (first <*> check) (second <*> changed) := by
  intro result done
  obtain ⟨function, value, here, there, same⟩ := seq_eq_valid_iff.1 done
  exact seq_eq_valid_iff.2 ⟨function, value, functions _ here, values _ there, same⟩

theorem under {first second : Checked α} (preserved : Preserved first second)
    (step other : String) : Preserved (first.under step) (second.under other) := by
  intro value done
  exact under_eq_valid_iff.2 (preserved value (under_eq_valid_iff.1 done))

/-- What is related to things in one way and to their images in another way is related to the
images. -/
theorem forall₂_images {α β γ : Type} {first : α → β → Prop} {second : α → γ → Prop}
    {result : β → γ → Prop} (step : ∀ a b c, first a b → second a c → result b c)
    {items : List α} {images : List β} {values : List γ} (here : List.Forall₂ first items images)
    (there : List.Forall₂ second items values) : List.Forall₂ result images values := by
  induction here generalizing values with
  | nil =>
      cases there
      exact .nil
  | cons image _ ih =>
      cases there with
      | cons value rest => exact .cons (step _ _ _ image value) (ih rest)

variable {read : Value → Checked α}

/-- A list is read as before if its items are. -/
theorem tuple {value held : Value} {items others : List Value} (listed : value.items? = some items)
    (changed : held.items? = some others)
    (each : List.Forall₂ (fun item other => Preserved (read item) (read other)) items others) :
    Preserved (Checked.tuple read value) (Checked.tuple read held) := by
  intro results done
  obtain ⟨_, same, found⟩ := tuple_eq_valid_iff.1 done
  rw [listed] at same
  cases same
  refine tuple_eq_valid_iff.2 ⟨others, changed, ?_⟩
  exact forall₂_images (fun _ _ result keeps here => keeps result here) each found

/-- A map is read as before if the values under its names are. -/
theorem dictionary {value held : Value} {entries others : List (Value × Value)}
    (listed : value.entries? = some entries) (changed : held.entries? = some others)
    (each : List.Forall₂ (fun entry other => entry.1 = other.1 ∧
      Preserved (read entry.2) (read other.2)) entries others) :
    Preserved (Checked.dictionary read value) (Checked.dictionary read held) := by
  intro results done
  obtain ⟨_, same, found, entriesFound, put⟩ := dictionary_eq_valid_iff.1 done
  rw [listed] at same
  cases same
  refine dictionary_eq_valid_iff.2 ⟨others, changed, found, ?_, put⟩
  refine forall₂_images ?_ each entriesFound
  intro entry other named keeps here
  exact ⟨keeps.1 ▸ here.1, keeps.2 _ here.2⟩

end Preserved

/-! ## Checks that give nothing -/

/-- A check gives no value. -/
def Refused (check : Checked α) : Prop := ∀ value, check ≠ .valid value

namespace Refused

theorem image {check : Checked α} (refused : Refused check) (function : α → β) :
    Refused (function <$> check) := by
  intro result done
  obtain ⟨value, here, _⟩ := image_eq_valid_iff.1 done
  exact refused value here

/-- Checks fail together if the first of them fails. -/
theorem first {images : Checked (α → β)} (refused : Refused images) (check : Checked α) :
    Refused (images <*> check) := by
  intro result done
  obtain ⟨function, _, here, _, _⟩ := seq_eq_valid_iff.1 done
  exact refused function here

/-- Checks fail together if the second of them fails. -/
theorem second {check : Checked α} (refused : Refused check) (images : Checked (α → β)) :
    Refused (images <*> check) := by
  intro result done
  obtain ⟨_, value, _, there, _⟩ := seq_eq_valid_iff.1 done
  exact refused value there

theorem under {check : Checked α} (refused : Refused check) (step : String) :
    Refused (check.under step) := by
  intro value done
  exact refused value (under_eq_valid_iff.1 done)

variable {read : Value → Checked α}

/-- A list is refused if an item of it is. -/
theorem tuple {value item : Value} {items : List Value} (listed : value.items? = some items)
    (member : item ∈ items) (refused : Refused (read item)) :
    Refused (Checked.tuple read value) := by
  intro results done
  obtain ⟨_, same, found⟩ := tuple_eq_valid_iff.1 done
  rw [listed] at same
  cases same
  obtain ⟨result, _, here⟩ := Steps.exists_mem_of_forall₂ found.flip member
  exact refused result here

/-- A map is refused if a value in it is. -/
theorem dictionary {value name held : Value} {entries : List (Value × Value)}
    (listed : value.entries? = some entries) (member : (name, held) ∈ entries)
    (refused : Refused (read held)) : Refused (Checked.dictionary read value) := by
  intro results done
  obtain ⟨_, same, found, each, _⟩ := dictionary_eq_valid_iff.1 done
  rw [listed] at same
  cases same
  obtain ⟨named, _, _, here⟩ := Steps.exists_mem_of_forall₂ each.flip member
  exact refused named.2 here

theorem exists_issues {check : Checked α} (refused : Refused check) :
    ∃ issues, check = .invalid issues := by
  cases check with
  | valid value => exact absurd rfl (refused value)
  | invalid issues => exact ⟨issues, rfl⟩

end Refused

end Bindery.Data.Checked
