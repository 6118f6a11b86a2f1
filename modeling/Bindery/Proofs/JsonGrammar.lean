import Bindery.Format.Json
import Bindery.Proofs.Records

/-!
# What JSON texts hold

The grammar of JSON values, as a relation between a text and what is left of it after a value.
Reading finds a value exactly if the grammar has one.  The data in a JSON text is made of scalars,
lists and maps; a map has texts as its keys, and of several members of one name the last takes the
place of the first, so no two entries have the same key.
-/

namespace Bindery.Data.Value

/-- Data as a JSON text can hold it. -/
inductive IsJson : Value → Prop where
  | null : IsJson .null
  | bool (value : Bool) : IsJson (.bool value)
  | int (value : Int) : IsJson (.int value)
  | real (value : Double) : IsJson (.real value)
  | text (value : String) : IsJson (.text value)
  | list {items : List Value} : (∀ item ∈ items, IsJson item) → IsJson (.list items)
  | map {entries : List (Value × Value)} :
      (∀ entry ∈ entries, ∃ name, entry.1 = .text name) → (entries.map (·.1)).Nodup →
      (∀ entry ∈ entries, IsJson entry.2) → IsJson (.map entries)

namespace IsJson

theorem of_mem_list {items : List Value} (json : IsJson (.list items)) {item : Value}
    (member : item ∈ items) : IsJson item := by
  cases json with
  | list each => exact each item member

theorem of_mem_map {entries : List (Value × Value)} (json : IsJson (.map entries))
    {entry : Value × Value} (member : entry ∈ entries) : IsJson entry.2 := by
  cases json with
  | map _ _ each => exact each entry member

theorem nodup_keys {entries : List (Value × Value)} (json : IsJson (.map entries)) :
    (entries.map (·.1)).Nodup := by
  cases json with
  | map _ distinct _ => exact distinct

end IsJson

/-- A text that is given a value takes it in its entry, or in a new one at the end. -/
theorem insert_text_cases (entries : List (Value × Value)) (name : String) (value : Value) :
    (∃ before old after, entries = before ++ (.text name, old) :: after ∧
      insert entries (.text name) value = before ++ (.text name, value) :: after) ∨
    (∀ entry ∈ entries, entry.1 ≠ .text name) ∧
      insert entries (.text name) value = entries ++ [(.text name, value)] := by
  induction entries with
  | nil => exact .inr ⟨List.forall_mem_nil _, rfl⟩
  | cons first rest ih =>
      obtain ⟨key, held⟩ := first
      rw [insert]
      by_cases same : key = .text name
      · left
        rw [if_pos (sameKey_text_iff.2 same), same]
        exact ⟨[], held, rest, rfl, rfl⟩
      · rw [if_neg (mt sameKey_text_iff.1 same)]
        cases ih with
        | inl there =>
            left
            obtain ⟨before, old, after, rfl, inserted⟩ := there
            exact ⟨(key, held) :: before, old, after, rfl, by rw [inserted]; rfl⟩
        | inr absent =>
            right
            rw [List.forall_mem_cons, absent.2]
            exact ⟨⟨same, absent.1⟩, rfl⟩

/-- A map of JSON data stays one if a text is given JSON data. -/
theorem IsJson.insert {entries : List (Value × Value)} {name : String} {value : Value}
    (json : IsJson (.map entries)) (held : IsJson value) :
    IsJson (.map (insert entries (.text name) value)) := by
  cases json with
  | map texts distinct each =>
      cases insert_text_cases entries name value with
      | inl there =>
          obtain ⟨before, old, after, rfl, inserted⟩ := there
          rw [inserted]
          simp only [List.forall_mem_append, List.forall_mem_cons] at texts each
          refine .map ?_ ?_ ?_
          · simp only [List.forall_mem_append, List.forall_mem_cons]
            exact texts
          · simp only [List.map_append, List.map_cons] at distinct ⊢
            exact distinct
          · simp only [List.forall_mem_append, List.forall_mem_cons]
            exact ⟨each.1, held, each.2.2⟩
      | inr absent =>
          rw [absent.2]
          refine .map ?_ ?_ ?_
          · rw [List.forall_mem_append, List.forall_mem_singleton]
            exact ⟨texts, name, rfl⟩
          · rw [List.map_append, List.nodup_append]
            refine ⟨distinct, List.pairwise_singleton _ _, ?_⟩
            intro key member other here
            obtain ⟨entry, inEntries, rfl⟩ := List.mem_map.1 member
            rw [List.map_singleton, List.mem_singleton] at here
            rw [here]
            exact absent.1 entry inEntries
          · rw [List.forall_mem_append, List.forall_mem_singleton]
            exact ⟨each, held⟩

end Bindery.Data.Value

namespace Bindery.Format.Json

open Bindery.Data

/-! ## Numbers -/

/-- The parts that a text starts with, read as a number: the digits of the whole part and of the
fraction, the exponent, and what is left after them. -/
structure Numeral where
  negative : Bool
  whole : List Char
  fraction : List Char
  exponent : Option Int
  after : List Char

namespace Numeral

/-- The number at the start of a text, if there is one. -/
def read (text : List Char) : Numeral :=
  let unsigned := if text.head? = some '-' then text.drop 1 else text
  let whole := wholeDigits unsigned
  let afterWhole := unsigned.drop whole.length
  let fraction := fractionDigits afterWhole
  let afterFraction :=
    if fraction.isEmpty then afterWhole else afterWhole.drop (fraction.length + 1)
  let tail : Option Int × List Char :=
    match exponentPart afterFraction with
    | some (exponent, length) => (some exponent, afterFraction.drop length)
    | none => (none, afterFraction)
  ⟨text.head? = some '-', whole, fraction, tail.1, tail.2⟩

theorem negative_read (text : List Char) :
    (read text).negative = decide (text.head? = some '-') :=
  rfl

/-- Whether a number is an integer. -/
def isInteger (numeral : Numeral) : Bool := numeral.fraction.isEmpty && numeral.exponent.isNone

/-- What a number stands for. -/
def value (numeral : Numeral) : Value :=
  if numeral.isInteger then
    .int (if numeral.negative then -(Text.decimal numeral.whole : Int)
      else Text.decimal numeral.whole)
  else
    .real (Double.ofDecimal numeral.negative (Text.decimal (numeral.whole ++ numeral.fraction))
      (numeral.exponent.getD 0 - numeral.fraction.length))

end Numeral

/-- A number is found if it has a whole part and is no integer with too many digits. -/
theorem number_eq (text : List Char) :
    number text =
      if (Numeral.read text).whole.isEmpty then .error (.flaw .expectedValue text.length)
      else if (Numeral.read text).isInteger &&
          (Numeral.read text).whole.length > Text.maxDigits then
        .error (.unrepresentable (.hugeInteger (Numeral.read text).whole.length))
      else if shorter : (Numeral.read text).after.length < text.length then
        .ok ((Numeral.read text).value, ⟨(Numeral.read text).after, shorter⟩)
      else .error (.flaw .expectedValue text.length) := by
  simp only [Numeral.value, Numeral.negative_read, decide_eq_true_eq]
  rfl

theorem number_eq_ok_iff {text : List Char} {found : Value} {left : Rest text} :
    number text = .ok (found, left) ↔
      (Numeral.read text).whole ≠ [] ∧
        ¬ ((Numeral.read text).isInteger = true ∧
          Text.maxDigits < (Numeral.read text).whole.length) ∧
        (Numeral.read text).value = found ∧ (Numeral.read text).after = left.1 := by
  rw [number_eq]
  split
  · next empty => simp [List.isEmpty_iff.1 empty]
  · next nonempty =>
      rw [List.isEmpty_iff] at nonempty
      split
      · next huge =>
          simp only [Bool.and_eq_true, decide_eq_true_eq] at huge
          simp [huge]
      · next fits =>
          simp only [Bool.and_eq_true, decide_eq_true_eq] at fits
          split
          · simp [nonempty, fits, Subtype.ext_iff]
          · next longer =>
              constructor
              · intro done
                cases done
              · intro there
                exact absurd (there.2.2.2 ▸ left.2) longer

/-! ## The grammar -/

/-- What stands at the start of a text: a value, the items of a list up to its closing bracket, or
the members of a map up to its closing brace, added to those before them. -/
inductive Phrase where
  | value (found : Value)
  | items (found : List Value)
  | members (held found : List (Value × Value))

/-- What stands at the start of a text, and what is left of the text after it.  Collections can lie
in each other as deep as is said. -/
inductive Reads : Nat → Phrase → List Char → List Char → Prop where
  | text {depth : Nat} {rest : List Char} {chars : String} {left : Rest rest} :
      string rest = .ok (chars, left) → Reads depth (.value (.text chars)) ('"' :: rest) left.1
  | scalar {depth : Nat} {c : Char} {rest : List Char} {found : Value} {left : Rest (c :: rest)} :
      c ∉ ['"', '[', '\x7b'] → scalar (c :: rest) = .ok (found, left) →
      Reads depth (.value found) (c :: rest) left.1
  | noItems {depth : Nat} {rest left : List Char} :
      skip rest = ']' :: left → Reads (depth + 1) (.value (.list [])) ('[' :: rest) left
  | list {depth : Nat} {rest left : List Char} {found : List Value} :
      Reads depth (.items found) (skip rest) left →
      Reads (depth + 1) (.value (.list found)) ('[' :: rest) left
  | noMembers {depth : Nat} {rest left : List Char} :
      skip rest = '\x7d' :: left → Reads (depth + 1) (.value (.map [])) ('\x7b' :: rest) left
  | map {depth : Nat} {rest left : List Char} {found : List (Value × Value)} :
      Reads depth (.members [] found) (skip rest) left →
      Reads (depth + 1) (.value (.map found)) ('\x7b' :: rest) left
  | lastItem {depth : Nat} {text left rest : List Char} {first : Value} :
      Reads depth (.value first) text left → skip left = ']' :: rest →
      Reads depth (.items [first]) text rest
  | moreItems {depth : Nat} {text left rest after : List Char} {first : Value}
      {others : List Value} :
      Reads depth (.value first) text left → skip left = ',' :: rest →
      Reads depth (.items others) (skip rest) after →
      Reads depth (.items (first :: others)) text after
  | lastMember {depth : Nat} {held : List (Value × Value)}
      {afterQuote afterColon left rest : List Char} {name : String} {afterName : Rest afterQuote}
      {content : Value} :
      string afterQuote = .ok (name, afterName) → skip afterName.1 = ':' :: afterColon →
      Reads depth (.value content) (skip afterColon) left → skip left = '\x7d' :: rest →
      Reads depth (.members held (Value.insert held (.text name) content)) ('"' :: afterQuote) rest
  | moreMembers {depth : Nat} {held all : List (Value × Value)}
      {afterQuote afterColon left rest after : List Char} {name : String}
      {afterName : Rest afterQuote} {content : Value} :
      string afterQuote = .ok (name, afterName) → skip afterName.1 = ':' :: afterColon →
      Reads depth (.value content) (skip afterColon) left → skip left = ',' :: rest →
      Reads depth (.members (Value.insert held (.text name) content) all) (skip rest) after →
      Reads depth (.members held all) ('"' :: afterQuote) after

/-! ## What is found is there -/

/-- What is found at the start of a text is there by the grammar. -/
structure Sound (text : List Char) : Prop where
  value : ∀ {depth found left}, Json.value depth text = .ok (found, left) →
    Reads depth (.value found) text left.1
  items : ∀ {depth found left}, Json.items depth text = .ok (found, left) →
    Reads depth (.items found) text left.1
  members : ∀ {depth held found left}, Json.members depth held text = .ok (found, left) →
    Reads depth (.members held found) text left.1

theorem length_skip_lt {first : Char} {rest : List Char} :
    (skip rest).length < (first :: rest).length :=
  Nat.lt_succ_of_le (length_skip_le rest)

/-- What follows a mark after something was read is shorter than what was read. -/
theorem length_skip_lt_of_skip_eq {mark : Char} {left rest : List Char}
    (marked : skip left = mark :: rest) : (skip rest).length < left.length := by
  have bound := length_skip_le left
  rw [marked] at bound
  exact Nat.lt_of_lt_of_le length_skip_lt bound

section

variable {text : List Char}
  (shorter : ∀ other : List Char, other.length < text.length → Sound other)
include shorter

theorem reads_of_value {depth : Nat} {found : Value} {left : Rest text}
    (done : value depth text = .ok (found, left)) : Reads depth (.value found) text left.1 := by
  rw [value.eq_def] at done
  split at done
  · cases done
  · next rest =>
      split at done
      · cases done
      · next chars inner read =>
          cases done
          exact .text read
  · next rest =>
      split at done
      · cases done
      · split at done
        · next inner closed =>
            cases done
            exact .noItems closed
        · split at done
          · cases done
          · next found inner read =>
              cases done
              exact .list ((shorter _ length_skip_lt).items read)
  · next rest =>
      split at done
      · cases done
      · split at done
        · next inner closed =>
            cases done
            exact .noMembers closed
        · split at done
          · cases done
          · next found inner read =>
              cases done
              exact .map ((shorter _ length_skip_lt).members read)
  · next c rest noText noList noMap =>
      refine .scalar ?_ done
      simp only [List.mem_cons, List.not_mem_nil, or_false, not_or]
      exact ⟨noText, noList, noMap⟩

theorem reads_of_items {depth : Nat} {found : List Value} {left : Rest text}
    (done : items depth text = .ok (found, left)) : Reads depth (.items found) text left.1 := by
  rw [items.eq_def] at done
  split at done
  · cases done
  · next first inner read =>
      have here := reads_of_value shorter read
      split at done
      · next rest closed =>
          cases done
          exact .lastItem here closed
      · next rest comma =>
          split at done
          · cases done
          · next others last readOthers =>
              cases done
              have later := shorter (skip rest)
                (Nat.lt_trans (length_skip_lt_of_skip_eq comma) inner.2)
              exact .moreItems here comma (later.items readOthers)
      · cases done

theorem reads_of_members {depth : Nat} {held found : List (Value × Value)} {left : Rest text}
    (done : members depth held text = .ok (found, left)) :
    Reads depth (.members held found) text left.1 := by
  rw [members.eq_def] at done
  split at done
  · next afterQuote =>
      split at done
      · cases done
      · next name afterName named =>
          split at done
          · next afterColon colon =>
              have afterColonShorter : (skip afterColon).length < ('"' :: afterQuote).length :=
                Nat.lt_trans (length_skip_lt_of_skip_eq colon) (Nat.lt_succ_of_lt afterName.2)
              split at done
              · cases done
              · next content inner read =>
                  have here := (shorter _ afterColonShorter).value read
                  split at done
                  · next rest closed =>
                      cases done
                      exact .lastMember named colon here closed
                  · next rest comma =>
                      split at done
                      · cases done
                      · next all last readOthers =>
                          cases done
                          have later := shorter (skip rest)
                            (Nat.lt_trans (length_skip_lt_of_skip_eq comma)
                              (Nat.lt_trans inner.2 afterColonShorter))
                          exact .moreMembers named colon here comma (later.members readOthers)
                  · cases done
          · cases done
  · cases done

end

theorem sound (text : List Char) : Sound text := by
  have shorter (other : List Char) (_ : other.length < text.length) : Sound other := sound other
  exact ⟨reads_of_value shorter, reads_of_items shorter, reads_of_members shorter⟩
termination_by text.length

/-! ## What is there is found -/

/-- The word at the start of a text, and what it means. -/
def word? (text : List Char) : Option (List Char × Value) :=
  words.find? fun (word, _) => word.isPrefixOf text

theorem scalar_of_word {text word : List Char} {value : Value}
    (found : word? text = some (word, value))
    (shorter : (text.drop word.length).length < text.length) :
    scalar text = .ok (value, ⟨text.drop word.length, shorter⟩) := by
  rw [word?] at found
  rw [scalar, found]
  exact dif_pos shorter

theorem scalar_of_no_word {text : List Char} (none : word? text = none) :
    scalar text = number text := by
  rw [word?] at none
  rw [scalar, none]

/-- No word and no number starts with the end of a collection or of a line. -/
theorem scalar_stopping {c : Char} (stopping : c ∈ [']', '\x7d', '\n', '\r']) (rest : List Char) :
    ∃ stop, scalar (c :: rest) = .error stop := by
  simp only [List.mem_cons, List.not_mem_nil, or_false] at stopping
  have noWord : word? (c :: rest) = none := by
    rcases stopping with rfl | rfl | rfl | rfl <;> rfl
  have noDigits : wholeDigits (c :: rest) = [] := by
    rcases stopping with rfl | rfl | rfl | rfl <;> rfl
  have noMinus : ((c :: rest).head? = some '-') = False := by
    rcases stopping with rfl | rfl | rfl | rfl <;> simp
  refine ⟨.flaw .expectedValue (c :: rest).length, ?_⟩
  rw [scalar_of_no_word noWord]
  simp only [number, noMinus, if_false, noDigits]
  rfl

theorem not_reads_closing {depth : Nat} {c : Char} {rest left : List Char} {found : Value}
    (closing : c ∈ [']', '\x7d']) : ¬ Reads depth (.value found) (c :: rest) left := by
  intro reads
  cases reads with
  | scalar _ done =>
      obtain ⟨stop, failed⟩ := scalar_stopping (List.mem_append_left ['\n', '\r'] closing) rest
      rw [failed] at done
      cases done
  | _ => simp at closing

/-- What stands at the start of a text is found there. -/
def Finds (depth : Nat) : Phrase → List Char → List Char → Prop
  | .value found, text, left =>
      ∃ rest : Rest text, value depth text = .ok (found, rest) ∧ rest.1 = left
  | .items found, text, left =>
      ∃ rest : Rest text, items depth text = .ok (found, rest) ∧ rest.1 = left
  | .members held found, text, left =>
      ∃ rest : Rest text, members depth held text = .ok (found, rest) ∧ rest.1 = left

section

variable {depth : Nat} {text left rest : List Char}

theorem finds_noItems (closed : skip rest = ']' :: left) :
    Finds (depth + 1) (.value (.list [])) ('[' :: rest) left := by
  rw [Finds, value]
  split
  · next inner same =>
      rw [closed] at same
      cases same
      exact ⟨_, rfl, rfl⟩
  · next noClosing => exact absurd closed (noClosing _)

theorem finds_list {found : List Value} (unclosed : ∀ after, skip rest ≠ ']' :: after)
    (inside : Finds depth (.items found) (skip rest) left) :
    Finds (depth + 1) (.value (.list found)) ('[' :: rest) left := by
  obtain ⟨inner, done, same⟩ := inside
  rw [Finds, value]
  split
  · next after closed => exact absurd closed (unclosed after)
  · rw [done]
    exact ⟨_, rfl, same⟩

theorem finds_noMembers (closed : skip rest = '\x7d' :: left) :
    Finds (depth + 1) (.value (.map [])) ('\x7b' :: rest) left := by
  rw [Finds, value]
  split
  · next inner same =>
      rw [closed] at same
      cases same
      exact ⟨_, rfl, rfl⟩
  · next noClosing => exact absurd closed (noClosing _)

theorem finds_map {found : List (Value × Value)} (unclosed : ∀ after, skip rest ≠ '\x7d' :: after)
    (inside : Finds depth (.members [] found) (skip rest) left) :
    Finds (depth + 1) (.value (.map found)) ('\x7b' :: rest) left := by
  obtain ⟨inner, done, same⟩ := inside
  rw [Finds, value]
  split
  · next after closed => exact absurd closed (unclosed after)
  · rw [done]
    exact ⟨_, rfl, same⟩

/-- What follows an item: the closing bracket, or a comma and more items. -/
theorem finds_items {first : Value} {others : List Value} {after : List Char}
    (here : Finds depth (.value first) text left)
    (next : (skip left = ']' :: after ∧ others = []) ∨
      ∃ more, skip left = ',' :: more ∧ Finds depth (.items others) (skip more) after) :
    Finds depth (.items (first :: others)) text after := by
  obtain ⟨inner, done, rfl⟩ := here
  rw [Finds, items, done]
  dsimp only
  split
  · next rest closed =>
      obtain ⟨same, rfl⟩ | ⟨more, same, -⟩ := next
      · rw [closed] at same
        cases same
        exact ⟨_, rfl, rfl⟩
      · rw [closed] at same
        cases same
  · next rest comma =>
      obtain ⟨same, -⟩ | ⟨more, same, last, done, ends⟩ := next
      · rw [comma] at same
        cases same
      · rw [comma] at same
        cases same
        rw [done]
        exact ⟨_, rfl, ends⟩
  · next noClosing noComma =>
      obtain ⟨same, -⟩ | ⟨more, same, -⟩ := next
      · exact absurd same (noClosing _)
      · exact absurd same (noComma _)

/-- What follows a member: the closing brace, or a comma and more members. -/
theorem finds_members {held all : List (Value × Value)} {afterQuote afterColon after : List Char}
    {name : String} {afterName : Rest afterQuote} {content : Value}
    (named : string afterQuote = .ok (name, afterName))
    (colon : skip afterName.1 = ':' :: afterColon)
    (here : Finds depth (.value content) (skip afterColon) left)
    (next : (skip left = '\x7d' :: after ∧ all = Value.insert held (.text name) content) ∨
      ∃ more, skip left = ',' :: more ∧
        Finds depth (.members (Value.insert held (.text name) content) all) (skip more) after) :
    Finds depth (.members held all) ('"' :: afterQuote) after := by
  obtain ⟨inner, done, rfl⟩ := here
  rw [Finds, members, named]
  dsimp only
  split
  · next rest again =>
      rw [colon] at again
      cases again
      rw [done]
      dsimp only
      split
      · next rest closed =>
          obtain ⟨same, rfl⟩ | ⟨more, same, -⟩ := next
          · rw [closed] at same
            cases same
            exact ⟨_, rfl, rfl⟩
          · rw [closed] at same
            cases same
      · next rest comma =>
          obtain ⟨same, -⟩ | ⟨more, same, last, done, ends⟩ := next
          · rw [comma] at same
            cases same
          · rw [comma] at same
            cases same
            rw [done]
            exact ⟨_, rfl, ends⟩
      · next noClosing noComma =>
          obtain ⟨same, -⟩ | ⟨more, same, -⟩ := next
          · exact absurd same (noClosing _)
          · exact absurd same (noComma _)
  · next noColon => exact absurd colon (noColon _)

/-- Items do not start with the bracket that closes them. -/
theorem not_reads_items_closing {found : List Value} (closed : text = ']' :: rest) :
    ¬ Reads depth (.items found) text left := by
  rintro reads
  subst closed
  cases reads with
  | lastItem first _ => exact not_reads_closing List.mem_cons_self first
  | moreItems first _ _ => exact not_reads_closing List.mem_cons_self first

/-- Members start with a quote. -/
theorem not_reads_members_closing {held found : List (Value × Value)}
    (closed : text = '\x7d' :: rest) : ¬ Reads depth (.members held found) text left := by
  rintro reads
  subst closed
  cases reads

end

theorem finds_of_reads {depth : Nat} {phrase : Phrase} {text left : List Char}
    (reads : Reads depth phrase text left) : Finds depth phrase text left := by
  induction reads with
  | text named =>
      rw [Finds, value, named]
      exact ⟨_, rfl, rfl⟩
  | scalar other done =>
      simp only [List.mem_cons, List.not_mem_nil, or_false, not_or] at other
      rw [Finds, value]
      · exact ⟨_, done, rfl⟩
      · exact other.1
      · exact other.2.1
      · exact other.2.2
  | noItems closed => exact finds_noItems closed
  | list read ih => exact finds_list (fun _ closed => not_reads_items_closing closed read) ih
  | noMembers closed => exact finds_noMembers closed
  | map read ih => exact finds_map (fun _ closed => not_reads_members_closing closed read) ih
  | lastItem _ closed ih => exact finds_items ih (.inl ⟨closed, rfl⟩)
  | moreItems _ comma _ ih later => exact finds_items ih (.inr ⟨_, comma, later⟩)
  | lastMember named colon _ closed ih => exact finds_members named colon ih (.inl ⟨closed, rfl⟩)
  | moreMembers named colon _ comma _ ih later =>
      exact finds_members named colon ih (.inr ⟨_, comma, later⟩)

/-- Reading finds a value at the start of a text exactly if the grammar has one there. -/
theorem value_eq_ok_iff {depth : Nat} {text left : List Char} {found : Value} :
    (∃ rest : Rest text, value depth text = .ok (found, rest) ∧ rest.1 = left) ↔
      Reads depth (.value found) text left := by
  constructor
  · intro done
    obtain ⟨rest, here, rfl⟩ := done
    exact (sound text).value here
  · intro reads
    exact finds_of_reads reads

/-- A text is read as a value exactly if the value is all that stands in it beside space. -/
theorem read_eq_ok_iff {source : String} {found : Value} :
    read source = .ok found ↔
      source.toList.head? ≠ some '\uFEFF' ∧
        ∃ left, Reads maxDepth (.value found) (skip source.toList) left ∧ skip left = [] := by
  rw [read]
  dsimp only
  split
  · next mark => simp [mark]
  · next noMark =>
      simp only [ne_eq, noMark, not_false_eq_true, true_and]
      split
      · next stop failed =>
          constructor
          · intro done
            cases done
          · intro there
            obtain ⟨left, reads, -⟩ := there
            obtain ⟨rest, done, -⟩ := value_eq_ok_iff.2 reads
            rw [failed] at done
            cases done
      · next value left done =>
          constructor
          · intro same
            split at same
            · next ended =>
                cases same
                exact ⟨_, value_eq_ok_iff.1 ⟨left, done, rfl⟩, ended⟩
            · cases same
          · intro there
            obtain ⟨after, reads, ended⟩ := there
            obtain ⟨rest, again, rfl⟩ := value_eq_ok_iff.2 reads
            rw [done] at again
            cases again
            rw [ended]

/-! ## Data in JSON texts -/

theorem isJson_of_number {text : List Char} {found : Value} {left : Rest text}
    (done : number text = .ok (found, left)) : found.IsJson := by
  obtain ⟨-, -, rfl, -⟩ := number_eq_ok_iff.1 done
  rw [Numeral.value]
  split
  · exact .int _
  · exact .real _

theorem isJson_of_mem_words : ∀ entry ∈ words, entry.2.IsJson := by
  simp only [words, List.forall_mem_cons]
  exact ⟨.null, .bool _, .bool _, .real _, .real _, .real _, List.forall_mem_nil _⟩

theorem isJson_of_scalar {text : List Char} {found : Value} {left : Rest text}
    (done : scalar text = .ok (found, left)) : found.IsJson := by
  rw [scalar] at done
  split at done
  · next word value here =>
      split at done
      · cases done
        exact isJson_of_mem_words _ (List.mem_of_find?_eq_some here)
      · cases done
  · exact isJson_of_number done

/-- What JSON data a text has at its start. -/
def Phrase.IsJson : Phrase → Prop
  | value found => found.IsJson
  | items found => ∀ item ∈ found, item.IsJson
  | members held found => (Value.map held).IsJson → (Value.map found).IsJson

theorem isJson_of_reads {depth : Nat} {phrase : Phrase} {text left : List Char}
    (reads : Reads depth phrase text left) : phrase.IsJson := by
  have noEntries : (Value.map []).IsJson :=
    .map (List.forall_mem_nil _) List.nodup_nil (List.forall_mem_nil _)
  induction reads with
  | text => exact .text _
  | scalar _ done => exact isJson_of_scalar done
  | noItems => exact .list (List.forall_mem_nil _)
  | list _ ih => exact .list ih
  | noMembers => exact noEntries
  | map _ ih => exact ih noEntries
  | lastItem _ _ ih => exact List.forall_mem_singleton.2 ih
  | moreItems _ _ _ ih later => exact List.forall_mem_cons.2 ⟨ih, later⟩
  | lastMember _ _ _ _ ih =>
      intro json
      exact json.insert ih
  | moreMembers _ _ _ _ _ ih later =>
      intro json
      exact later (json.insert ih)

/-- What a JSON text holds is JSON data. -/
theorem isJson_of_read {source : String} {found : Value} (done : read source = .ok found) :
    found.IsJson := by
  obtain ⟨-, left, reads, -⟩ := read_eq_ok_iff.1 done
  exact isJson_of_reads reads

end Bindery.Format.Json
