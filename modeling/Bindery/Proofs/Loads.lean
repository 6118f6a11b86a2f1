import Bindery.Proofs.Endings
import Bindery.Proofs.LineEnds
import Bindery.Proofs.Places
import Bindery.Proofs.Utf8

/-!
# How loads from files end

A load from a file ends with a description or is reported, as a source that cannot be loaded or as
one that holds no description, unless the path is too long to be looked up, the bytes of the file
are those of no text, or the text has a part that stands for nothing.  In JSON this takes an
integer with too many digits, or collections that lie too deep in each other.
-/

namespace Bindery.Format.Json

open Bindery.Data Bindery.Text

variable {text left : List Char}

/-! ## What is left is the end of a text -/

theorem suffix_of_body {chars : List Char} (body : Body text chars left) : left <:+ text := by
  induction body with
  | quote rest => exact List.suffix_cons _ _
  | @code rest _ _ _ taken _ _ ih =>
      have later := (ih.trans (List.drop_suffix taken rest)).trans (List.suffix_cons 'u' rest)
      exact later.trans (List.suffix_cons _ _)
  | @letter rest _ _ letter _ _ _ ih =>
      exact (ih.trans (List.suffix_cons letter rest)).trans (List.suffix_cons _ _)
  | char _ _ _ _ ih => exact ih.trans (List.suffix_cons _ _)

theorem suffix_of_string {chars : String} {left : Rest text}
    (done : string text = .ok (chars, left)) : left.1 <:+ text := by
  rw [string] at done
  obtain ⟨found, read, same⟩ := Steps.map_eq_ok_iff.1 done
  cases same
  exact suffix_of_body (body_of_stringBody _ _ _ _ read)

theorem Numeral.suffix_after_read (text : List Char) : (read text).after <:+ text := by
  have unsigned := unsigned_suffix text
  rw [read_eq]
  generalize (if text.head? = some '-' then text.drop 1 else text) = start at unsigned ⊢
  have behind := suffix_after_ofUnsigned (text.head? = some '-') start
  exact (behind.trans (List.drop_suffix _ start)).trans unsigned

theorem suffix_of_scalar {found : Value} {left : Rest text}
    (done : scalar text = .ok (found, left)) : left.1 <:+ text := by
  rw [scalar] at done
  split at done
  · split at done
    · cases done
      exact List.drop_suffix _ _
    · cases done
  · obtain ⟨-, -, -, same⟩ := number_eq_ok_iff.1 done
    rw [← same]
    exact Numeral.suffix_after_read text

theorem skip_suffix (text : List Char) : skip text <:+ text := List.dropWhile_suffix _

/-- What stands after space and a mark is the end of a text. -/
theorem suffix_of_skip_eq {mark : Char} {rest : List Char} (marked : skip text = mark :: rest) :
    rest <:+ text := by
  have whole := skip_suffix text
  rw [marked] at whole
  exact (List.suffix_cons mark rest).trans whole

theorem suffix_of_reads {depth : Nat} {phrase : Phrase} (reads : Reads depth phrase text left) :
    left <:+ text := by
  induction reads with
  | text named => exact (suffix_of_string named).trans (List.suffix_cons _ _)
  | scalar _ done => exact suffix_of_scalar done
  | noItems closed => exact (suffix_of_skip_eq closed).trans (List.suffix_cons _ _)
  | list _ ih => exact (ih.trans (skip_suffix _)).trans (List.suffix_cons _ _)
  | noMembers closed => exact (suffix_of_skip_eq closed).trans (List.suffix_cons _ _)
  | map _ ih => exact (ih.trans (skip_suffix _)).trans (List.suffix_cons _ _)
  | lastItem _ closed ih => exact (suffix_of_skip_eq closed).trans ih
  | moreItems _ comma _ ih later =>
      exact (later.trans (skip_suffix _)).trans ((suffix_of_skip_eq comma).trans ih)
  | lastMember named colon _ closed ih =>
      have content := (ih.trans (skip_suffix _)).trans (suffix_of_skip_eq colon)
      have inside := content.trans (suffix_of_string named)
      exact ((suffix_of_skip_eq closed).trans inside).trans (List.suffix_cons _ _)
  | moreMembers named colon _ comma _ ih later =>
      have content := (ih.trans (skip_suffix _)).trans (suffix_of_skip_eq colon)
      have inside := content.trans (suffix_of_string named)
      have others := (later.trans (skip_suffix _)).trans (suffix_of_skip_eq comma)
      exact (others.trans inside).trans (List.suffix_cons _ _)

/-! ## What stands for nothing -/

/-- A character that opens a collection. -/
def isOpening (c : Char) : Bool := c = '[' || c = '\x7b'

/-- A text has a run of too many digits, or opens too many collections. -/
inductive Overflows (depth : Nat) (text : List Char) : Prop where
  | digits {run : List Char} : run <:+: text → (∀ c ∈ run, c.isDigit = true) →
      maxDigits < run.length → Overflows depth text
  | openings : depth < text.countP isOpening → Overflows depth text

namespace Overflows

variable {depth : Nat} {rest : List Char}

theorem of_suffix (overflows : Overflows depth rest) (later : rest <:+ text) :
    Overflows depth text := by
  cases overflows with
  | digits inside all long => exact .digits (inside.trans later.isInfix) all long
  | openings many => exact .openings (Nat.lt_of_lt_of_le many later.sublist.countP_le)

theorem cons {c : Char} (overflows : Overflows depth rest) (opening : isOpening c = true) :
    Overflows (depth + 1) (c :: rest) := by
  cases overflows with
  | digits inside all long =>
      exact .digits (inside.trans (List.suffix_cons c rest).isInfix) all long
  | openings many =>
      refine .openings ?_
      rw [List.countP_cons_of_pos opening]
      exact Nat.succ_lt_succ many

theorem of_opening {c : Char} (opening : isOpening c = true) : Overflows 0 (c :: rest) := by
  refine .openings ?_
  rw [List.countP_cons_of_pos opening]
  exact Nat.succ_pos _

end Overflows

theorem isInfix_wholeDigits (text : List Char) : wholeDigits text <:+: text := by
  rw [wholeDigits_eq]
  split
  · next zero =>
      obtain ⟨rest, rfl⟩ := List.head?_eq_some_iff.1 zero
      exact (List.prefix_append ['0'] rest).isInfix
  · exact (List.takeWhile_prefix _).isInfix

theorem isDigit_of_mem_wholeDigits {c : Char} (member : c ∈ wholeDigits text) :
    c.isDigit = true := by
  rw [wholeDigits_eq] at member
  split at member
  · rw [List.mem_singleton.1 member]
    rfl
  · exact List.mem_takeWhile_imp member

theorem overflows_of_scalar {flaw : Unrepresentable} (depth : Nat)
    (failed : scalar text = .error (.unrepresentable flaw)) : Overflows depth text := by
  rw [scalar] at failed
  split at failed
  · split at failed
    · cases failed
    · cases failed
  · rw [number_eq] at failed
    split at failed
    · cases failed
    · split at failed
      · next huge =>
          simp only [Bool.and_eq_true, decide_eq_true_eq] at huge
          have whole := (isInfix_wholeDigits _).trans (unsigned_suffix text).isInfix
          refine .digits whole ?_ huge.2
          exact fun c => isDigit_of_mem_wholeDigits
      · split at failed
        · cases failed
        · cases failed

theorem unitChar_ne_unrepresentable (unit : Nat) (flaw : Unrepresentable) :
    (unitChar unit).map (·, 4) ≠ .error (.unrepresentable flaw) := by
  intro failed
  rw [unitChar] at failed
  split at failed
  · cases failed
  · cases failed

theorem codeEscape_ne_unrepresentable (flaw : Unrepresentable) :
    codeEscape text ≠ .error (.unrepresentable flaw) := by
  intro failed
  rw [codeEscape] at failed
  split at failed
  · cases failed
  · split at failed
    · cases failed
    · dsimp only at failed
      split at failed
      · split at failed
        · cases failed
        · split at failed
          · cases failed
          · exact unitChar_ne_unrepresentable _ flaw failed
      · exact unitChar_ne_unrepresentable _ flaw failed

theorem stringBody_ne_unrepresentable (flaw : Unrepresentable) (start : Nat) (text : List Char) :
    stringBody start text ≠ .error (.unrepresentable flaw) := by
  fun_induction stringBody start text with
  | case4 rest stop failed =>
      intro same
      cases same
      exact codeEscape_ne_unrepresentable flaw failed
  | case5 rest c taken escape stop failed ih =>
      intro same
      cases same
      exact ih failed
  | case8 letter rest _ c known stop failed ih =>
      intro same
      cases same
      exact ih failed
  | case11 c rest _ _ _ _ large stop failed ih =>
      intro same
      cases same
      exact ih failed
  | _ =>
      intro same
      cases same

theorem string_ne_unrepresentable (flaw : Unrepresentable) :
    string text ≠ .error (.unrepresentable flaw) := by
  intro failed
  rw [string] at failed
  cases read : stringBody (text.length + 1) text with
  | error stop =>
      rw [read] at failed
      cases failed
      exact stringBody_ne_unrepresentable flaw _ _ read
  | ok found =>
      rw [read] at failed
      cases failed

/-- What stands for nothing in a text has too many digits or lies too deep. -/
structure Bounded (text : List Char) : Prop where
  value : ∀ {depth flaw}, Json.value depth text = .error (.unrepresentable flaw) →
    Overflows depth text
  items : ∀ {depth flaw}, Json.items depth text = .error (.unrepresentable flaw) →
    Overflows depth text
  members : ∀ {depth held flaw}, Json.members depth held text = .error (.unrepresentable flaw) →
    Overflows depth text

section

variable (shorter : ∀ other : List Char, other.length < text.length → Bounded other)
include shorter

theorem overflows_of_value {depth : Nat} {flaw : Unrepresentable}
    (failed : value depth text = .error (.unrepresentable flaw)) : Overflows depth text := by
  rw [value.eq_def] at failed
  split at failed
  · cases failed
  · split at failed
    · next read =>
        cases failed
        exact absurd read (string_ne_unrepresentable flaw)
    · cases failed
  · next rest =>
      split at failed
      · exact .of_opening rfl
      · split at failed
        · cases failed
        · split at failed
          · next read =>
              cases failed
              have inside := (shorter _ length_skip_lt).items read
              exact (inside.of_suffix (skip_suffix rest)).cons rfl
          · cases failed
  · next rest =>
      split at failed
      · exact .of_opening rfl
      · split at failed
        · cases failed
        · split at failed
          · next read =>
              cases failed
              have inside := (shorter _ length_skip_lt).members read
              exact (inside.of_suffix (skip_suffix rest)).cons rfl
          · cases failed
  · exact overflows_of_scalar depth failed

theorem overflows_of_items {depth : Nat} {flaw : Unrepresentable}
    (failed : items depth text = .error (.unrepresentable flaw)) : Overflows depth text := by
  rw [items.eq_def] at failed
  split at failed
  · next read =>
      cases failed
      exact overflows_of_value shorter read
  · next first inner read =>
      have here := suffix_of_reads ((sound text).value read)
      split at failed
      · cases failed
      · next rest comma =>
          split at failed
          · next readOthers =>
              cases failed
              have later := shorter (skip rest)
                (Nat.lt_trans (length_skip_lt_of_skip_eq comma) inner.2)
              refine (later.items readOthers).of_suffix ?_
              exact (skip_suffix rest).trans ((suffix_of_skip_eq comma).trans here)
          · cases failed
      · cases failed

theorem overflows_of_members {depth : Nat} {held : List (Value × Value)}
    {flaw : Unrepresentable} (failed : members depth held text = .error (.unrepresentable flaw)) :
    Overflows depth text := by
  rw [members.eq_def] at failed
  split at failed
  · next afterQuote =>
      split at failed
      · next named =>
          cases failed
          exact absurd named (string_ne_unrepresentable flaw)
      · next name afterName named =>
          split at failed
          · next afterColon colon =>
              have afterColonShorter : (skip afterColon).length < ('"' :: afterQuote).length :=
                Nat.lt_trans (length_skip_lt_of_skip_eq colon) (Nat.lt_succ_of_lt afterName.2)
              have content : skip afterColon <:+ '"' :: afterQuote :=
                ((skip_suffix afterColon).trans (suffix_of_skip_eq colon)).trans
                  ((suffix_of_string named).trans (List.suffix_cons _ _))
              split at failed
              · next read =>
                  cases failed
                  exact ((shorter _ afterColonShorter).value read).of_suffix content
              · next _ inner read =>
                  have here := suffix_of_reads ((sound _).value read)
                  split at failed
                  · cases failed
                  · next rest comma =>
                      split at failed
                      · next readOthers =>
                          cases failed
                          have later := shorter (skip rest)
                            (Nat.lt_trans (length_skip_lt_of_skip_eq comma)
                              (Nat.lt_trans inner.2 afterColonShorter))
                          refine (later.members readOthers).of_suffix ?_
                          exact (skip_suffix rest).trans
                            ((suffix_of_skip_eq comma).trans (here.trans content))
                      · cases failed
                  · cases failed
          · cases failed
  · cases failed

end

theorem bounded (text : List Char) : Bounded text := by
  have shorter (other : List Char) (_ : other.length < text.length) : Bounded other :=
    bounded other
  exact ⟨overflows_of_value shorter, overflows_of_items shorter, overflows_of_members shorter⟩
termination_by text.length

end Bindery.Format.Json

namespace Bindery.Files.Content

open Bindery.Data

/-! ## Texts of files -/

/-- A file holds a text, as it is or as its bytes. -/
inductive Holds : Content → String → Prop where
  | text (text : String) : Holds (.text text) text
  | bytes (text : String) : Holds (.bytes text.toUTF8.toList) text

variable {content : Content}

/-- The text of a file is read with its line ends unified. -/
theorem Holds.read_eq {text : String} (holds : content.Holds text) :
    content.read = .ok (String.ofList (plainLineEnds text.toList)) := by
  cases holds with
  | text => rfl
  | bytes =>
      have decoded : Utf8.decode text.toUTF8.toList = .ok text.toList :=
        Utf8.decode_eq_ok_iff.2 (by rw [String.ofList_toList])
      rw [Content.read, decoded]
      rfl

end Bindery.Files.Content

namespace Bindery.Loading

open Bindery.Api Bindery.Data Bindery.Files Bindery.Files.Tree Bindery.Format Bindery.Steps

/-! ## Loads that are reported -/

section

variable {tree : Tree} {base : Base} {source : String}

theorem readSource_of_content {content : Content}
    (held : tree.content (base.inTree (Path.parse source)) = .ok content) :
    readSource tree base source = content.read.mapError .undecodable := by
  have found : tree.exists? (base.inTree (Path.parse source)) = .ok true := by
    rw [Tree.content] at held
    split at held
    · cases held
    · next place reached =>
        rw [Tree.exists?, reached]
        dsimp only
        split at held
        · next here => rw [here]; rfl
        · cases held
        · cases held
  rw [readSource, found, held]
  rfl

/-- The path of a source can be looked up, and a file there holds a text.  With its line ends
unified, the text is of some kind. -/
structure NamesText (tree : Tree) (base : Base) (source : String) (kind : String → Prop) :
    Prop where
  short : tree.place (base.inTree (Path.parse source)) ≠ .error .nameTooLong
  held : ∀ content, tree.content (base.inTree (Path.parse source)) = .ok content →
    ∃ text, content.Holds text ∧ kind (String.ofList (plainLineEnds text.toList))

theorem NamesText.mono {kind other : String → Prop} (imply : ∀ text, kind text → other text)
    (names : NamesText tree base source kind) : NamesText tree base source other := by
  refine ⟨names.short, fun content found => ?_⟩
  obtain ⟨text, holds, ofKind⟩ := names.held content found
  exact ⟨text, holds, imply _ ofKind⟩

theorem loadFile_of_ok {text : String} (done : readSource tree base source = .ok text) :
    loadFile tree base source =
      parse source (.ofSuffix (Path.parse source).suffix) text >>= accept source := by
  simp only [loadFile, done, bind, Except.bind]

end

/-- The base of a working directory. -/
def atHome : Base where
  workingDirectory := ⟨"/", ["home", "sam"]⟩

end Bindery.Loading
