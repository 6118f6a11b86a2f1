import Bindery.Files.Destination
import Bindery.Text.Split

/-!
# Paths as texts

The names on a path are parts of the text that it is read from, and the text of a path has no
characters but those of its names and the separators between them.  So an opening bracket in the
text of a file stands in the text of the directory or in the name that the file was given, and a
name without separators is a path with that name on it: what is kept under the name is found there.
-/

namespace Bindery.Files

open Bindery.Text

/-! ## Names and separators -/

theorem mem_of_mem_intercalate {separator : String} {parts : List String} {c : Char}
    (member : c ∈ (separator.intercalate parts).toList) :
    c ∈ separator.toList ∨ ∃ part ∈ parts, c ∈ part.toList := by
  rw [String.toList_intercalate] at member
  induction parts with
  | nil => cases member
  | cons part rest ih =>
      cases rest with
      | nil => exact .inr ⟨part, List.mem_cons_self, by simpa using member⟩
      | cons next rest =>
          rw [List.map_cons, List.map_cons, List.intercalate_cons_cons, List.append_assoc,
            List.mem_append, List.mem_append, ← List.map_cons] at member
          obtain here | between | later := member
          · exact .inr ⟨part, List.mem_cons_self, here⟩
          · exact .inl between
          · obtain separates | ⟨other, inRest, there⟩ := ih later
            · exact .inl separates
            · exact .inr ⟨other, List.mem_cons_of_mem _ inRest, there⟩

/-! ## Brackets -/

/-- An opening bracket stands in the root of a path or in a name on it. -/
def Path.IsBracketed (path : Path) : Prop :=
  '[' ∈ path.root.toList ∨ ∃ part ∈ path.parts, '[' ∈ part.toList

theorem Path.isBracketed_of_mem_text {path : Path} (bracket : '[' ∈ path.text.toList) :
    path.IsBracketed := by
  rw [text] at bracket
  split at bracket
  · exact absurd bracket (by decide)
  · rw [String.toList_append, List.mem_append] at bracket
    cases bracket with
    | inl inRoot => exact .inl inRoot
    | inr inParts =>
        cases mem_of_mem_intercalate inParts with
        | inl separates => exact absurd separates (by decide)
        | inr inPart => exact .inr inPart

theorem Path.mem_of_isBracketed_parse {text : String} (bracketed : (parse text).IsBracketed) :
    '[' ∈ text.toList := by
  cases bracketed with
  | inl inRoot =>
      change '[' ∈ (rootOf text.toList).toList at inRoot
      rw [rootOf] at inRoot
      split at inRoot
      all_goals exact absurd inRoot (by decide)
  | inr inParts =>
      obtain ⟨part, member, inPart⟩ := inParts
      obtain ⟨chars, inSplit, same⟩ := List.mem_map.1 (List.mem_filter.1 member).1
      rw [← same, String.toList_ofList] at inPart
      exact mem_of_mem_split inSplit inPart

theorem Path.isBracketed_of_join {base path : Path} (bracketed : (base.join path).IsBracketed) :
    base.IsBracketed ∨ path.IsBracketed := by
  rw [join] at bracketed
  split at bracketed
  · exact .inr bracketed
  · cases bracketed with
    | inl inRoot => exact .inl (.inl inRoot)
    | inr inParts =>
        obtain ⟨part, member, inPart⟩ := inParts
        cases List.mem_append.1 member with
        | inl inBase => exact .inl (.inr ⟨part, inBase, inPart⟩)
        | inr inPath => exact .inr (.inr ⟨part, inPath, inPart⟩)

theorem Destination.mem_of_isBracketed_parse {text : String} {directory : Destination}
    (parsed : parse text = .ok directory) (bracketed : directory.path.IsBracketed) :
    '[' ∈ text.toList := by
  rw [parse] at parsed
  cases stored : store? text with
  | none =>
      rw [stored] at parsed
      cases parsed
      exact Path.mem_of_isBracketed_parse bracketed
  | some pair =>
      obtain ⟨store, path⟩ := pair
      rw [stored] at parsed
      dsimp only at parsed
      split at parsed
      · cases parsed
        have inPath : (Path.parse path).IsBracketed := by
          cases bracketed with
          | inl inRoot =>
              have inSlash : '[' ∈ "/".toList := inRoot
              exact absurd inSlash (by decide)
          | inr inParts => exact .inr inParts
        have member := Path.mem_of_isBracketed_parse inPath
        rw [store?] at stored
        split at stored
        · rename_i mark rest found
          split at stored
          · cases stored
            rw [String.toList_ofList] at member
            have later : '[' ∈ text.toList.dropWhile isStoreChar := by
              rw [found]
              exact List.mem_cons_of_mem _ member
            exact (List.dropWhile_sublist _).subset later
          · cases stored
        · cases stored
      · split at parsed
        all_goals cases parsed

/-- A bracket in the text of a file stands in the output or in the name of the file. -/
theorem Destination.mem_text_join {output file : String} {directory : Destination}
    (parsed : parse output = .ok directory)
    (bracket : '[' ∈ (directory.join (.parse file)).text.toList) :
    '[' ∈ output.toList ∨ '[' ∈ file.toList := by
  have inPath : '[' ∈ (directory.path.join (.parse file)).text.toList := by
    rw [text, join] at bracket
    dsimp only at bracket
    split at bracket
    · exact bracket
    · rw [String.toList_append, List.mem_append] at bracket
      cases bracket with
      | inl inStore => exact absurd inStore (by decide)
      | inr inPath => exact inPath
  cases Path.isBracketed_of_join (Path.isBracketed_of_mem_text inPath) with
  | inl inDirectory => exact .inl (mem_of_isBracketed_parse parsed inDirectory)
  | inr inFile => exact .inr (Path.mem_of_isBracketed_parse inFile)

/-! ## Names of files in a directory -/

theorem Path.parse_of_undivided {name : String} (undivided : '/' ∉ name.toList)
    (nonempty : name ≠ "") (other : name ≠ ".") : parse name = ⟨"", [name]⟩ := by
  have whole : ∀ c ∈ name.toList, decide (c = '/') = false := by
    intro c member
    refine decide_eq_false fun slash => undivided ?_
    rw [← slash]
    exact member
  have root : name.toList.takeWhile (· = '/') = [] := by
    cases same : name.toList with
    | nil => rfl
    | cons c rest =>
        rw [List.takeWhile_cons, whole c (same ▸ List.mem_cons_self)]
        rfl
  simp only [parse, rootOf, root, split_of_forall whole]
  simp [nonempty, other]

namespace Tree

/-- A working directory with one file. -/
def ofFile (name : String) (content : Content) : Tree := { nodes := [([name], .file content)] }

/-- A name that a file in a working directory can have. -/
structure IsFileName (name : String) : Prop where
  nonempty : name ≠ ""
  undivided : '/' ∉ name.toList
  unended : '\x00' ∉ name.toList
  short : name.utf8ByteSize ≤ maxNameBytes
  other : name ≠ "." ∧ name ≠ ".."

variable {tree : Tree} {name : String} {content : Content} (fileName : IsFileName name)
include fileName

theorem IsFileName.parse_eq : Path.parse name = ⟨"", [name]⟩ :=
  Path.parse_of_undivided fileName.undivided fileName.nonempty fileName.other.1

/-- What is kept under the name of a file is there. -/
theorem node?_eq_lookup : tree.node? [name] = tree.nodes.lookup [name] := by
  have noRoot : name ≠ "/" := by
    intro root
    refine fileName.undivided ?_
    rw [root]
    decide
  have found : isGiven [name] = false := by
    simp [isGiven, noRoot, fileName.other]
  rw [node?, found]
  rfl

variable (held : tree.nodes.lookup [name] = some (.file content))
include held

theorem place_of_held : tree.place ⟨"", [name]⟩ = .ok [name] := by
  have text : Path.text ⟨"", [name]⟩ = name := by simp [Path.text]
  have short : ¬ maxNameBytes < name.utf8ByteSize := Nat.not_lt.2 fileName.short
  have fits : ¬ maxPathBytes ≤ name.utf8ByteSize := by
    have bound := fileName.short
    simp only [maxPathBytes, maxNameBytes] at bound ⊢
    omega
  have walks : tree.walk [] [name] = .ok [name] := by
    rw [walk, if_neg fileName.other.2, if_neg short]
    dsimp only [List.nil_append]
    rw [node?_eq_lookup fileName, held]
    rfl
  rw [place, text, String.contains_char_eq, if_neg (by simp [fileName.unended]), if_neg fits]
  exact walks

theorem exists?_of_held : tree.exists? ⟨"", [name]⟩ = .ok true := by
  rw [exists?, place_of_held fileName held]
  dsimp only
  rw [node?_eq_lookup fileName, held]
  rfl

theorem content_of_held : tree.content ⟨"", [name]⟩ = .ok content := by
  rw [Tree.content, place_of_held fileName held]
  dsimp only
  rw [node?_eq_lookup fileName, held]

end Tree

end Bindery.Files
