import Bindery.Text.CaseTable

/-!
# Upper and lower case

Case conversion of whole texts.  Some characters change into several (`ß` into `SS`), and a
capital sigma at the end of a word has a lower case of its own.
-/

namespace Bindery.Text

/-- The image of a code point under the first run that holds it. -/
def caseRun? (runs : List (Nat × Nat × Nat × Int)) (code : Nat) : Option Char :=
  (runs.find? fun (first, last, step, _) =>
      first ≤ code && code ≤ last && (code - first) % step = 0).map
    fun (_, _, _, distance) => Char.ofNat (code + distance).toNat

/-- The image of a character under expansions first and runs second. -/
def mapCase (expansions : List (Nat × String)) (runs : List (Nat × Nat × Nat × Int))
    (c : Char) : List Char :=
  match expansions.lookup c.toNat with
  | some text => text.toList
  | none => [(caseRun? runs c.toNat).getD c]

/-- A text in upper case. -/
def upper (text : String) : String :=
  String.ofList (text.toList.flatMap (mapCase upperExpansions upperRuns))

/-- Whether the nearest character that is not passed over has a case. -/
def nearestIsCased (side : List Char) : Bool :=
  match side.dropWhile fun c => caseIgnorable.contains c.toNat with
  | [] => false
  | c :: _ => casedLetters.contains c.toNat

/-- The lower case of the rest of a text, given the characters before it in reverse. -/
def lowerFrom (before : List Char) : List Char → List Char
  | [] => []
  | c :: rest =>
    let image :=
      if c = 'Σ' then
        [if nearestIsCased before && ! nearestIsCased rest then 'ς' else 'σ']
      else mapCase lowerExpansions lowerRuns c
    image ++ lowerFrom (c :: before) rest

/-- A text in lower case. -/
def lower (text : String) : String := String.ofList (lowerFrom [] text.toList)

end Bindery.Text
