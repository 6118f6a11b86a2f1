import Bindery.Text.Combining
import Bindery.Text.FoldTable

/-!
# Plain forms of accented and compatibility characters

`fold` takes the accents off letters and replaces ligatures, full-width forms, circled digits
and the like by the plain characters that they stand for.  Names are derived from the folded
text, so only letters, digits, separators and the absence of a character matter in it: a
character that stands for none of these is left as it is.
-/

namespace Bindery.Text

/-- The character that a run of look-alikes gives for a code point. -/
def foldRun? (code : Nat) : Option Char :=
  (foldRuns.find? fun (first, last, _) => first ≤ code && code ≤ last).map
    fun (first, _, target) => Char.ofNat (target + (code - first))

/-- What one character stands for. ASCII stands for itself and a combining mark for nothing. -/
def foldChar (c : Char) : List Char :=
  if c.toNat < 0x80 then [c]
  else if combiningClass c.toNat ≠ 0 then []
  else match foldRun? c.toNat with
    | some plain => [plain]
    | none =>
      match foldExpansions.lookup c.toNat with
      | some plain => plain.toList
      | none => [c]

/-- A text with every character replaced by what it stands for. -/
def fold (text : List Char) : List Char := text.flatMap foldChar

theorem foldChar_ascii {c : Char} (ascii : c.toNat < 0x80) : foldChar c = [c] := by
  simp [foldChar, ascii]

/-- ASCII text is its own plain form. -/
theorem fold_ascii {text : List Char} (ascii : ∀ c ∈ text, c.toNat < 0x80) :
    fold text = text := by
  induction text with
  | nil => rfl
  | cons c rest ih =>
    have here := foldChar_ascii (ascii c (by simp))
    have there := ih fun d member => ascii d (by simp [member])
    simp only [fold] at there ⊢
    rw [List.flatMap_cons, here, there]
    rfl

end Bindery.Text
