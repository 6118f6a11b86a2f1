import Bindery.Format.Yaml.Error
import Bindery.Format.Yaml.Lines
import Bindery.Text.Digits

/-!
# The text of scalars

A scalar is written plainly, between quotes, or as a block of lines.  The readers here take the
text from where a scalar starts and give its content and what is left; line breaks in a scalar
are joined as its style says.
-/

namespace Bindery.Format.Yaml

open Bindery.Data

/-! ## Quoted scalars -/

/-- The breaks of the empty lines at the start of a text, without the white space around them;
no mark that divides documents may follow. -/
def quotedBreaks (text : List Char) :
    Except Error (List Char × Remaining text) :=
  if atDocumentMark text then .error .malformed
  else
    let bound := length_dropWhile_le isWhite text
    match shape : text.dropWhile isWhite with
    | [] => .ok ([], ⟨[], by simp⟩)
    | c :: rest =>
      if isBreak c then
        have shorter : rest.length < text.length := by rw [shape] at bound; exact bound
        match quotedBreaks rest with
        | .error error => .error error
        | .ok (breaks, left) => .ok (c :: breaks, ⟨left.1, by have := left.2; omega⟩)
      else .ok ([], ⟨c :: rest, by rw [shape] at bound; exact bound⟩)
termination_by text.length

/-- The character of an escape of one letter. -/
def escapes : List (Char × Char) := [
  ('0', '\x00'), ('a', '\x07'), ('b', '\x08'), ('t', '\t'), ('\t', '\t'), ('n', '\n'),
  ('v', '\x0b'), ('f', '\x0c'), ('r', '\r'), ('e', '\x1b'), (' ', ' '), ('"', '"'),
  ('\\', '\\'), ('/', '/'), ('N', '\u0085'), ('_', '\u00a0'), ('L', '\u2028'), ('P', '\u2029')]

/-- The letters of the escapes that give a code, with the number of digits of the code. -/
def codeEscapes : List (Char × Nat) := [('x', 2), ('u', 4), ('U', 8)]

/-- The character of a code; half of a pair alone stands for no character. -/
def codeChar (code : Nat) : Except Error Char :=
  if code ≥ 0x110000 then .error (.unrepresentable (.noCharacter code))
  else if 0xD800 ≤ code && code < 0xE000 then .error .halfPair
  else .ok (Char.ofNat code)

/-- The character of an escape, given the text after its backslash, and what is left. -/
def escape (text : List Char) : Except Error (Char × Rest text) :=
  match text with
  | [] => .error .malformed
  | letter :: rest =>
    match escapes.lookup letter, codeEscapes.lookup letter with
    | some c, _ => .ok (c, Rest.tail _ rest)
    | none, none => .error .malformed
    | none, some width =>
      match Text.hexadecimal? (rest.take width) with
      | none => .error .malformed
      | some code =>
        if rest.length < width then .error .malformed
        else
          (codeChar code).map fun c =>
            (c, Rest.drop width letter rest)

/-- The first part of a quoted scalar and what is left: white space with line breaks, an escape
or a character, or nothing where the closing quote stands. A line break counts as `fold` says; in
double quotes one after a backslash does not count. -/
def quotedPart (double : Bool) (text : List Char) :
    Except Error (Option (List Char) × Rest text) :=
  match text with
  | [] => .error .malformed
  | c :: rest =>
    if isWhite c || isBreak c then
      have bound := length_dropWhile_le isWhite (c :: rest)
      match gap : (c :: rest).dropWhile isWhite with
      | [] => .error .malformed
      | next :: more =>
        if isBreak next then
          match quotedBreaks more with
          | .error error => .error error
          | .ok (breaks, left) =>
            .ok (some (fold next breaks), ⟨left.1, by
              have := left.2; rw [gap] at bound; simp at *; omega⟩)
        else if shorter : (next :: more).length < (c :: rest).length then
          .ok (some ((c :: rest).takeWhile isWhite), ⟨next :: more, shorter⟩)
        else .error .malformed
    else if double && c = '"' then .ok (none, Rest.tail c rest)
    else if double && c = '\\' then
      match rest with
      | [] => .error .malformed
      | next :: more =>
        if isBreak next then
          match quotedBreaks more with
          | .error error => .error error
          | .ok (breaks, left) =>
            .ok (some breaks, (Remaining.past next left).past c)
        else
          (escape (next :: more)).map fun (escaped, left) =>
            (some [escaped], left.past c)
    else if ! double && c = '\'' then
      match rest with
      | '\'' :: more => .ok (some ['\''], (Rest.tail _ more).past c)
      | after => .ok (none, Rest.tail c after)
    else .ok (some [c], Rest.tail c rest)

/-- The content of a quoted scalar up to its closing quote, and what is left. -/
def quoted (double : Bool) (text : List Char) : Except Error (List Char × Rest text) :=
  match quotedPart double text with
  | .error error => .error error
  | .ok (none, left) => .ok ([], left)
  | .ok (some part, left) =>
    match quoted double left.1 with
    | .error error => .error error
    | .ok (more, last) => .ok (part ++ more, last.of (Nat.le_of_lt left.2))
termination_by text.length
decreasing_by exact left.2

/-! ## Plain scalars -/

/-- Whether a plain scalar ends at a text: at a gap, at a colon before one, and in a flow
collection also at the marks of such collections. -/
def endsPlain (flow : Bool) : List Char → Bool
  | [] => true
  | c :: rest =>
    isWhite c || isBreak c ||
      (c = ':' && (atGap rest ||
        (flow && rest.head?.any fun next => ",[]\x7b\x7d".toList.contains next))) ||
      (flow && ",?[]\x7b\x7d".toList.contains c)

/-- The part of a plain scalar up to where it ends or pauses. -/
def plainWord (flow : Bool) : List Char → List Char
  | [] => []
  | c :: rest => if endsPlain flow (c :: rest) then [] else c :: plainWord flow rest

/-- What stands between two words of a plain scalar: the text it counts as, what is left after
it, and, if it has a line break, the column of what is left. A mark that divides documents
makes it count as nothing. -/
structure Gap where
  content : List Char
  rest : List Char
  column : Option Nat

/-- The breaks of empty lines in a plain scalar, with what is left after the spaces that follow
and the column of it; nothing counts if documents are divided there. -/
def plainBreaks (column : Nat) : List Char → Option (List Char) × List Char × Nat
  | [] => (some [], [], column)
  | c :: rest =>
    if c = ' ' then plainBreaks (column + 1) rest
    else if isBreak c then
      if atDocumentMark rest then (none, rest, 0)
      else
        let (breaks, left, reached) := plainBreaks 0 rest
        (breaks.map (c :: ·), left, reached)
    else (some [], c :: rest, column)

/-- What stands at a text after a word of a plain scalar. -/
def Gap.read (text : List Char) : Gap :=
  match text.dropWhile (· = ' ') with
  | c :: rest =>
    if isBreak c then
      if atDocumentMark rest then ⟨[], rest, some 0⟩
      else
        let (breaks, left, column) := plainBreaks 0 rest
        ⟨(breaks.map (fold c)).getD [], left, some column⟩
    else ⟨text.takeWhile (· = ' '), c :: rest, none⟩
  | [] => ⟨text.takeWhile (· = ' '), [], none⟩

/-- A plain scalar: its content, what is left, and whether a line break stands before that. -/
structure Plain where
  content : List Char
  rest : List Char
  brokeLine : Bool

/-- The plain scalar at the start of a text. It goes on over line breaks as long as lines are
indented by at least `least` columns; in a flow collection indentation does not matter. -/
def plain (flow : Bool) (least : Nat) (text : List Char) : Plain :=
  if text.head? = some '#' then ⟨[], text, false⟩
  else
    let word := plainWord flow text
    if word.isEmpty then ⟨[], text, false⟩
    else
      let gap := Gap.read (text.drop word.length)
      let brokeLine := gap.column.isSome
      let outdented := ! flow && gap.column.any (· < least)
      if gap.content.isEmpty || gap.rest.head? = some '#' || outdented then
        ⟨word, gap.rest, brokeLine⟩
      else if gap.rest.length < text.length then
        let more := plain flow least gap.rest
        if more.content.isEmpty then ⟨word, gap.rest, brokeLine⟩
        else ⟨word ++ gap.content ++ more.content, more.rest, more.brokeLine⟩
      else ⟨word, gap.rest, brokeLine⟩
termination_by text.length

/-! ## Block scalars -/

/-- What becomes of the line breaks at the end of a block. -/
inductive Chomping where
  | strip | clip | keep
  deriving DecidableEq, Repr

/-- How a block is read: what becomes of its last breaks, and how much more it is indented than
what holds it, if that is said. -/
structure BlockHeader where
  chomping : Chomping
  indentation : Option Nat

/-- What the sign at the start of a text says about the last breaks of a block. -/
def chomping? : List Char → Option (Chomping × List Char)
  | '+' :: rest => some (.keep, rest)
  | '-' :: rest => some (.strip, rest)
  | _ => none

/-- The digit at the start of a text as an indentation, which is not zero. -/
def indentation? : List Char → Option (Nat × List Char)
  | c :: rest => if '1' ≤ c && c ≤ '9' then some (c.toNat - 48, rest) else none
  | [] => none

/-- The header of a block and the text of its lines. -/
def BlockHeader.read (text : List Char) : Option (BlockHeader × List Char) := do
  let (chomping, indentation, rest) :=
    match chomping? text with
    | some (chomping, rest) =>
      match indentation? rest with
      | some (width, rest) => (chomping, some width, rest)
      | none => (chomping, none, rest)
    | none =>
      match indentation? text with
      | some (width, rest) =>
        match chomping? rest with
        | some (chomping, rest) => (chomping, some width, rest)
        | none => (.clip, some width, rest)
      | none => (.clip, none, text)
  if ! atSpace rest then none
  else return (⟨chomping, indentation⟩, ← finishLine rest)

/-- What stands before a line of a block: the breaks of the empty lines, the text of the line,
and the number of spaces before it. -/
structure Lead where
  breaks : List Char
  rest : List Char
  column : Nat

/-- What stands before the first line of a block, and the widest run of spaces in it. -/
def firstLead (column widest : Nat) : List Char → Lead × Nat
  | [] => (⟨[], [], column⟩, widest)
  | c :: rest =>
    if c = ' ' then firstLead (column + 1) (max widest (column + 1)) rest
    else if isBreak c then
      let (lead, width) := firstLead 0 widest rest
      ({ lead with breaks := c :: lead.breaks }, width)
    else (⟨[], c :: rest, column⟩, widest)

/-- What stands before a line of a block whose lines are indented by `indent` columns. -/
def nextLead (indent column : Nat) : List Char → Lead
  | [] => ⟨[], [], column⟩
  | c :: rest =>
    if c = ' ' && column < indent then nextLead indent (column + 1) rest
    else if isBreak c then
      let lead := nextLead indent 0 rest
      { lead with breaks := c :: lead.breaks }
    else ⟨[], c :: rest, column⟩

theorem length_nextLead_le (indent column : Nat) (text : List Char) :
    (nextLead indent column text).rest.length ≤ text.length := by
  induction text generalizing column with
  | nil => simp [nextLead]
  | cons c rest ih =>
    simp only [nextLead]
    split
    · exact Nat.le_succ_of_le (ih _)
    · split
      · exact Nat.le_succ_of_le (ih _)
      · exact Nat.le_refl _

/-- Whether a line starts with a space or a tab. -/
def startsWhite (line : List Char) : Bool := line.head?.any isWhite

/-- The content of the lines of a block, given the breaks before the first line, and what is
left after them. In a folded block a break between two lines that start without white space is
joined as in a plain scalar. -/
def blockLines (folded : Bool) (chomping : Chomping) (indent : Nat) (breaks text : List Char) :
    List Char × List Char :=
  match text with
  | [] => (breaks, [])
  | c :: more =>
    let line := (c :: more).takeWhile (! isBreak ·)
    let after := (c :: more).dropWhile (! isBreak ·)
    let ending := after.take 1
    let lead := nextLead indent 0 (after.drop 1)
    if lead.column = indent && ! lead.rest.isEmpty then
      let joint :=
        if folded && ending == ['\n'] && ! startsWhite line && ! startsWhite lead.rest then
          (if lead.breaks.isEmpty then [' '] else [])
        else ending
      let (content, rest) := blockLines folded chomping indent lead.breaks lead.rest
      (breaks ++ line ++ joint ++ content, rest)
    else
      let tail :=
        match chomping with
        | .strip => []
        | .clip => ending
        | .keep => ending ++ lead.breaks
      (breaks ++ line ++ tail, lead.rest)
termination_by text.length
decreasing_by
  have one := length_nextLead_le indent 0 (((c :: more).dropWhile (! isBreak ·)).drop 1)
  have two := length_dropWhile_le (! isBreak ·) (c :: more)
  simp only [List.length_drop, List.length_cons] at *
  omega

/-- A block scalar, given the text after its mark and the least indentation of its lines: its
content and what is left. -/
def block (folded : Bool) (least : Nat) (text : List Char) : Option (List Char × List Char) := do
  let (header, body) ← BlockHeader.read text
  let (lead, indent) :=
    match header.indentation with
    | some width => (nextLead (least + width - 1) 0 body, least + width - 1)
    | none =>
      let (lead, widest) := firstLead 0 0 body
      (lead, max least widest)
  if lead.column = indent && ! lead.rest.isEmpty then
    return blockLines folded header.chomping indent lead.breaks lead.rest
  else
    return (if header.chomping = .keep then lead.breaks else [], lead.rest)

end Bindery.Format.Yaml
