import Bindery.Format.Toml.Scalar
import Bindery.Format.Toml.Table
import Bindery.Format.Toml.Text

/-!
# Reading TOML

`Toml.read` reads a TOML text, which is a table: lines that give keys values, and headers that
say which table or which list of tables the following lines belong to.
-/

namespace Bindery.Format.Toml

open Bindery.Data

/-! ## Space -/

/-- What is left after a comment, if there is one; it may hold no controls. -/
def skipComment (text : List Char) :
    Except Stop (Remaining text) :=
  match text with
  | '#' :: rest =>
    let comment := rest.takeWhile (· ≠ '\n')
    match comment.find? isControl with
    | some c =>
      .error (.flaw (.invalidCharacter c)
        (rest.length - (comment.takeWhile (! isControl ·)).length))
    | none =>
      .ok ((Remaining.dropWhile (· ≠ '\n') rest).past _).remaining
  | other => .ok (.all other)

/-- What is left after blanks, line feeds and comments. -/
def skipLines (text : List Char) :
    Except Stop (Remaining text) :=
  let start := Remaining.dropWhile (fun c => isWhite c || c = '\n') text
  match skipComment start.1 with
  | .error stop => .error stop
  | .ok left =>
    if left.1.length < start.1.length then
      match skipLines left.1 with
      | .error stop => .error stop
      | .ok last => .ok (start.andMaybe (left.andMaybe last))
    else .ok (start.andMaybe left)
termination_by text.length
decreasing_by exact Nat.lt_of_lt_of_le ‹_› start.2

/-! ## Values -/

/-- An equals sign after a key, and what is left after the blanks that follow it. -/
def equals (text : List Char) : Except Stop (Rest text) :=
  match afterMark? '=' text with
  | some left => .ok left
  | none => .error (.flaw .expectedEquals text.length)

/-- The room for values in each other. A list takes two of it and a table three. -/
def maxRoom : Nat := 982

/-- The room in a value that takes some, if there is enough. -/
def roomWithin (taken room : Nat) : Except Stop Nat :=
  if taken ≤ room then .ok (room - taken) else .error (.unrepresentable .tooDeep)

mutual

/-- A value at the start of a text, given the room for values in each other. -/
def value (room : Nat) (text : List Char) : Step Value text :=
  match text with
  | [] => .error (.flaw .invalidValue 0)
  | c :: rest =>
    if c = '"' || c = '\'' then
      if rest.take 2 == [c, c] then
        (multiline c (rest.drop 2)).map fun (found, left) =>
          (.text found, (left.pastDrop 2).past c)
      else (singleLine c rest).map fun (found, left) => (.text found, left.past c)
    else if c = '[' then
      match roomWithin 2 room, skipLines rest with
      | .error stop, _ | _, .error stop => .error stop
      | .ok room, .ok start =>
        if start.1.head? = some ']' then .ok (.list [], (start.drop 1).past c)
        else
          match items room start.1 with
          | .error stop => .error stop
          | .ok (found, left) => .ok (.list found, (start.andThen left).past c)
    else if c = '\x7b' then
      let start := Remaining.dropWhile isWhite rest
      match roomWithin 3 room with
      | .error stop => .error stop
      | .ok room =>
        if start.1.head? = some '\x7d' then .ok (.map [], (start.drop 1).past c)
        else
          match members room {} start.1 with
          | .error stop => .error stop
          | .ok (found, left) => .ok (.map found, (start.andThen left).past c)
    else scalar (c :: rest)
termination_by 2 * text.length
decreasing_by
  · have := start.2
    simp only [List.length_cons]
    omega
  · have bound := (Remaining.dropWhile isWhite rest).2
    simp only [List.length_cons]
    omega

/-- The items of a list up to its closing bracket; there is at least one. -/
def items (room : Nat) (text : List Char) : Step (List Value) text :=
  match value room text with
  | .error stop => .error stop
  | .ok (first, left) =>
    match skipLines left.1 with
    | .error stop => .error stop
    | .ok remaining =>
      let after := left.andMaybe remaining
      match after.1.head?, afterMark? ',' after.1 with
      | some ']', _ => .ok ([first], after.andMaybe ((Remaining.all after.1).drop 1))
      | _, none => .error (.flaw .unclosedArray after.1.length)
      | _, some next =>
        match skipLines next.1 with
        | .error stop => .error stop
        | .ok more =>
          let start := after.andThen (next.andMaybe more)
          if start.1.head? = some ']' then
            .ok ([first], start.andMaybe ((Remaining.all start.1).drop 1))
          else
            match items room start.1 with
            | .error stop => .error stop
            | .ok (others, last) => .ok (first :: others, start.andThen last)
termination_by 2 * text.length + 1
decreasing_by
  · omega
  · have bound := ((left.andMaybe remaining).andThen (next.andMaybe more)).2
    omega

/-- The entries of an inline table up to its closing brace, added to those before; there is at
least one. -/
def members (room : Nat) (table : InlineTable) (text : List Char) : Step Entries text :=
  match key text with
  | .error stop => .error stop
  | .ok (path, afterKey) =>
    match equals afterKey.1 with
    | .error stop => .error stop
    | .ok afterEquals =>
      let start := afterKey.andThen afterEquals
      match value room start.1 with
      | .error stop => .error stop
      | .ok (content, left) =>
        match table.assign path content with
        | .error kind => .error (.flaw kind left.1.length)
        | .ok extended =>
          let after := (start.andThen left).andMaybe (.dropWhile isWhite left.1)
          match after.1.head?, afterMark? ',' after.1 with
          | some '\x7d', _ =>
            .ok (extended.entries, after.andMaybe ((Remaining.all after.1).drop 1))
          | _, none => .error (.flaw .unclosedTable after.1.length)
          | _, some next =>
            match members room extended next.1 with
            | .error stop => .error stop
            | .ok (all, last) => .ok (all, after.andThen (next.andThen last))
termination_by 2 * text.length + 1
decreasing_by
  · have bound := (afterKey.andThen afterEquals).2
    omega
  · have := (after.andThen next).2
    omega

end

/-! ## Statements -/

/-- What is known between statements: the tables and the header that counts. -/
structure State where
  tables : Tables := {}
  header : Path := []

/-- A flaw found with some characters left, as an error. -/
def located {α : Type} (left : Nat) (result : Except Flaw α) : Except Stop α :=
  result.mapError (Stop.flaw · left)

/-- A line that gives a key its value. -/
def assignment (state : State) (text : List Char) : Step State text := do
  let (path, afterKey) ← key text
  let start ← equals afterKey.1
  let (content, left) ← value maxRoom start.1
  let tables ← located left.1.length (state.tables.assign state.header path content)
  return ({ state with tables := tables },
    afterKey.andThen (start.andThen left))

/-- A header, given the text after its opening mark, the closing mark, and the flaw that the lack
of it is. -/
def header (declare : Path → Except Flaw Tables) (closing : List Char) (lack : Flaw)
    (text : List Char) : Step State text := do
  let start := Remaining.dropWhile isWhite text
  let (path, left) ← key start.1
  let tables ← located left.1.length (declare path)
  if closing.isPrefixOf left.1 then
    let after := (Remaining.all left.1).drop closing.length
    return (⟨tables, path⟩, start.andThen (left.andMaybe after))
  else throw (.flaw lack left.1.length)

/-- A statement at the start of a text, which is not empty. -/
def statement (state : State) (text : List Char) : Step State text :=
  match text with
  | '[' :: '[' :: rest =>
    (header state.tables.settle.declareItem [']', ']'] .expectedListEnd rest).map
      fun (next, left) => (next, (left.past _).past _)
  | '[' :: rest =>
    (header state.tables.settle.declareTable [']'] .expectedTableEnd rest).map
      fun (next, left) => (next, left.past _)
  | c :: rest =>
    if isBare c || c = '"' || c = '\'' then assignment state (c :: rest)
    else .error (.flaw .invalidStatement (rest.length + 1))
  | [] => .error (.flaw .invalidStatement 0)

/-- What is left after the end of a line, which nothing but a comment may precede. -/
def lineEnd (text : List Char) : Except Stop (Remaining text) :=
  let start := Remaining.dropWhile isWhite text
  match skipComment start.1 with
  | .error stop => .error stop
  | .ok left =>
    match left.1.head? with
    | some '\n' | none => .ok (start.andMaybe (left.drop 1))
    | some _ => .error (.flaw .expectedLineEnd left.1.length)

/-- The tables that the statements of a text add up to. -/
def statements (state : State) (text : List Char) : Except Stop Tables :=
  have bound := length_skipWhite_le text
  match shape : skipWhite text with
  | [] => .ok state.tables
  | '\n' :: rest =>
    have : rest.length < text.length := by rw [shape] at bound; exact bound
    statements state rest
  | '#' :: rest =>
    match skipComment ('#' :: rest) with
    | .error stop => .error stop
    | .ok left =>
      if left.1.length < text.length then statements state left.1
      else .error (.flaw .invalidStatement left.1.length)
  | start =>
    match statement state start with
    | .error stop => .error stop
    | .ok (next, left) =>
      match lineEnd left.1 with
      | .error stop => .error stop
      | .ok rest =>
        have : rest.1.length < text.length := by
          have := left.2
          have := rest.2
          rw [shape] at bound
          omega
        statements next rest.1
termination_by text.length

/-- Reads a TOML text. -/
def read (source : String) : Except Error Entries :=
  let text := source.toList
  match statements {} text with
  | .ok tables => .ok tables.entries
  | .error (.flaw kind left) =>
    .error (.flaw kind (if left = 0 then none else some (.ofLeft text left)))
  | .error (.unrepresentable kind) => .error (.unrepresentable kind)

end Bindery.Format.Toml
