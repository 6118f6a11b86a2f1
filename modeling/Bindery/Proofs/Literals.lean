import Mathlib.Algebra.Group.Nat.Defs
import Bindery.Data.Rest
import Bindery.Proofs.Lines
import Bindery.Text.Digits
import Bindery.Text.Width

/-!
# Literals that are read back

A literal on one line is read back as the text that it is written for, wherever it stands, and it
shows only printable characters, so it ends no line.  The runtime module of a client therefore has
the same lines and the same lexemes for every base URL, but for the one literal that reads as the
URL.
-/

namespace Bindery.Code.Literal

open Bindery.Data Bindery.Text

/-! ## Reading literals -/

/-- The characters that stand after a backslash for one character, and what they stand for. -/
def letterEscapes : List (Char × Char) := [
  ('\\', '\\'), ('\'', '\''), ('"', '"'), ('a', '\x07'), ('b', '\x08'), ('f', '\x0c'),
  ('n', '\n'), ('r', '\r'), ('t', '\t'), ('v', '\x0b')]

/-- The letters that stand after a backslash for a code point in hexadecimal digits, and how many
digits follow. -/
def codeWidths : List (Char × Nat) := [('x', 2), ('u', 4), ('U', 8)]

/-- Whether a character is an octal digit. -/
def isOctal (c : Char) : Bool := '0' ≤ c && c ≤ '7'

/-- The number that octal digits give. -/
def octal (digits : List Char) : Nat :=
  digits.foldl (fun number c => 8 * number + (c.toNat - 48)) 0

/-- The character with a code point in some hexadecimal digits. -/
def ofDigits? (width : Nat) (digits : List Char) : Option Char :=
  if digits.length = width then
    (hexadecimal? digits).bind fun code => if code.isValidChar then some (Char.ofNat code) else none
  else none

/-- What an escape stands for that goes on with a character after its backslash, and what follows.
An escaped line end stands for nothing, and a character without a meaning of its own is kept with
its backslash.  Characters that are called by their names are not read. -/
def escape? (c : Char) (rest : List Char) : Option (List Char × Rest (c :: rest)) :=
  match letterEscapes.lookup c, codeWidths.lookup c with
  | some plain, _ => some ([plain], .tail c rest)
  | none, some width =>
    (ofDigits? width (rest.take width)).map fun plain => ([plain], .drop width c rest)
  | none, none =>
    if c = '\n' then some ([], .tail c rest)
    else if c = 'N' then none
    else if isOctal c then
      let more := (rest.take 2).takeWhile isOctal
      some ([Char.ofNat (octal (c :: more))], .drop more.length c rest)
    else some (['\\', c], .tail c rest)

/-- The text of a literal up to its closing quotes, and what follows these.  A literal between
single marks ends on its line. -/
def body? (closing : List Char) : List Char → Option (List Char × List Char)
  | [] => none
  | c :: rest =>
    if closing.isPrefixOf (c :: rest) then some ([], (c :: rest).drop closing.length)
    else if c = '\\' then
      match rest with
      | [] => none
      | d :: more =>
        match escape? d more with
        | some (plain, after) =>
          (body? closing after.1).map fun (text, left) => (plain ++ text, left)
        | none => none
    else if c = '\n' && closing.length = 1 then none
    else (body? closing rest).map fun (text, left) => (c :: text, left)
termination_by text => text.length
decreasing_by
  · have := after.2
    simp only [List.length_cons] at this ⊢
    omega
  · simp

/-- Whether a character is a quote. -/
def isQuote (c : Char) : Bool := c = '\'' || c = '"'

/-- The text of the literal that a source text starts with, and what follows the literal. -/
def literal? : List Char → Option (List Char × List Char)
  | [] => none
  | c :: rest =>
    if ! isQuote c then none
    else if [c, c].isPrefixOf rest then body? [c, c, c] (rest.drop 2)
    else body? [c] rest

theorem length_body? {closing text value after : List Char}
    (found : body? closing text = some (value, after)) : after.length ≤ text.length := by
  fun_induction body? closing text generalizing value with
  | case1 => cases found
  | case2 c rest closes =>
      cases found
      exact length_drop_le _ _
  | case3 | case5 | case6 => cases found
  | case4 d more plain left read _ ih =>
      obtain ⟨⟨inner, later⟩, here, same⟩ := Option.map_eq_some_iff.1 found
      cases same
      have shorter := left.2
      have bound := ih here
      simp only [List.length_cons] at shorter ⊢
      omega
  | case7 c rest _ _ _ ih =>
      obtain ⟨⟨inner, later⟩, here, same⟩ := Option.map_eq_some_iff.1 found
      cases same
      exact Nat.le_succ_of_le (ih here)

theorem length_literal? {c : Char} {rest value after : List Char}
    (found : literal? (c :: rest) = some (value, after)) : after.length ≤ rest.length := by
  rw [literal?] at found
  split at found
  · cases found
  · split at found
    · exact Nat.le_trans (length_body? found) (length_drop_le 2 rest)
    · exact length_body? found

/-- A lexeme of a source text: a literal with its text, or another character. -/
inductive Lexeme where
  | text (chars : List Char)
  | char (c : Char)
  deriving DecidableEq, Repr

/-- The lexemes of a source text without its comments.  The mark before a template is a character
like others, as is a quote that starts no literal, and raw literals are not read as such. -/
def lexemes : List Char → List Lexeme
  | [] => []
  | c :: rest =>
    if c = '#' then lexemes (rest.dropWhile (· ≠ '\n'))
    else
      match _ : literal? (c :: rest) with
      | some (chars, after) => .text chars :: lexemes after
      | none => .char c :: lexemes rest
termination_by text => text.length
decreasing_by
  · exact Nat.lt_succ_of_le (length_dropWhile_le _ rest)
  · exact Nat.lt_succ_of_le (length_literal? ‹_›)
  · exact Nat.lt_succ_self _

/-! ## What is written is read -/

theorem hexDigit?_hexDigit {n : Nat} (small : n < 16) : hexDigit? (hexDigit n) = some n := by
  have each : ∀ n < 16, hexDigit? (hexDigit n) = some n := by decide
  exact each n small

@[simp] theorem length_hexDigits (width n : Nat) : (hexDigits width n).length = width := by
  induction width generalizing n with
  | zero => rfl
  | succ width ih => rw [hexDigits, List.length_append, ih, List.length_singleton]

theorem hexadecimal?_hexDigits {width n : Nat} (small : n < 16 ^ width) :
    hexadecimal? (hexDigits width n) = some n := by
  induction width generalizing n with
  | zero =>
      have none : n = 0 := by simpa using small
      rw [none]
      rfl
  | succ width ih =>
      have front : n / 16 < 16 ^ width := by
        rw [Nat.div_lt_iff_lt_mul (by decide), ← Nat.pow_succ]
        exact small
      have last := hexDigit?_hexDigit (Nat.mod_lt n (by decide : 0 < 16))
      have before := ih front
      rw [hexadecimal?] at before ⊢
      rw [hexDigits, List.foldlM_append, before]
      simp only [bind, Option.bind, List.foldlM_cons, List.foldlM_nil, last, Option.map_some, pure]
      rw [Nat.div_add_mod]

theorem ofDigits?_hexDigits {width : Nat} {c : Char} (small : c.toNat < 16 ^ width) :
    ofDigits? width (hexDigits width c.toNat) = some c := by
  have valid : c.toNat.isValidChar := c.valid
  rw [ofDigits?, if_pos (length_hexDigits width _), hexadecimal?_hexDigits small]
  simp [valid]

section

variable {mark : Char}

/-- A backslash in a literal starts an escape. -/
theorem body?_escape {d : Char} {more plain : List Char} {after : Rest (d :: more)}
    (apart : mark ≠ '\\') (read : escape? d more = some (plain, after)) :
    body? [mark] ('\\' :: d :: more) =
      (body? [mark] after.1).map fun (text, left) => (plain ++ text, left) := by
  have opened : [mark].isPrefixOf ('\\' :: d :: more) = false := by simp [List.isPrefixOf, apart]
  rw [body?, opened, if_neg (by decide), if_pos rfl, read]

/-- An escape of one character and the digits of a code point are read as the character. -/
theorem body?_code {letter c : Char} {width : Nat} (apart : mark ≠ '\\')
    (plain : letterEscapes.lookup letter = none) (wide : codeWidths.lookup letter = some width)
    (small : c.toNat < 16 ^ width) (more : List Char) :
    body? [mark] ('\\' :: letter :: (hexDigits width c.toNat ++ more)) =
      (body? [mark] more).map fun (text, left) => (c :: text, left) := by
  have digits : (hexDigits width c.toNat ++ more).take width = hexDigits width c.toNat :=
    List.take_left' (length_hexDigits width _)
  have others : (hexDigits width c.toNat ++ more).drop width = more :=
    List.drop_left' (length_hexDigits width _)
  have read : escape? letter (hexDigits width c.toNat ++ more) =
      some ([c], .drop width letter _) := by
    rw [escape?, plain, wide]
    dsimp only
    rw [digits, ofDigits?_hexDigits small]
    rfl
  rw [body?_escape apart read]
  change (body? [mark] ((hexDigits width c.toNat ++ more).drop width)).map _ = _
  rw [others]
  rfl

theorem body?_letter {letter c : Char} (apart : mark ≠ '\\')
    (plain : letterEscapes.lookup letter = some c) (more : List Char) :
    body? [mark] ('\\' :: letter :: more) =
      (body? [mark] more).map fun (text, left) => (c :: text, left) := by
  have read : escape? letter more = some ([c], .tail letter more) := by rw [escape?, plain]
  rw [body?_escape apart read]
  rfl

/-- A character that means nothing to a literal is read as itself. -/
theorem body?_char {c : Char} (notMark : c ≠ mark) (notBackslash : c ≠ '\\') (notEnd : c ≠ '\n')
    (more : List Char) :
    body? [mark] (c :: more) = (body? [mark] more).map fun (text, left) => (c :: text, left) := by
  have opened : [mark].isPrefixOf (c :: more) = false := by simp [List.isPrefixOf, notMark.symm]
  have stays : ¬ (decide (c = '\n') && decide ([mark].length = 1)) = true := by simp [notEnd]
  rw [body?.eq_def]
  dsimp only
  rw [opened, if_neg (by decide), if_neg notBackslash, if_neg stays]

theorem body?_mark (more : List Char) : body? [mark] (mark :: more) = some ([], more) := by
  rw [body?.eq_def]
  simp [List.isPrefixOf]

end

/-- A character as it is written between quotes. -/
def written (mark c : Char) : List Char := if c = mark then ['\\', c] else escape c

theorem quotedBody_eq (text : List Char) :
    quotedBody text = text.flatMap (written (quoteFor text)) :=
  rfl

section

variable {mark : Char} (isMark : isQuote mark = true)
include isMark

theorem ne_backslash_of_isQuote : mark ≠ '\\' := by
  rintro rfl
  cases isMark

theorem body?_written (c : Char) (more : List Char) :
    body? [mark] (written mark c ++ more) =
      (body? [mark] more).map fun (text, left) => (c :: text, left) := by
  have apart := ne_backslash_of_isQuote isMark
  rw [written]
  split
  · next same =>
      have plain : letterEscapes.lookup c = some c := by
        subst same
        simp only [isQuote, Bool.or_eq_true, decide_eq_true_eq] at isMark
        obtain rfl | rfl := isMark
        · rfl
        · rfl
      exact body?_letter apart plain more
  next other =>
    have letter {letter plain : Char} (means : letterEscapes.lookup letter = some plain)
        (same : c = plain) : body? [mark] (['\\', letter] ++ more) =
          (body? [mark] more).map fun (text, left) => (c :: text, left) :=
      same ▸ body?_letter apart means more
    rw [escape]
    split
    · next same => exact letter rfl same
    split
    · next same => exact letter rfl same
    split
    · next same => exact letter rfl same
    split
    · next same => exact letter rfl same
    next notBackslash notEnd _ _ =>
      split
      · exact body?_char other notBackslash notEnd more
      · rw [codeEscape]
        split
        · next small => exact body?_code apart rfl rfl small more
        split
        · next small => exact body?_code apart rfl rfl small more
        · have small : c.toNat < 16 ^ 8 := by
            have valid : c.toNat.isValidChar := c.valid
            rcases valid with valid | valid <;> omega
          exact body?_code apart rfl rfl small more

/-- What is written between quotes does not start with one. -/
theorem exists_written (c : Char) : ∃ d rest, written mark c = d :: rest ∧ d ≠ mark := by
  have apart := (ne_backslash_of_isQuote isMark).symm
  rw [written]
  split
  · exact ⟨_, _, rfl, apart⟩
  next other =>
    rw [escape]
    split
    · exact ⟨_, _, rfl, apart⟩
    split
    · exact ⟨_, _, rfl, apart⟩
    split
    · exact ⟨_, _, rfl, apart⟩
    split
    · exact ⟨_, _, rfl, apart⟩
    split
    · exact ⟨_, _, rfl, other⟩
    · rw [codeEscape]
      split
      · exact ⟨_, _, rfl, apart⟩
      split
      · exact ⟨_, _, rfl, apart⟩
      · exact ⟨_, _, rfl, apart⟩

end

theorem isQuote_quoteFor (text : List Char) : isQuote (quoteFor text) = true := by
  rw [quoteFor]
  split <;> rfl

/-- What is written between the quotes of a one-line literal is read up to them. -/
theorem body?_quotedBody (text rest : List Char) :
    body? [quoteFor text] (quotedBody text ++ quoteFor text :: rest) = some (text, rest) := by
  have isMark := isQuote_quoteFor text
  rw [quotedBody_eq]
  generalize quoteFor text = mark at isMark
  induction text with
  | nil => exact body?_mark rest
  | cons c text ih =>
      rw [List.flatMap_cons, List.append_assoc, body?_written isMark, ih]
      rfl

theorem toList_quoted (text : String) (rest : List Char) :
    (quoted text).toList ++ rest =
      quoteFor text.toList :: (quotedBody text.toList ++ quoteFor text.toList :: rest) := by
  rw [quoted, String.toList_ofList]
  simp

/-- A literal is read as the text that it is written for, up to what follows it.  Only before a
quote the literal of the empty text would be the start of another one. -/
theorem literal?_quoted (text : String) {rest : List Char}
    (apart : ∀ c ∈ rest.head?, isQuote c = false) :
    literal? ((quoted text).toList ++ rest) = some (text.toList, rest) := by
  have isMark := isQuote_quoteFor text.toList
  have single : [quoteFor text.toList, quoteFor text.toList].isPrefixOf
      (quotedBody text.toList ++ quoteFor text.toList :: rest) = false := by
    rw [quotedBody_eq]
    generalize quoteFor text.toList = mark at isMark
    cases text.toList with
    | nil =>
        cases rest with
        | nil => simp [List.isPrefixOf]
        | cons c rest =>
            have other : mark ≠ c := by
              rintro rfl
              rw [apart mark rfl] at isMark
              cases isMark
            simp [List.isPrefixOf, other]
    | cons c chars =>
        obtain ⟨d, more, same, other⟩ := exists_written isMark c
        rw [List.flatMap_cons, same]
        simp [List.isPrefixOf, other.symm]
  rw [toList_quoted, literal?, isMark, if_neg (by decide), single, if_neg (by decide)]
  exact body?_quotedBody text.toList rest

/-! ## Literals on one line -/

/-- The characters of ASCII from the space to the tilde are printable. -/
theorem isPrintable_of_ascii {c : Char} (ascii : 0x20 ≤ c.toNat ∧ c.toNat ≤ 0x7E) :
    isPrintable c = true := by
  have apart : ∀ range ∈ unprintable, range.2 < 0x20 ∨ 0x7E < range.1 := by decide +kernel
  rw [isPrintable, Bool.not_eq_true', Bool.eq_false_iff]
  intro hidden
  obtain ⟨range, member, below, above⟩ := Ranges.contains_iff.1 hidden
  have outside := apart range member
  omega

theorem isPrintable_hexDigit {n : Nat} (small : n < 16) : isPrintable (hexDigit n) = true := by
  have each : ∀ n < 16, 0x20 ≤ (hexDigit n).toNat ∧ (hexDigit n).toNat ≤ 0x7E := by decide
  exact isPrintable_of_ascii (each n small)

theorem isPrintable_of_mem_hexDigits {width n : Nat} {c : Char} (member : c ∈ hexDigits width n) :
    isPrintable c = true := by
  induction width generalizing n with
  | zero => cases member
  | succ width ih =>
      rw [hexDigits, List.mem_append, List.mem_singleton] at member
      cases member with
      | inl before => exact ih before
      | inr last => exact last ▸ isPrintable_hexDigit (Nat.mod_lt n (by decide))

/-- What escapes are written with beside digits. -/
def escapeMarks : List Char := ['\\', 'n', 't', 'r', 'x', 'u', 'U']

theorem isPrintable_of_mem_escapeMarks {c : Char} (member : c ∈ escapeMarks) :
    isPrintable c = true := by
  have each : escapeMarks.all (fun c => 0x20 ≤ c.toNat ∧ c.toNat ≤ 0x7E) = true := by decide
  exact isPrintable_of_ascii (of_decide_eq_true (List.all_eq_true.1 each c member))

theorem isPrintable_of_mem_codeEscape {c d : Char} (member : d ∈ codeEscape c) :
    isPrintable d = true := by
  have code {letter : Char} {width : Nat} (mark : letter ∈ escapeMarks)
      (member : d ∈ '\\' :: letter :: hexDigits width c.toNat) : isPrintable d = true := by
    obtain _ | ⟨_, _ | ⟨_, digit⟩⟩ := member
    · exact isPrintable_of_mem_escapeMarks (by decide)
    · exact isPrintable_of_mem_escapeMarks mark
    · exact isPrintable_of_mem_hexDigits digit
  rw [codeEscape] at member
  split at member
  · exact code (by decide) member
  split at member
  · exact code (by decide) member
  · exact code (by decide) member

theorem isPrintable_of_mem_escape {c d : Char} (member : d ∈ escape c) : isPrintable d = true := by
  have letter {letters : List Char} (marks : letters ⊆ escapeMarks) (member : d ∈ letters) :
      isPrintable d = true :=
    isPrintable_of_mem_escapeMarks (marks member)
  rw [escape] at member
  split at member
  · exact letter (by decide) member
  split at member
  · exact letter (by decide) member
  split at member
  · exact letter (by decide) member
  split at member
  · exact letter (by decide) member
  split at member
  · next printable => exact List.mem_singleton.1 member ▸ printable
  · exact isPrintable_of_mem_codeEscape member

theorem isPrintable_of_isQuote {c : Char} (isMark : isQuote c = true) : isPrintable c = true := by
  obtain rfl | rfl : c = '\'' ∨ c = '"' := by simpa [isQuote] using isMark
  · exact isPrintable_of_ascii (by decide)
  · exact isPrintable_of_ascii (by decide)

/-- A literal shows printable characters only. -/
theorem isPrintable_of_mem_quoted {text : String} {c : Char} (member : c ∈ (quoted text).toList) :
    isPrintable c = true := by
  have isMark := isQuote_quoteFor text.toList
  have backslash : isPrintable '\\' = true := isPrintable_of_ascii (by decide)
  have spelled := toList_quoted text []
  rw [List.append_nil] at spelled
  rw [spelled, List.mem_cons, List.mem_append, List.mem_singleton, quotedBody_eq,
    List.mem_flatMap] at member
  obtain rfl | ⟨d, -, inWritten⟩ | rfl := member
  · exact isPrintable_of_isQuote isMark
  · rw [written] at inWritten
    split at inWritten
    · next same =>
        simp only [List.mem_cons, List.not_mem_nil, or_false] at inWritten
        obtain rfl | rfl := inWritten
        · exact backslash
        · exact same ▸ isPrintable_of_isQuote isMark
    · exact isPrintable_of_mem_escape inWritten
  · exact isPrintable_of_isQuote isMark

/-- A printable character ends no line. -/
theorem isLineBreak_eq_false {c : Char} (printable : isPrintable c = true) :
    isLineBreak c = false := by
  have hidden : ∀ range ∈ [(0x0A, 0x0D), (0x1C, 0x1E), (0x85, 0x85), (0x2028, 0x2029)],
      ∃ wider ∈ unprintable, wider.1 ≤ range.1 ∧ range.2 ≤ wider.2 := by
    decide +kernel
  rw [Bool.eq_false_iff]
  intro ends
  obtain ⟨range, member, lower, upper⟩ := Ranges.contains_iff.1 ends
  obtain ⟨wider, inTable, below, above⟩ := hidden range member
  have shown : unprintable.contains c.toNat = true :=
    Ranges.contains_iff.2 ⟨wider, inTable, Nat.le_trans below lower, Nat.le_trans upper above⟩
  rw [isPrintable, shown] at printable
  cases printable

/-! ## Lexemes around a literal -/

theorem lexemes_literal {c : Char} {rest chars after : List Char} (isMark : isQuote c = true)
    (read : literal? (c :: rest) = some (chars, after)) :
    lexemes (c :: rest) = .text chars :: lexemes after := by
  have noComment : c ≠ '#' := by
    rintro rfl
    cases isMark
  rw [lexemes, if_neg noComment]
  split
  · next found =>
      rw [read] at found
      cases found
      rfl
  · next none =>
      rw [read] at none
      cases none

/-- A character that starts neither a literal nor a comment. -/
def isOrdinary (c : Char) : Bool := ! isQuote c && c ≠ '#'

theorem lexemes_char {c : Char} (ordinary : isOrdinary c = true) (rest : List Char) :
    lexemes (c :: rest) = .char c :: lexemes rest := by
  simp only [isOrdinary, Bool.and_eq_true, Bool.not_eq_true', decide_eq_true_eq] at ordinary
  obtain ⟨noQuote, noComment⟩ := ordinary
  have none : literal? (c :: rest) = Option.none := by rw [literal?, noQuote, if_pos (by decide)]
  rw [lexemes, if_neg noComment]
  split
  · next found =>
      rw [none] at found
      cases found
  · rfl

/-- No literal and no comment is open at the end of a source text, whatever follows. -/
def Closed (text : List Char) : Prop :=
  ∀ rest, lexemes (text ++ rest) = lexemes text ++ lexemes rest

namespace Closed

variable {text more : List Char}

theorem nil : Closed [] := by
  intro rest
  rw [lexemes.eq_def []]
  rfl

theorem append (first : Closed text) (second : Closed more) : Closed (text ++ more) := by
  intro rest
  rw [List.append_assoc, first, second, first, List.append_assoc]

theorem ofLexemes (list : List Lexeme)
    (read : ∀ rest, lexemes (text ++ rest) = list ++ lexemes rest) : Closed text := by
  have alone := read []
  rw [List.append_nil, lexemes.eq_def [], List.append_nil] at alone
  intro rest
  rw [read, alone]

theorem ordinary (chars : text.all isOrdinary = true) : Closed text := by
  refine ofLexemes (text.map .char) fun rest => ?_
  induction text with
  | nil => rfl
  | cons c text ih =>
      obtain ⟨first, more⟩ := Bool.and_eq_true_iff.1 chars
      rw [List.cons_append, lexemes_char first, ih more]
      rfl

end Closed

/-- The lexemes of a literal with a text after it that starts with no quote. -/
theorem lexemes_quoted (text : String) {rest : List Char}
    (apart : ∀ c ∈ rest.head?, isQuote c = false) :
    lexemes ((quoted text).toList ++ rest) = .text text.toList :: lexemes rest := by
  have read := literal?_quoted text apart
  rw [toList_quoted] at read ⊢
  exact lexemes_literal (isQuote_quoteFor _) read

theorem Closed.quoted (text : String) {c : Char} (ordinary : isOrdinary c = true) :
    Closed ((Literal.quoted text).toList ++ [c]) := by
  refine ofLexemes [.text text.toList, .char c] fun rest => ?_
  have apart : ∀ d ∈ (c :: rest).head?, isQuote d = false := by
    intro d first
    cases first
    simp only [isOrdinary, Bool.and_eq_true, Bool.not_eq_true'] at ordinary
    exact ordinary.1
  rw [List.append_assoc, List.singleton_append, lexemes_quoted text apart, lexemes_char ordinary]
  rfl

/-- Literals with commas between them, and a character after them. -/
theorem Closed.listed (names : List String) {c : Char} (ordinary : isOrdinary c = true) :
    Closed ((", ".intercalate (names.map Literal.quoted)).toList ++ [c]) := by
  induction names with
  | nil => exact .ordinary (Bool.and_eq_true_iff.2 ⟨ordinary, rfl⟩)
  | cons name rest ih =>
      cases rest with
      | nil => exact .quoted name ordinary
      | cons next rest =>
          have spelled : (", ".intercalate ((name :: next :: rest).map Literal.quoted)).toList ++
              [c] = ((Literal.quoted name).toList ++ [',']) ++ ([' '] ++
                ((", ".intercalate ((next :: rest).map Literal.quoted)).toList ++ [c])) := by
            rw [List.map_cons, String.intercalate_cons_of_ne_nil (by simp)]
            simp [String.toList_append]
          rw [spelled]
          exact .append (.quoted name (by decide)) (.append (.ordinary (by decide)) ih)

/-- A text between three quotes is read up to them if it has neither quotes nor backslashes. -/
theorem body?_tripled {mark : Char} {text : List Char} (rest : List Char)
    (plain : ∀ c ∈ text, c ≠ mark ∧ c ≠ '\\') :
    body? [mark, mark, mark] (text ++ (mark :: mark :: mark :: rest)) = some (text, rest) := by
  induction text with
  | nil =>
      rw [List.nil_append, body?.eq_def]
      simp [List.isPrefixOf]
  | cons c text ih =>
      obtain ⟨⟨notMark, notBackslash⟩, more⟩ := List.forall_mem_cons.1 plain
      have opened (chars : List Char) : [mark, mark, mark].isPrefixOf (c :: chars) = false := by
        simp [List.isPrefixOf, notMark.symm]
      rw [List.cons_append, body?.eq_def]
      dsimp only
      rw [opened, if_neg (by decide), if_neg notBackslash, if_neg (by simp), ih more]
      rfl

theorem Closed.tripled {mark : Char} {text : List Char} (isMark : isQuote mark = true)
    (plain : ∀ c ∈ text, c ≠ mark ∧ c ≠ '\\') :
    Closed (mark :: mark :: mark :: (text ++ [mark, mark, mark])) := by
  refine ofLexemes [.text text] fun rest => ?_
  have read : literal? (mark :: mark :: mark :: (text ++ mark :: mark :: mark :: rest)) =
      some (text, rest) := by
    rw [literal?, isMark, if_neg (by decide), if_pos (by simp [List.isPrefixOf])]
    exact body?_tripled rest plain
  simp only [List.cons_append, List.append_assoc, List.nil_append]
  rw [lexemes_literal isMark read]

theorem intercalate_append {separator : String} {first rest : List String} (nonempty : first ≠ []) :
    separator.intercalate (first ++ rest) =
      separator.intercalate (separator.intercalate first :: rest) := by
  induction first with
  | nil => exact absurd rfl nonempty
  | cons text more ih =>
      cases more with
      | nil => rw [String.intercalate_singleton, List.singleton_append]
      | cons next more =>
          have later := ih (List.cons_ne_nil _ _)
          rw [List.cons_append, String.intercalate_cons_of_ne_nil (by simp), later,
            String.intercalate_cons_of_ne_nil (List.cons_ne_nil next more)]
          cases rest with
          | nil => simp only [String.intercalate_singleton]
          | cons last rest =>
              simp only [String.intercalate_cons_of_ne_nil (List.cons_ne_nil last rest),
                String.append_assoc]

/-- Lines that are closed are so together. -/
theorem Closed.lines {texts : List String} (each : ∀ text ∈ texts, Closed text.toList) :
    Closed ("\n".intercalate texts).toList := by
  induction texts with
  | nil => exact .nil
  | cons first rest ih =>
      obtain ⟨here, later⟩ := List.forall_mem_cons.1 each
      cases rest with
      | nil => exact here
      | cons next rest =>
          rw [String.intercalate_cons_of_ne_nil (by simp), String.toList_append,
            String.toList_append]
          exact .append (.append here (.ordinary (by decide))) (ih later)

end Bindery.Code.Literal

namespace Bindery.Client

open Bindery.Code Bindery.Code.Literal Bindery.Naming Bindery.Text

/-! ## The runtime module -/

/-- The documentation of the runtime module. -/
def runtimeDocumentation : String :=
  "Runtime support for the generated API bindings.\n\n" ++
    "This file is generated and will be overwritten on regeneration.\n"

theorem closed_documentation : Closed ("\n".intercalate (runtimeHeader.take 4)).toList := by
  have spelled : "\n".intercalate (runtimeHeader.take 4) =
      "\"\"\"" ++ runtimeDocumentation ++ "\"\"\"" := by
    decide +kernel
  have plain : runtimeDocumentation.toList.all (fun c => c ≠ '"' ∧ c ≠ '\\') = true := by
    decide +kernel
  rw [spelled, String.toList_append, String.toList_append]
  exact .tripled (by decide) fun c member => of_decide_eq_true (List.all_eq_true.1 plain c member)

theorem writeAll_text (names : List String) :
    Expr.writeAll quoted (names.map .text) = names.map quoted := by
  induction names with
  | nil => rfl
  | cons name rest ih => rw [List.map_cons, Expr.writeAll, ih, Expr.write, List.map_cons]

theorem closed_exports : Closed (exports runtimeNames).render.toList := by
  have spelled : (exports runtimeNames).render =
      "__all__ = (" ++ (", ".intercalate (runtimeNames.map quoted) ++ ")") := by
    rw [exports, Statement.render, Expr.render, Expr.render, Expr.write, Expr.write, writeAll_text]
    change "__all__" ++ " = " ++ ("(" ++ ", ".intercalate (runtimeNames.map quoted) ++ ")") = _
    simp only [String.append_assoc]
    rfl
  rw [spelled, String.toList_append, String.toList_append]
  exact .append (.ordinary (by decide)) (.listed runtimeNames (by decide))

/-- What stands before the base URL leaves nothing open. -/
theorem closed_runtimeStart : Closed runtimeStart.toList := by
  have ordinary : ∀ line ∈ runtimeHeader.drop 4 ++ ["", "BASE_URL = "],
      line.toList.all isOrdinary = true := by
    decide +kernel
  have parts : runtimeStart = "\n".intercalate ("\n".intercalate (runtimeHeader.take 4) ::
      (runtimeHeader.drop 4 ++ [(exports runtimeNames).render, "", "BASE_URL = "])) := by
    have opening : runtimeHeader.take 4 ≠ [] := List.cons_ne_nil _ _
    rw [← intercalate_append opening, ← List.append_assoc, List.take_append_drop]
    rfl
  rw [parts]
  refine .lines fun line member => ?_
  simp only [List.mem_cons, List.mem_append, List.not_mem_nil, or_false] at member ordinary
  obtain rfl | inHeader | rfl | isLast := member
  · exact closed_documentation
  · exact .ordinary (ordinary line (.inl inHeader))
  · exact closed_exports
  · exact .ordinary (ordinary line (.inr isLast))

theorem exists_runtimeEnd : ∃ rest, runtimeEnd.toList = '\n' :: rest := by
  have body : runtimeBody ≠ [] := List.cons_ne_nil _ _
  refine ⟨("\n".intercalate runtimeBody).toList, ?_⟩
  rw [runtimeEnd, String.intercalate_cons_of_ne_nil body, String.toList_append,
    String.toList_append]
  rfl

/-- The runtime module is a text that all clients share around one literal on one line.  The literal
is read as the base URL, whatever that holds, and no other lexeme of the module depends on it; so
two modules are the same exactly if their URLs are. -/
theorem lexemes_runtimeText (url : String) :
    runtimeText url = runtimeStart ++ quoted url ++ runtimeEnd ∧
      "\n".intercalate (runtimeLines url) = runtimeText url ∧
      (∀ c ∈ (quoted url).toList, isPrintable c = true ∧ isLineBreak c = false) ∧
      literal? (quoted url).toList = some (url.toList, []) ∧
      lexemes (runtimeText url).toList =
        lexemes runtimeStart.toList ++ .text url.toList :: lexemes runtimeEnd.toList ∧
      ∀ other, runtimeText other = runtimeText url ↔ other = url := by
  have alone : literal? ((quoted url).toList ++ []) = some (url.toList, []) :=
    literal?_quoted url (by simp)
  rw [List.append_nil] at alone
  have apart : ∀ c ∈ runtimeEnd.toList.head?, isQuote c = false := by
    obtain ⟨rest, starts⟩ := exists_runtimeEnd
    rw [starts]
    intro c first
    cases first
    rfl
  have read (url : String) : lexemes (runtimeText url).toList =
      lexemes runtimeStart.toList ++ .text url.toList :: lexemes runtimeEnd.toList := by
    rw [runtimeText, String.toList_append, String.toList_append, List.append_assoc,
      closed_runtimeStart, lexemes_quoted url apart]
  refine ⟨rfl, intercalate_runtimeLines url, fun c member => ?_, alone, read url,
    fun other => ⟨fun same => ?_, congrArg runtimeText⟩⟩
  · have printable := isPrintable_of_mem_quoted member
    exact ⟨printable, isLineBreak_eq_false printable⟩
  · have lexemes_eq := read other
    rw [same, read url] at lexemes_eq
    have literals := (List.cons.inj (List.append_cancel_left lexemes_eq)).1
    exact (String.toList_inj.1 (Lexeme.text.inj literals)).symm

end Bindery.Client
