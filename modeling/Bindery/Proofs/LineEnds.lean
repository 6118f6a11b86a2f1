import Mathlib.Data.List.Find
import Bindery.Files.Tree
import Bindery.Format.Yaml
import Bindery.Proofs.JsonGrammar
import Bindery.Proofs.Steps

/-!
# Texts with other line ends

The line ends of a text that comes from a file are unified, and those of a text from the web are
kept.  Whether some line ends stand between two characters matters to JSON and YAML, but not which
ones or, to JSON, how many.  So both formats read the same from a text with unified line ends.
-/

namespace Bindery.Text

/-! ## Other line ends -/

/-- A character that ends a line in a file. -/
def isLineEnd (c : Char) : Bool := c = '\n' || c = '\r'

theorem isLineEnd_eq_false {c : Char} (noFeed : c ≠ '\n') (noReturn : c ≠ '\r') :
    isLineEnd c = false := by
  simp [isLineEnd, noFeed, noReturn]

/-- Two texts are the same but for their line ends. They have line ends at the same places. -/
inductive Reflowed : List Char → List Char → Prop where
  | nil : Reflowed [] []
  | char (c : Char) {text other : List Char} :
      Reflowed text other → Reflowed (c :: text) (c :: other)
  | ends {ends others text other : List Char} :
      ends ≠ [] → others ≠ [] → (∀ c ∈ ends ++ others, isLineEnd c = true) →
      Reflowed text other → Reflowed (ends ++ text) (others ++ other)

namespace Reflowed

variable {text other : List Char}

theorem refl (text : List Char) : Reflowed text text := by
  induction text with
  | nil => exact .nil
  | cons c text ih => exact .char c ih

theorem symm (reflowed : Reflowed text other) : Reflowed other text := by
  induction reflowed with
  | nil => exact .nil
  | char c _ ih => exact .char c ih
  | ends some others all _ ih =>
      refine .ends others some (fun c member => all c ?_) ih
      exact List.mem_append.2 (List.mem_append.1 member).symm

/-- The line ends of a text are unified. -/
theorem plainLineEnds (text : List Char) : Reflowed text (Files.plainLineEnds text) := by
  fun_induction Files.plainLineEnds text with
  | case1 => exact .nil
  | case2 rest ih =>
      have ends : ∀ c ∈ ['\r', '\n'] ++ ['\n'], isLineEnd c = true := by simp [isLineEnd]
      exact Reflowed.ends (List.cons_ne_nil _ _) (List.cons_ne_nil _ _) ends ih
  | case3 rest _ ih =>
      have ends : ∀ c ∈ ['\r'] ++ ['\n'], isLineEnd c = true := by simp [isLineEnd]
      exact Reflowed.ends (List.cons_ne_nil _ _) (List.cons_ne_nil _ _) ends ih
  | case4 c rest _ _ ih => exact .char c ih

/-- A character that does not end a line stands at the same place in the other text. -/
theorem exists_cons {c : Char} (reflowed : Reflowed (c :: text) other)
    (stays : isLineEnd c = false) : ∃ rest, other = c :: rest ∧ Reflowed text rest := by
  generalize whole : c :: text = first at reflowed
  cases reflowed with
  | nil => cases whole
  | char d more =>
      cases whole
      exact ⟨_, rfl, more⟩
  | @ends before others rest _ some _ all more =>
      cases before with
      | nil => exact absurd rfl some
      | cons d before =>
          cases whole
          rw [all c (by simp)] at stays
          cases stays

theorem exists_append {before : List Char} (reflowed : Reflowed (before ++ text) other)
    (stay : ∀ c ∈ before, isLineEnd c = false) :
    ∃ rest, other = before ++ rest ∧ Reflowed text rest := by
  induction before generalizing other with
  | nil => exact ⟨other, rfl, reflowed⟩
  | cons c before ih =>
      obtain ⟨first, more⟩ := List.forall_mem_cons.1 stay
      obtain ⟨rest, rfl, later⟩ := reflowed.exists_cons first
      obtain ⟨last, rfl, left⟩ := ih later more
      exact ⟨last, rfl, left⟩

theorem eq_nil (reflowed : Reflowed [] other) : other = [] := by
  generalize whole : [] = first at reflowed
  cases reflowed with
  | nil => rfl
  | char => cases whole
  | ends some => exact absurd (List.append_eq_nil_iff.1 whole.symm).1 some

theorem eq_nil_iff (reflowed : Reflowed text other) : text = [] ↔ other = [] := by
  constructor
  · intro empty
    subst empty
    exact reflowed.eq_nil
  · intro empty
    subst empty
    exact reflowed.symm.eq_nil

theorem head?_eq_iff {c : Char} (reflowed : Reflowed text other) (stays : isLineEnd c = false) :
    text.head? = some c ↔ other.head? = some c := by
  have kept {text other : List Char} (reflowed : Reflowed text other)
      (starts : text.head? = some c) : other.head? = some c := by
    obtain ⟨rest, rfl⟩ := List.head?_eq_some_iff.1 starts
    obtain ⟨others, rfl, _⟩ := reflowed.exists_cons stays
    rfl
  exact ⟨kept reflowed, kept reflowed.symm⟩

theorem isPrefixOf_eq {word : List Char} (reflowed : Reflowed text other)
    (stay : ∀ c ∈ word, isLineEnd c = false) : word.isPrefixOf text = word.isPrefixOf other := by
  have found {text other : List Char} (reflowed : Reflowed text other)
      (starts : word.isPrefixOf text = true) : word.isPrefixOf other = true := by
    obtain ⟨rest, rfl⟩ := List.isPrefixOf_iff_prefix.1 starts
    obtain ⟨others, rfl, _⟩ := reflowed.exists_append stay
    exact List.isPrefixOf_iff_prefix.2 (List.prefix_append word others)
  exact Bool.eq_iff_iff.2 ⟨found reflowed, found reflowed.symm⟩

/-- What characters of a kind that ends no line take from the start of a text is the same. -/
theorem takeWhile_eq {p : Char → Bool} (reflowed : Reflowed text other)
    (stay : ∀ c, p c = true → isLineEnd c = false) :
    text.takeWhile p = other.takeWhile p ∧
      Reflowed (text.drop (text.takeWhile p).length) (other.drop (text.takeWhile p).length) := by
  induction reflowed with
  | nil => exact ⟨rfl, .nil⟩
  | @char c text other reflowed ih =>
      by_cases taken : p c = true
      · rw [List.takeWhile_cons_of_pos taken, List.takeWhile_cons_of_pos taken, ← ih.1]
        exact ⟨rfl, ih.2⟩
      · rw [List.takeWhile_cons_of_neg taken, List.takeWhile_cons_of_neg taken]
        exact ⟨rfl, .char c reflowed⟩
  | @ends before others text other some more all reflowed ih =>
      have stops {before : List Char} (rest : List Char) (nonempty : before ≠ [])
          (ends : ∀ c ∈ before, isLineEnd c = true) : (before ++ rest).takeWhile p = [] := by
        cases before with
        | nil => exact absurd rfl nonempty
        | cons c before =>
            refine List.takeWhile_cons_of_neg fun taken => ?_
            have stays := stay c taken
            rw [ends c List.mem_cons_self] at stays
            cases stays
      rw [List.forall_mem_append] at all
      rw [stops text some all.1, stops other more all.2]
      exact ⟨rfl, .ends some more (List.forall_mem_append.2 all) reflowed⟩

end Reflowed

end Bindery.Text

namespace Bindery.Format.Json

open Bindery.Data Bindery.Steps Bindery.Text

variable {text other : List Char}

/-! ## JSON with other line ends -/

theorem reflowed_skip (reflowed : Reflowed text other) : Reflowed (skip text) (skip other) := by
  have skipped (ends rest : List Char) (all : ∀ c ∈ ends, isLineEnd c = true) :
      skip (ends ++ rest) = skip rest := by
    refine List.dropWhile_append_of_pos fun c member => ?_
    have lineEnd := all c member
    simp only [isLineEnd, Bool.or_eq_true, decide_eq_true_eq] at lineEnd
    cases lineEnd with
    | inl feed => rw [feed]; rfl
    | inr carriage => rw [carriage]; rfl
  induction reflowed with
  | nil => exact .nil
  | @char c text other reflowed ih =>
      by_cases space : isSpace c = true
      · rw [skip, List.dropWhile_cons_of_pos space, skip, List.dropWhile_cons_of_pos space]
        exact ih
      · rw [skip, List.dropWhile_cons_of_neg space, skip, List.dropWhile_cons_of_neg space]
        exact .char c reflowed
  | @ends before others text other _ _ all _ ih =>
      rw [List.forall_mem_append] at all
      rw [skipped before text all.1, skipped others other all.2]
      exact ih

/-! ## Strings -/

theorem not_isLineEnd_of_hexDigit {c : Char} {number : Nat} (digit : hexDigit? c = some number) :
    isLineEnd c = false := by
  refine isLineEnd_eq_false ?_ ?_
  · intro feed
    subst feed
    cases digit
  · intro carriage
    subst carriage
    cases digit

/-- No line ends among digits. -/
theorem not_isLineEnd_of_hexadecimal {digits : List Char} {number : Nat}
    (read : hexadecimal? digits = some number) : ∀ c ∈ digits, isLineEnd c = false := by
  rw [hexadecimal?] at read
  generalize 0 = start at read
  induction digits generalizing start with
  | nil => exact fun _ member => absurd member List.not_mem_nil
  | cons c digits ih =>
      rw [List.foldlM_cons] at read
      obtain ⟨next, first, later⟩ := Option.bind_eq_some_iff.1 read
      obtain ⟨value, digit, -⟩ := Option.map_eq_some_iff.1 first
      exact List.forall_mem_cons.2 ⟨not_isLineEnd_of_hexDigit digit, ih _ later⟩

/-- A string up to its closing quote has characters, and a text is left after it. -/
inductive Body : List Char → List Char → List Char → Prop where
  | quote (rest : List Char) : Body ('"' :: rest) [] rest
  | code {rest chars left : List Char} {c : Char} {taken : Nat} :
      codeEscape rest = .ok (c, taken) → Body (rest.drop taken) chars left →
      Body ('\\' :: 'u' :: rest) (c :: chars) left
  | letter {rest chars left : List Char} {letter c : Char} :
      letterEscape? letter = some c → Body rest chars left →
      Body ('\\' :: letter :: rest) (c :: chars) left
  | char {rest chars left : List Char} {c : Char} :
      c ≠ '"' → c ≠ '\\' → 0x20 ≤ c.toNat → Body rest chars left →
      Body (c :: rest) (c :: chars) left

theorem body_of_stringBody (start : Nat) (text : List Char) :
    ∀ chars left, stringBody start text = .ok (chars, left) → Body text chars left.1 := by
  fun_induction stringBody start text with
  | case2 rest =>
      intro chars left done
      cases done
      exact .quote rest
  | case6 rest c taken escape more left later ih =>
      intro chars last done
      cases done
      exact .code escape (ih _ _ later)
  | case9 letter rest _ c known more left later ih =>
      intro chars last done
      cases done
      exact .letter known (ih _ _ later)
  | case12 c rest noQuote noEnd noCode noLetter large more left later ih =>
      intro chars last done
      cases done
      refine .char noQuote ?_ (Nat.le_of_not_lt large) (ih _ _ later)
      intro bar
      cases rest with
      | nil => exact noEnd bar rfl
      | cons letter rest => exact noLetter letter rest bar rfl
  | _ =>
      intro chars left done
      cases done

theorem stringBody_of_body {chars left : List Char} (body : Body text chars left) (start : Nat) :
    ∃ rest : Rest text, stringBody start text = .ok (chars, rest) ∧ rest.1 = left := by
  induction body with
  | quote rest =>
      rw [stringBody]
      exact ⟨_, rfl, rfl⟩
  | code escape _ ih =>
      obtain ⟨rest, done, same⟩ := ih
      rw [stringBody, escape]
      dsimp only
      rw [done]
      exact ⟨_, rfl, same⟩
  | @letter rest _ _ letter c known _ ih =>
      obtain ⟨rest, done, same⟩ := ih
      have other : letter = 'u' → False := by
        intro isCode
        subst isCode
        cases known
      rw [stringBody, known]
      · dsimp only
        rw [done]
        exact ⟨_, rfl, same⟩
      · exact other
  | @char rest _ _ c noQuote noBar large _ ih =>
      obtain ⟨rest, done, same⟩ := ih
      rw [stringBody, if_neg (Nat.not_lt.2 large), done]
      · exact ⟨_, rfl, same⟩
      · exact noQuote
      · exact fun bar _ => noBar bar
      · exact fun _ bar _ => noBar bar
      · exact fun _ _ bar _ => noBar bar

/-- An escape is read from four digits, which more follows. -/
theorem exists_digits_of_codeEscape {escape : Char × Nat} (done : codeEscape text = .ok escape) :
    ∃ digits more unit, text = digits ++ more ∧ digits.length = 4 ∧ more ≠ [] ∧
      hexadecimal? digits = some unit := by
  rw [codeEscape] at done
  split at done
  · cases done
  · next long =>
      split at done
      · cases done
      · next unit read =>
          refine ⟨text.take 4, text.drop 4, unit, (List.take_append_drop 4 text).symm, ?_, ?_, read⟩
          · rw [List.length_take]
            omega
          · rw [Ne, List.drop_eq_nil_iff]
            omega

section

variable {digits more : List Char} {unit : Nat} (four : digits.length = 4) (nonempty : more ≠ [])
  (read : hexadecimal? digits = some unit)
include four nonempty read

/-- The first half of a pair is read together with an escape of four digits behind it. -/
def BeforePair (unit : Nat) (more : List Char) : Prop :=
  (0xD800 ≤ unit ∧ unit < 0xDC00) ∧ ∃ rest, more = '\\' :: 'u' :: rest ∧ 4 < rest.length

omit four nonempty read in
theorem beforePair_iff :
    (0xD800 ≤ unit && unit < 0xDC00 && more.length > 6 && more.take 2 == ['\\', 'u']) = true ↔
      BeforePair unit more := by
  simp only [BeforePair, Bool.and_eq_true, decide_eq_true_eq, beq_iff_eq, and_assoc]
  refine and_congr_right fun _ => and_congr_right fun _ => ?_
  constructor
  · intro there
    obtain ⟨long, starts⟩ := there
    match more, starts with
    | _ :: _ :: rest, rfl =>
        simp only [List.length_cons] at long
        exact ⟨rest, rfl, by omega⟩
  · intro there
    obtain ⟨rest, rfl, long⟩ := there
    exact ⟨Nat.add_lt_add_right long 2, rfl⟩

theorem codeEscape_of_not_beforePair (alone : ¬ BeforePair unit more) :
    codeEscape (digits ++ more) = (unitChar unit).map (·, 4) := by
  have long : ¬ (digits ++ more).length ≤ 4 := by
    have some := List.length_pos_iff.2 nonempty
    rw [List.length_append]
    omega
  rw [codeEscape, if_neg long, List.take_left' four, read]
  dsimp only
  rw [List.drop_left' four, if_neg (mt beforePair_iff.1 alone)]

theorem codeEscape_of_beforePair (pair : BeforePair unit more) :
    codeEscape (digits ++ more) =
      match hexadecimal? ((more.drop 2).take 4) with
      | none => .error (.flaw .badCodeEscape (more.length - 1))
      | some low =>
        if 0xDC00 ≤ low && low < 0xE000 then
          .ok (Char.ofNat (0x10000 + (unit - 0xD800) * 0x400 + (low - 0xDC00)), 10)
        else (unitChar unit).map (·, 4) := by
  have long : ¬ (digits ++ more).length ≤ 4 := by
    have some := List.length_pos_iff.2 nonempty
    rw [List.length_append]
    omega
  rw [codeEscape, if_neg long, List.take_left' four, read]
  dsimp only
  rw [List.drop_left' four]
  exact if_pos (beforePair_iff.2 pair)

end

theorem exists_code_of_reflowed (reflowed : Reflowed ('\\' :: 'u' :: text) other) :
    ∃ rest, other = '\\' :: 'u' :: rest ∧ Reflowed text rest := by
  obtain ⟨rest, rfl, more⟩ := reflowed.exists_cons (by decide)
  obtain ⟨last, rfl, later⟩ := more.exists_cons (by decide)
  exact ⟨last, rfl, later⟩

theorem drop_ten {digits : List Char} (four : digits.length = 4) (rest : List Char) :
    (digits ++ '\\' :: 'u' :: rest).drop 10 = rest.drop 4 := by
  have ten : 10 = digits.length + 6 := by rw [four]
  rw [ten, List.drop_length_add_append]
  rfl

/-- An escape before a half pair is read from the digits of both, whatever the line ends after
them. -/
theorem codeEscape_of_reflowed_pair {digits rest others : List Char} {unit : Nat} {c : Char}
    {taken : Nat} (four : digits.length = 4) (read : hexadecimal? digits = some unit)
    (high : 0xD800 ≤ unit ∧ unit < 0xDC00) (long : 4 < rest.length)
    (done : codeEscape (digits ++ '\\' :: 'u' :: rest) = .ok (c, taken))
    (reflowed : Reflowed rest others) :
    codeEscape (digits ++ '\\' :: 'u' :: others) = .ok (c, taken) ∧
      Reflowed ((digits ++ '\\' :: 'u' :: rest).drop taken)
        ((digits ++ '\\' :: 'u' :: others).drop taken) := by
  rw [codeEscape_of_beforePair four (by simp) read ⟨high, rest, rfl, long⟩] at done
  rw [List.drop_succ_cons, List.drop_succ_cons, List.drop_zero] at done
  cases readLow : hexadecimal? (rest.take 4) with
  | none =>
      rw [readLow] at done
      cases done
  | some low =>
      have fourLow : (rest.take 4).length = 4 := by
        rw [List.length_take]
        omega
      have whole := reflowed
      rw [← List.take_append_drop 4 rest] at whole
      obtain ⟨last, rfl, ended⟩ := whole.exists_append (not_isLineEnd_of_hexadecimal readLow)
      have lastSome : last ≠ [] := by
        refine mt ended.eq_nil_iff.2 (mt List.drop_eq_nil_iff.1 ?_)
        omega
      have longOther : 4 < (rest.take 4 ++ last).length := by
        have longer := List.length_pos_iff.2 lastSome
        rw [List.length_append]
        omega
      rw [codeEscape_of_beforePair four (by simp) read ⟨high, _, rfl, longOther⟩,
        List.drop_succ_cons, List.drop_succ_cons, List.drop_zero, List.take_left' fourLow, readLow]
      rw [readLow] at done
      refine ⟨done, ?_⟩
      dsimp only at done
      split at done
      · obtain ⟨-, rfl⟩ := Prod.mk.inj (Except.ok.inj done)
        rw [drop_ten four, drop_ten four, List.drop_left' fourLow]
        exact ended
      · obtain ⟨_, -, same⟩ := map_eq_ok_iff.1 done
        obtain ⟨-, rfl⟩ := Prod.mk.inj same
        rw [List.drop_left' four, List.drop_left' four]
        exact .char _ (.char _ reflowed)

/-- An escape does not depend on line ends, if a string goes on after it. -/
theorem codeEscape_of_reflowed {c : Char} {taken : Nat} {chars left : List Char}
    (done : codeEscape text = .ok (c, taken)) (body : Body (text.drop taken) chars left)
    (reflowed : Reflowed text other) :
    codeEscape other = .ok (c, taken) ∧ Reflowed (text.drop taken) (other.drop taken) := by
  obtain ⟨digits, more, unit, rfl, four, nonempty, read⟩ := exists_digits_of_codeEscape done
  obtain ⟨others, rfl, later⟩ := reflowed.exists_append (not_isLineEnd_of_hexadecimal read)
  by_cases pair : BeforePair unit more
  · obtain ⟨high, rest, rfl, long⟩ := pair
    obtain ⟨after, rfl, behind⟩ := exists_code_of_reflowed later
    exact codeEscape_of_reflowed_pair four read high long done behind
  · rw [codeEscape_of_not_beforePair four nonempty read pair] at done
    obtain ⟨_, _, same⟩ := map_eq_ok_iff.1 done
    cases same
    have alone : ¬ BeforePair unit others := by
      intro otherPair
      obtain ⟨high, rest, rfl, long⟩ := otherPair
      obtain ⟨before, rfl, _⟩ := exists_code_of_reflowed later.symm
      -- The string goes on with an escape, which has its digits and more behind them.
      rw [List.drop_left' four] at body
      refine pair ⟨high, before, rfl, ?_⟩
      cases body with
      | code escape _ =>
          obtain ⟨otherDigits, tail, _, rfl, fourDigits, tailSome, _⟩ :=
            exists_digits_of_codeEscape escape
          have longer := List.length_pos_iff.2 tailSome
          rw [List.length_append]
          omega
      | letter known _ => cases known
      | char _ noBar _ _ => exact absurd rfl noBar
    rw [codeEscape_of_not_beforePair four (mt later.eq_nil_iff.2 nonempty) read alone,
      List.drop_left' four, List.drop_left' four]
    exact ⟨done, later⟩

theorem exists_body_of_reflowed {chars left : List Char} (body : Body text chars left)
    (reflowed : Reflowed text other) :
    ∃ last, Body other chars last ∧ Reflowed left last := by
  induction body generalizing other with
  | quote rest =>
      obtain ⟨others, rfl, later⟩ := reflowed.exists_cons (by decide)
      exact ⟨others, .quote others, later⟩
  | code escape body ih =>
      obtain ⟨others, rfl, later⟩ := exists_code_of_reflowed reflowed
      obtain ⟨same, behind⟩ := codeEscape_of_reflowed escape body later
      obtain ⟨last, bodyThere, left⟩ := ih behind
      exact ⟨last, .code same bodyThere, left⟩
  | @letter rest _ _ letter c known body ih =>
      obtain ⟨after, rfl, more⟩ := reflowed.exists_cons (by decide)
      have stays : isLineEnd letter = false := by
        refine isLineEnd_eq_false ?_ ?_
        · intro feed
          subst feed
          cases known
        · intro carriage
          subst carriage
          cases known
      obtain ⟨others, rfl, later⟩ := more.exists_cons stays
      obtain ⟨last, bodyThere, left⟩ := ih later
      exact ⟨last, .letter known bodyThere, left⟩
  | @char rest _ _ c noQuote noBar large body ih =>
      have stays : isLineEnd c = false := by
        refine isLineEnd_eq_false ?_ ?_
        · intro feed
          subst feed
          exact absurd large (by decide)
        · intro carriage
          subst carriage
          exact absurd large (by decide)
      obtain ⟨others, rfl, later⟩ := reflowed.exists_cons stays
      obtain ⟨last, bodyThere, left⟩ := ih later
      exact ⟨last, .char noQuote noBar large bodyThere, left⟩

/-- A string has no line ends, so those after it do not matter to it. -/
theorem string_of_reflowed {chars : String} {left : Rest text}
    (done : string text = .ok (chars, left)) (reflowed : Reflowed text other) :
    ∃ last : Rest other, string other = .ok (chars, last) ∧ Reflowed left.1 last.1 := by
  rw [string] at done ⊢
  cases read : stringBody (text.length + 1) text with
  | error stop =>
      rw [read] at done
      cases done
  | ok pair =>
      obtain ⟨found, rest⟩ := pair
      rw [read] at done
      cases done
      obtain ⟨last, body, later⟩ :=
        exists_body_of_reflowed (body_of_stringBody _ _ _ _ read) reflowed
      obtain ⟨others, readOther, rfl⟩ := stringBody_of_body body (other.length + 1)
      rw [readOther]
      exact ⟨others, rfl, later⟩

/-! ## Numbers -/

theorem not_isLineEnd_of_isDigit {c : Char} (digit : c.isDigit = true) : isLineEnd c = false := by
  refine isLineEnd_eq_false ?_ ?_
  · intro feed
    subst feed
    cases digit
  · intro carriage
    subst carriage
    cases digit

theorem wholeDigits_eq (text : List Char) :
    wholeDigits text = if text.head? = some '0' then ['0'] else text.takeWhile Char.isDigit := by
  rw [wholeDigits.eq_def]
  split
  · rfl
  · next noZero =>
      refine (if_neg fun zero => ?_).symm
      obtain ⟨rest, rfl⟩ := List.head?_eq_some_iff.1 zero
      exact noZero rest rfl

theorem wholeDigits_of_reflowed (reflowed : Reflowed text other) :
    wholeDigits other = wholeDigits text ∧
      Reflowed (text.drop (wholeDigits text).length) (other.drop (wholeDigits text).length) := by
  obtain ⟨same, later⟩ := reflowed.takeWhile_eq fun _ => not_isLineEnd_of_isDigit
  rw [wholeDigits_eq, wholeDigits_eq]
  by_cases zero : text.head? = some '0'
  · rw [if_pos zero, if_pos ((reflowed.head?_eq_iff (by decide)).1 zero)]
    obtain ⟨rest, rfl⟩ := List.head?_eq_some_iff.1 zero
    obtain ⟨others, rfl, behind⟩ := reflowed.exists_cons (by decide)
    exact ⟨rfl, behind⟩
  · rw [if_neg zero, if_neg (mt (reflowed.head?_eq_iff (by decide)).2 zero)]
    exact ⟨same.symm, later⟩

theorem fractionDigits_eq (text : List Char) :
    fractionDigits text =
      if text.head? = some '.' then (text.drop 1).takeWhile Char.isDigit else [] := by
  rw [fractionDigits.eq_def]
  split
  · rfl
  · next noPoint =>
      refine (if_neg fun point => ?_).symm
      obtain ⟨rest, rfl⟩ := List.head?_eq_some_iff.1 point
      exact noPoint rest rfl

theorem fractionDigits_of_reflowed (reflowed : Reflowed text other) :
    fractionDigits other = fractionDigits text ∧
      ((fractionDigits text).isEmpty = false →
        Reflowed (text.drop ((fractionDigits text).length + 1))
          (other.drop ((fractionDigits text).length + 1))) := by
  rw [fractionDigits_eq, fractionDigits_eq]
  by_cases point : text.head? = some '.'
  · rw [if_pos point, if_pos ((reflowed.head?_eq_iff (by decide)).1 point)]
    obtain ⟨rest, rfl⟩ := List.head?_eq_some_iff.1 point
    obtain ⟨others, rfl, behind⟩ := reflowed.exists_cons (by decide)
    obtain ⟨same, later⟩ := behind.takeWhile_eq fun _ => not_isLineEnd_of_isDigit
    exact ⟨same.symm, fun _ => later⟩
  · rw [if_neg point, if_neg (mt (reflowed.head?_eq_iff (by decide)).2 point)]
    refine ⟨rfl, fun some => ?_⟩
    cases some

/-- An exponent of some digits, after its mark and its sign. -/
def exponentOf (sign : Int) (before : Nat) (digits : List Char) : Option (Int × Nat) :=
  let shown := digits.takeWhile Char.isDigit
  if shown.isEmpty then none else some (sign * decimal shown, before + shown.length)

theorem exponentPart_cons (c : Char) (rest : List Char) :
    exponentPart (c :: rest) =
      if c = 'e' || c = 'E' then
        if rest.head? = some '-' then exponentOf (-1) 2 (rest.drop 1)
        else if rest.head? = some '+' then exponentOf 1 2 (rest.drop 1)
        else exponentOf 1 1 rest
      else none := by
  rw [exponentPart.eq_def]
  dsimp only
  refine if_congr Iff.rfl ?_ rfl
  split
  · next more => simp [exponentOf]
  · next more => simp [exponentOf]
  · next noMinus noPlus =>
      have minus : rest.head? ≠ some '-' := by
        intro starts
        obtain ⟨more, rfl⟩ := List.head?_eq_some_iff.1 starts
        exact noMinus more rfl
      have plus : rest.head? ≠ some '+' := by
        intro starts
        obtain ⟨more, rfl⟩ := List.head?_eq_some_iff.1 starts
        exact noPlus more rfl
      rw [if_neg minus, if_neg plus]
      simp [exponentOf]

theorem exponentOf_of_reflowed (sign : Int) (before : Nat) (first : List Char)
    (length : first.length = before) (reflowed : Reflowed text other) :
    exponentOf sign before other = exponentOf sign before text ∧
      ∀ exponent taken, exponentOf sign before text = some (exponent, taken) →
        Reflowed ((first ++ text).drop taken) ((first ++ other).drop taken) := by
  obtain ⟨same, later⟩ := reflowed.takeWhile_eq fun _ => not_isLineEnd_of_isDigit
  rw [exponentOf, exponentOf, ← same]
  refine ⟨rfl, fun exponent taken found => ?_⟩
  split at found
  · cases found
  · cases found
    rw [← length, List.drop_length_add_append, List.drop_length_add_append]
    exact later

theorem exponentPart_of_reflowed (reflowed : Reflowed text other) :
    exponentPart other = exponentPart text ∧
      ∀ exponent taken, exponentPart text = some (exponent, taken) →
        Reflowed (text.drop taken) (other.drop taken) := by
  have notMark {c : Char} (lineEnd : isLineEnd c = true) : ¬ (c = 'e' || c = 'E') = true := by
    intro mark
    simp only [Bool.or_eq_true, decide_eq_true_eq] at mark
    cases mark with
    | inl small => subst small; cases lineEnd
    | inr large => subst large; cases lineEnd
  cases reflowed with
  | nil => exact ⟨rfl, nofun⟩
  | @char c text other reflowed =>
      rw [exponentPart_cons, exponentPart_cons]
      by_cases mark : (c = 'e' || c = 'E') = true
      · rw [if_pos mark, if_pos mark]
        by_cases minus : text.head? = some '-'
        · rw [if_pos minus, if_pos ((reflowed.head?_eq_iff (by decide)).1 minus)]
          obtain ⟨rest, rfl⟩ := List.head?_eq_some_iff.1 minus
          obtain ⟨others, rfl, behind⟩ := reflowed.exists_cons (by decide)
          exact exponentOf_of_reflowed (-1) 2 [c, '-'] rfl behind
        rw [if_neg minus, if_neg (mt (reflowed.head?_eq_iff (by decide)).2 minus)]
        by_cases plus : text.head? = some '+'
        · rw [if_pos plus, if_pos ((reflowed.head?_eq_iff (by decide)).1 plus)]
          obtain ⟨rest, rfl⟩ := List.head?_eq_some_iff.1 plus
          obtain ⟨others, rfl, behind⟩ := reflowed.exists_cons (by decide)
          exact exponentOf_of_reflowed 1 2 [c, '+'] rfl behind
        rw [if_neg plus, if_neg (mt (reflowed.head?_eq_iff (by decide)).2 plus)]
        exact exponentOf_of_reflowed 1 1 [c] rfl reflowed
      · rw [if_neg mark, if_neg mark]
        exact ⟨rfl, nofun⟩
  | @ends before others text other some more all reflowed =>
      rw [List.forall_mem_append] at all
      have none {before : List Char} (rest : List Char) (nonempty : before ≠ [])
          (ends : ∀ c ∈ before, isLineEnd c = true) : exponentPart (before ++ rest) = none := by
        cases before with
        | nil => exact absurd rfl nonempty
        | cons c before =>
            rw [List.cons_append, exponentPart_cons, if_neg (notMark (ends c List.mem_cons_self))]
      rw [none text some all.1, none other more all.2]
      exact ⟨rfl, nofun⟩

/-- The number at the start of a text without a sign, if there is one. -/
def Numeral.ofUnsigned (negative : Bool) (unsigned : List Char) : Numeral :=
  let whole := wholeDigits unsigned
  let afterWhole := unsigned.drop whole.length
  let fraction := fractionDigits afterWhole
  let afterFraction :=
    if fraction.isEmpty then afterWhole else afterWhole.drop (fraction.length + 1)
  let tail : Option Int × List Char :=
    match exponentPart afterFraction with
    | some (exponent, length) => (some exponent, afterFraction.drop length)
    | none => (none, afterFraction)
  ⟨negative, whole, fraction, tail.1, tail.2⟩

theorem Numeral.read_eq (text : List Char) :
    read text = ofUnsigned (text.head? = some '-')
      (if text.head? = some '-' then text.drop 1 else text) :=
  rfl

theorem Numeral.ofUnsigned_of_reflowed (negative : Bool) (reflowed : Reflowed text other) :
    ∃ after, ofUnsigned negative other = { ofUnsigned negative text with after := after } ∧
      Reflowed (ofUnsigned negative text).after after := by
  obtain ⟨whole, later⟩ := wholeDigits_of_reflowed reflowed
  obtain ⟨fraction, behind⟩ := fractionDigits_of_reflowed later
  have start : Reflowed
      (if (fractionDigits (text.drop (wholeDigits text).length)).isEmpty then
        text.drop (wholeDigits text).length
      else (text.drop (wholeDigits text).length).drop
        ((fractionDigits (text.drop (wholeDigits text).length)).length + 1))
      (if (fractionDigits (text.drop (wholeDigits text).length)).isEmpty then
        other.drop (wholeDigits text).length
      else (other.drop (wholeDigits text).length).drop
        ((fractionDigits (text.drop (wholeDigits text).length)).length + 1)) := by
    split
    · exact later
    · next some => exact behind (Bool.eq_false_iff.2 some)
  obtain ⟨same, last⟩ := exponentPart_of_reflowed start
  rw [ofUnsigned, ofUnsigned, whole, fraction, same]
  cases found : exponentPart _ with
  | some pair => exact ⟨_, rfl, last pair.1 pair.2 found⟩
  | none => exact ⟨_, rfl, start⟩

/-- A number has no line ends, so those after it do not matter to it. -/
theorem numeral_of_reflowed (reflowed : Reflowed text other) :
    ∃ after, Numeral.read other = { Numeral.read text with after := after } ∧
      Reflowed (Numeral.read text).after after := by
  have sign := reflowed.head?_eq_iff (c := '-') (by decide)
  rw [Numeral.read_eq, Numeral.read_eq]
  by_cases minus : text.head? = some '-'
  · rw [if_pos minus, if_pos (sign.1 minus), decide_eq_true minus, decide_eq_true (sign.1 minus)]
    obtain ⟨rest, rfl⟩ := List.head?_eq_some_iff.1 minus
    obtain ⟨others, rfl, behind⟩ := reflowed.exists_cons (by decide)
    exact Numeral.ofUnsigned_of_reflowed true behind
  · have otherMinus := mt sign.2 minus
    rw [if_neg minus, if_neg otherMinus, decide_eq_false minus, decide_eq_false otherMinus]
    exact Numeral.ofUnsigned_of_reflowed false reflowed

theorem unsigned_suffix (text : List Char) :
    (if text.head? = some '-' then text.drop 1 else text) <:+ text := by
  split
  · exact List.drop_suffix 1 text
  · exact List.suffix_rfl

theorem Numeral.suffix_after_ofUnsigned (negative : Bool) (unsigned : List Char) :
    (ofUnsigned negative unsigned).after <:+ unsigned.drop (wholeDigits unsigned).length := by
  rw [ofUnsigned]
  generalize unsigned.drop (wholeDigits unsigned).length = rest
  have afterFraction : (if (fractionDigits rest).isEmpty then rest
      else rest.drop ((fractionDigits rest).length + 1)) <:+ rest := by
    split
    · exact List.suffix_rfl
    · exact List.drop_suffix _ rest
  cases exponentPart _ with
  | some pair => exact (List.drop_suffix _ _).trans afterFraction
  | none => exact afterFraction

/-- A number takes at least one digit. -/
theorem Numeral.length_after_lt (some : (read text).whole ≠ []) :
    (read text).after.length < text.length := by
  have unsigned := (unsigned_suffix text).length_le
  rw [read_eq] at some ⊢
  generalize (if text.head? = Option.some '-' then text.drop 1 else text) = start
    at some unsigned ⊢
  refine Nat.lt_of_lt_of_le ?_ unsigned
  have whole : wholeDigits start ≠ [] := some
  have digits := List.length_pos_iff.2 whole
  have nonempty : 0 < start.length := by
    refine List.length_pos_iff.2 fun empty => whole ?_
    rw [empty]
    rfl
  refine Nat.lt_of_le_of_lt (suffix_after_ofUnsigned _ start).length_le ?_
  rw [List.length_drop]
  omega

theorem number_of_reflowed {found : Value} {left : Rest text}
    (done : number text = .ok (found, left)) (reflowed : Reflowed text other) :
    ∃ last : Rest other, number other = .ok (found, last) ∧ Reflowed left.1 last.1 := by
  obtain ⟨some, fits, same, later⟩ := number_eq_ok_iff.1 done
  obtain ⟨after, numeral, behind⟩ := numeral_of_reflowed reflowed
  rw [later] at behind
  have shorter : after.length < other.length := by
    have bound := @Numeral.length_after_lt other (by rw [numeral]; exact some)
    rw [numeral] at bound
    exact bound
  refine ⟨⟨after, shorter⟩, number_eq_ok_iff.2 ?_, behind⟩
  rw [numeral]
  exact ⟨some, fits, same, rfl⟩

theorem words_plain : ∀ entry ∈ words, entry.1 ≠ [] ∧ ∀ c ∈ entry.1, isLineEnd c = false := by
  simp [words, isLineEnd]

theorem scalar_of_reflowed {found : Value} {left : Rest text}
    (done : scalar text = .ok (found, left)) (reflowed : Reflowed text other) :
    ∃ last : Rest other, scalar other = .ok (found, last) ∧ Reflowed left.1 last.1 := by
  have same : word? other = word? text :=
    List.find?_congr fun entry member =>
      (reflowed.isPrefixOf_eq (words_plain entry member).2).symm
  cases found : word? text with
  | none =>
      rw [scalar_of_no_word found] at done
      rw [scalar_of_no_word (same.trans found)]
      exact number_of_reflowed done reflowed
  | some entry =>
      obtain ⟨word, value⟩ := entry
      obtain ⟨nonempty, plain⟩ := words_plain _ (List.mem_of_find?_eq_some found)
      have starts := List.find?_some found
      dsimp only at nonempty plain starts
      obtain ⟨rest, rfl⟩ := List.isPrefixOf_iff_prefix.1 starts
      obtain ⟨others, rfl, behind⟩ := reflowed.exists_append plain
      have shorter (rest : List Char) :
          ((word ++ rest).drop word.length).length < (word ++ rest).length := by
        have some := List.length_pos_iff.2 nonempty
        rw [List.drop_left, List.length_append]
        omega
      rw [scalar_of_word found (shorter rest)] at done
      rw [scalar_of_word (same.trans found) (shorter others)]
      cases done
      refine ⟨_, rfl, ?_⟩
      dsimp only
      rw [List.drop_left, List.drop_left]
      exact behind

/-! ## Values -/

/-- What stands after space and a mark is the same. -/
theorem exists_of_skip_eq {mark : Char} {rest : List Char} (reflowed : Reflowed text other)
    (marked : skip text = mark :: rest) (stays : isLineEnd mark = false) :
    ∃ others, skip other = mark :: others ∧ Reflowed rest others := by
  have skipped := reflowed_skip reflowed
  rw [marked] at skipped
  exact skipped.exists_cons stays

theorem not_isLineEnd_of_scalar {c : Char} {rest : List Char} {found : Value}
    {left : Rest (c :: rest)} (done : scalar (c :: rest) = .ok (found, left)) :
    isLineEnd c = false := by
  refine isLineEnd_eq_false ?_ ?_
  · intro feed
    obtain ⟨stop, failed⟩ := scalar_stopping (c := c) (by simp [feed]) rest
    rw [failed] at done
    cases done
  · intro carriage
    obtain ⟨stop, failed⟩ := scalar_stopping (c := c) (by simp [carriage]) rest
    rw [failed] at done
    cases done

theorem reads_of_reflowed {depth : Nat} {phrase : Phrase} {left : List Char}
    (reads : Reads depth phrase text left) (reflowed : Reflowed text other) :
    ∃ last, Reads depth phrase other last ∧ Reflowed left last := by
  induction reads generalizing other with
  | text named =>
      obtain ⟨others, rfl, later⟩ := reflowed.exists_cons (by decide)
      obtain ⟨last, namedThere, behind⟩ := string_of_reflowed named later
      exact ⟨last.1, .text namedThere, behind⟩
  | scalar noMark done =>
      obtain ⟨others, rfl, later⟩ := reflowed.exists_cons (not_isLineEnd_of_scalar done)
      obtain ⟨last, doneThere, behind⟩ := scalar_of_reflowed done (.char _ later)
      exact ⟨last.1, .scalar noMark doneThere, behind⟩
  | noItems closed =>
      obtain ⟨others, rfl, later⟩ := reflowed.exists_cons (by decide)
      obtain ⟨last, closedThere, behind⟩ := exists_of_skip_eq later closed (by decide)
      exact ⟨last, .noItems closedThere, behind⟩
  | list _ ih =>
      obtain ⟨others, rfl, later⟩ := reflowed.exists_cons (by decide)
      obtain ⟨last, there, behind⟩ := ih (reflowed_skip later)
      exact ⟨last, .list there, behind⟩
  | noMembers closed =>
      obtain ⟨others, rfl, later⟩ := reflowed.exists_cons (by decide)
      obtain ⟨last, closedThere, behind⟩ := exists_of_skip_eq later closed (by decide)
      exact ⟨last, .noMembers closedThere, behind⟩
  | map _ ih =>
      obtain ⟨others, rfl, later⟩ := reflowed.exists_cons (by decide)
      obtain ⟨last, there, behind⟩ := ih (reflowed_skip later)
      exact ⟨last, .map there, behind⟩
  | lastItem _ closed ih =>
      obtain ⟨others, there, behind⟩ := ih reflowed
      obtain ⟨last, closedThere, after⟩ := exists_of_skip_eq behind closed (by decide)
      exact ⟨last, .lastItem there closedThere, after⟩
  | moreItems _ comma _ ih more =>
      obtain ⟨others, there, behind⟩ := ih reflowed
      obtain ⟨next, commaThere, after⟩ := exists_of_skip_eq behind comma (by decide)
      obtain ⟨last, moreThere, rest⟩ := more (reflowed_skip after)
      exact ⟨last, .moreItems there commaThere moreThere, rest⟩
  | lastMember named colon _ closed ih =>
      obtain ⟨others, rfl, later⟩ := reflowed.exists_cons (by decide)
      obtain ⟨afterName, namedThere, afterNamed⟩ := string_of_reflowed named later
      obtain ⟨next, colonThere, afterColon⟩ := exists_of_skip_eq afterNamed colon (by decide)
      obtain ⟨after, there, behind⟩ := ih (reflowed_skip afterColon)
      obtain ⟨last, closedThere, rest⟩ := exists_of_skip_eq behind closed (by decide)
      exact ⟨last, .lastMember namedThere colonThere there closedThere, rest⟩
  | moreMembers named colon _ comma _ ih more =>
      obtain ⟨others, rfl, later⟩ := reflowed.exists_cons (by decide)
      obtain ⟨afterName, namedThere, afterNamed⟩ := string_of_reflowed named later
      obtain ⟨next, colonThere, afterColon⟩ := exists_of_skip_eq afterNamed colon (by decide)
      obtain ⟨after, there, behind⟩ := ih (reflowed_skip afterColon)
      obtain ⟨others, commaThere, afterComma⟩ := exists_of_skip_eq behind comma (by decide)
      obtain ⟨last, moreThere, rest⟩ := more (reflowed_skip afterComma)
      exact ⟨last, .moreMembers namedThere colonThere there commaThere moreThere, rest⟩

theorem read_of_reflowed {source elsewhere : String} {found : Value}
    (reflowed : Reflowed source.toList elsewhere.toList) (done : read source = .ok found) :
    read elsewhere = .ok found := by
  obtain ⟨noMark, left, reads, ended⟩ := read_eq_ok_iff.1 done
  obtain ⟨last, readsThere, behind⟩ := reads_of_reflowed reads (reflowed_skip reflowed)
  have endedThere := (reflowed_skip behind).eq_nil_iff.1 ended
  refine read_eq_ok_iff.2 ⟨?_, last, readsThere, endedThere⟩
  exact mt (reflowed.head?_eq_iff (by decide)).2 noMark

/-- Two texts that are the same but for their line ends hold the same data, or none. -/
theorem toOption_read_eq {source elsewhere : String}
    (reflowed : Reflowed source.toList elsewhere.toList) :
    (read source).toOption = (read elsewhere).toOption := by
  refine Option.ext fun found => ?_
  rw [Steps.toOption_eq_some_iff, Steps.toOption_eq_some_iff]
  exact ⟨read_of_reflowed reflowed, read_of_reflowed reflowed.symm⟩

end Bindery.Format.Json

namespace Bindery.Format.Yaml

open Bindery.Files

/-! ## YAML with unified line ends -/

theorem unifyBreaks_plainLineEnds (text : List Char) :
    unifyBreaks (plainLineEnds text) = unifyBreaks text := by
  fun_induction plainLineEnds text with
  | case1 => rfl
  | case2 rest ih =>
      rw [unifyBreaks, unifyBreaks, ih]
      · rfl
      · exact fun _ carriage => absurd carriage (by decide)
  | case3 rest noFeed ih =>
      rw [unifyBreaks, unifyBreaks, ih]
      · rfl
      · exact fun more _ feed => noFeed more feed
      · exact fun _ carriage => absurd carriage (by decide)
  | case4 c rest noPair noReturn ih =>
      rw [unifyBreaks, unifyBreaks, ih]
      · exact fun more carriage feed => noPair more carriage feed
      · exact fun _ carriage => absurd carriage noReturn

theorem all_isReadable_plainLineEnds (text : List Char) :
    (plainLineEnds text).all isReadable = text.all isReadable := by
  fun_induction plainLineEnds text with
  | case1 => rfl
  | case2 rest ih => rw [List.all_cons, ih]; rfl
  | case3 rest _ ih => rw [List.all_cons, ih]; rfl
  | case4 c rest _ _ ih => rw [List.all_cons, ih, List.all_cons]

theorem read_plainLineEnds (source : String) :
    read (String.ofList (plainLineEnds source.toList)) = read source := by
  simp only [read, String.toList_ofList, all_isReadable_plainLineEnds, unifyBreaks_plainLineEnds]

end Bindery.Format.Yaml
