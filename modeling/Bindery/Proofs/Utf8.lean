import Bindery.Data.Utf8
import Bindery.Format.Charset.Unicode
import Mathlib.Data.List.TakeWhile

/-!
# UTF-8 is read back

Every text is read from its own bytes, and bytes that are read as a text are the bytes of that text.
So bytes can be decoded exactly if they are those of a text, and of no more than one.
-/

namespace Bindery.Data.Utf8

/-! ## Bytes of characters -/

/-- The bytes of characters. -/
def encode (chars : List Char) : List UInt8 := chars.flatMap String.utf8EncodeChar

theorem toList_loop (bytes : ByteArray) (start : Nat) (before : List UInt8) :
    ByteArray.toList.loop bytes start before = before.reverse ++ bytes.data.toList.drop start := by
  fun_induction ByteArray.toList.loop bytes start before with
  | case1 start before inside ih =>
      have bound : start < bytes.data.toList.length := inside
      have here : bytes.get! start = bytes.data[start]! := by
        cases bytes
        rfl
      rw [ih, List.drop_eq_getElem_cons bound, here, getElem!_pos bytes.data start inside]
      simp
  | case2 start before outside =>
      have past : bytes.data.toList.drop start = [] :=
        List.drop_eq_nil_of_le (Nat.le_of_not_lt outside)
      rw [past, List.append_nil]

theorem toList_toUTF8 (text : String) : text.toUTF8.toList = encode text.toList := by
  have bytes : text.toUTF8 = text.toList.utf8Encode := by
    rw [← String.toByteArray_ofList, String.ofList_toList]
    rfl
  rw [bytes, ByteArray.toList, toList_loop, List.utf8Encode, List.data_toByteArray]
  rfl

/-! ## Reading the bytes of a character -/

theorem sequence?_eq (first : UInt8) :
    sequence? first =
      if first.toNat < 0x80 then some (1, 0x80, 0xBF)
      else if first.toNat < 0xC2 then none
      else if first.toNat < 0xE0 then some (2, 0x80, 0xBF)
      else if first.toNat = 0xE0 then some (3, 0xA0, 0xBF)
      else if first.toNat = 0xED then some (3, 0x80, 0x9F)
      else if first.toNat < 0xF0 then some (3, 0x80, 0xBF)
      else if first.toNat = 0xF0 then some (4, 0x90, 0xBF)
      else if first.toNat < 0xF4 then some (4, 0x80, 0xBF)
      else if first.toNat = 0xF4 then some (4, 0x80, 0x8F)
      else none := by
  simp only [sequence?, UInt8.lt_iff_toNat_lt, ← UInt8.toNat_inj]
  rfl

theorem continuations_cons (low high byte : UInt8) (rest : List UInt8) :
    continuations low high (byte :: rest) =
      if low.toNat ≤ byte.toNat ∧ byte.toNat ≤ high.toNat then
        1 + (rest.takeWhile fun byte => 0x80 ≤ byte && byte ≤ 0xBF).length
      else 0 := by
  simp only [continuations, UInt8.le_iff_toNat_le, Bool.and_eq_true, decide_eq_true_eq]

/-- A byte that goes on with a sequence. -/
def Continues (byte : UInt8) : Prop := 0x80 ≤ byte.toNat ∧ byte.toNat ≤ 0xBF

theorem takeWhile_continues {byte : UInt8} (continues : Continues byte) (rest : List UInt8) :
    (byte :: rest).takeWhile (fun byte => 0x80 ≤ byte && byte ≤ 0xBF) =
      byte :: rest.takeWhile fun byte => 0x80 ≤ byte && byte ≤ 0xBF := by
  refine List.takeWhile_cons_of_pos ?_
  simp only [UInt8.le_iff_toNat_le, Bool.and_eq_true, decide_eq_true_eq]
  exact continues

theorem sequence?_of_two {first : UInt8} (starts : 0xC2 ≤ first.toNat ∧ first.toNat < 0xE0) :
    sequence? first = some (2, 0x80, 0xBF) := by
  rw [sequence?_eq, if_neg (by omega), if_neg (by omega), if_pos starts.2]

/-- The second byte of three is in a smaller range after the lowest of the first bytes, where two
bytes would do, and after one of them that half pairs would have. -/
theorem sequence?_of_three {first : UInt8} (starts : 0xE0 ≤ first.toNat ∧ first.toNat < 0xF0) :
    ∃ low high, sequence? first = some (3, low, high) ∧
      ∀ second : UInt8, (low.toNat ≤ second.toNat ∧ second.toNat ≤ high.toNat) ↔
        Continues second ∧ (first.toNat = 0xE0 → 0xA0 ≤ second.toNat) ∧
          (first.toNat = 0xED → second.toNat ≤ 0x9F) := by
  unfold Continues
  rw [sequence?_eq, if_neg (by omega), if_neg (by omega), if_neg (by omega)]
  by_cases lowest : first.toNat = 0xE0
  · rw [if_pos lowest]
    refine ⟨_, _, rfl, fun second => ?_⟩
    change 0xA0 ≤ second.toNat ∧ second.toNat ≤ 0xBF ↔ _
    omega
  by_cases halves : first.toNat = 0xED
  · rw [if_neg lowest, if_pos halves]
    refine ⟨_, _, rfl, fun second => ?_⟩
    change 0x80 ≤ second.toNat ∧ second.toNat ≤ 0x9F ↔ _
    omega
  · rw [if_neg lowest, if_neg halves, if_pos starts.2]
    refine ⟨_, _, rfl, fun second => ?_⟩
    change 0x80 ≤ second.toNat ∧ second.toNat ≤ 0xBF ↔ _
    omega

/-- The second byte of four is in a smaller range after the lowest of the first bytes, where three
bytes would do, and after the highest one, where Unicode ends. -/
theorem sequence?_of_four {first : UInt8} (starts : 0xF0 ≤ first.toNat ∧ first.toNat ≤ 0xF4) :
    ∃ low high, sequence? first = some (4, low, high) ∧
      ∀ second : UInt8, (low.toNat ≤ second.toNat ∧ second.toNat ≤ high.toNat) ↔
        Continues second ∧ (first.toNat = 0xF0 → 0x90 ≤ second.toNat) ∧
          (first.toNat = 0xF4 → second.toNat ≤ 0x8F) := by
  unfold Continues
  rw [sequence?_eq, if_neg (by omega), if_neg (by omega), if_neg (by omega), if_neg (by omega),
    if_neg (by omega), if_neg (by omega)]
  by_cases lowest : first.toNat = 0xF0
  · rw [if_pos lowest]
    refine ⟨_, _, rfl, fun second => ?_⟩
    change 0x90 ≤ second.toNat ∧ second.toNat ≤ 0xBF ↔ _
    omega
  by_cases highest : first.toNat = 0xF4
  · rw [if_neg lowest, if_neg (by omega), if_pos highest]
    refine ⟨_, _, rfl, fun second => ?_⟩
    change 0x80 ≤ second.toNat ∧ second.toNat ≤ 0x8F ↔ _
    omega
  · rw [if_neg lowest, if_pos (by omega)]
    refine ⟨_, _, rfl, fun second => ?_⟩
    change 0x80 ≤ second.toNat ∧ second.toNat ≤ 0xBF ↔ _
    omega

theorem sequence?_eq_none {first : UInt8}
    (other : 0x80 ≤ first.toNat ∧ first.toNat < 0xC2 ∨ 0xF4 < first.toNat) :
    sequence? first = none := by
  rw [sequence?_eq]
  cases other with
  | inl low => rw [if_neg (by omega), if_pos low.2]
  | inr high =>
      rw [if_neg (by omega), if_neg (by omega), if_neg (by omega), if_neg (by omega),
        if_neg (by omega), if_neg (by omega), if_neg (by omega), if_neg (by omega),
        if_neg (by omega)]

section

variable {first second third fourth : UInt8} (rest : List UInt8)

/-- A sequence that goes on as far as its first byte says is a character. -/
theorem read_of_found {rest : List UInt8} {length : Nat} {low high : UInt8}
    (range : sequence? first = some (length, low, high))
    (found : continuations low high (rest.take (length - 1)) = length - 1) :
    read first rest =
      .ok (Char.ofNat ((rest.take (length - 1)).foldl
        (fun number byte => 0x40 * number + byte.toNat % 0x40) (leadBits length first)),
        length - 1) := by
  rw [read, range]
  dsimp only
  rw [if_neg]
  omega

theorem read_of_one (alone : first.toNat < 0x80) :
    read first rest = .ok (Char.ofNat first.toNat, 0) := by
  rw [read, sequence?_eq, if_pos alone]
  simp [continuations, leadBits]

theorem read_of_two (starts : 0xC2 ≤ first.toNat ∧ first.toNat < 0xE0)
    (continues : Continues second) :
    read first (second :: rest) =
      .ok (Char.ofNat (0x40 * (first.toNat % 0x20) + second.toNat % 0x40), 1) := by
  refine read_of_found (sequence?_of_two starts) ?_
  change continuations 0x80 0xBF [second] = 1
  rw [continuations_cons]
  exact if_pos continues

theorem read_of_three (starts : 0xE0 ≤ first.toNat ∧ first.toNat < 0xF0)
    (continues : Continues second) (least : first.toNat = 0xE0 → 0xA0 ≤ second.toNat)
    (most : first.toNat = 0xED → second.toNat ≤ 0x9F) (goesOn : Continues third) :
    read first (second :: third :: rest) =
      .ok (Char.ofNat (0x40 * (0x40 * (first.toNat % 0x10) + second.toNat % 0x40) +
        third.toNat % 0x40), 2) := by
  obtain ⟨low, high, range, inRange⟩ := sequence?_of_three starts
  refine read_of_found range ?_
  change continuations low high [second, third] = 2
  rw [continuations_cons, if_pos ((inRange second).2 ⟨continues, least, most⟩),
    takeWhile_continues goesOn]
  rfl

theorem read_of_four (starts : 0xF0 ≤ first.toNat ∧ first.toNat ≤ 0xF4)
    (continues : Continues second) (least : first.toNat = 0xF0 → 0x90 ≤ second.toNat)
    (most : first.toNat = 0xF4 → second.toNat ≤ 0x8F) (goesOn : Continues third)
    (ends : Continues fourth) :
    read first (second :: third :: fourth :: rest) =
      .ok (Char.ofNat (0x40 * (0x40 * (0x40 * (first.toNat % 0x08) + second.toNat % 0x40) +
        third.toNat % 0x40) + fourth.toNat % 0x40), 3) := by
  obtain ⟨low, high, range, inRange⟩ := sequence?_of_four starts
  refine read_of_found range ?_
  change continuations low high [second, third, fourth] = 3
  rw [continuations_cons, if_pos ((inRange second).2 ⟨continues, least, most⟩),
    takeWhile_continues goesOn, takeWhile_continues ends]
  rfl

end

theorem toNat_ofNat_of_lt (number : Nat) (small : number < 0x100) :
    (UInt8.ofNat number).toNat = number := by
  rw [UInt8.toNat_ofNat']
  omega

/-- A character is read from its bytes, whatever follows them. -/
theorem exists_read_encode (c : Char) :
    ∃ first others, String.utf8EncodeChar c = first :: others ∧
      ∀ rest, read first (others ++ rest) = .ok (c, others.length) := by
  have bound : c.toNat < 0xD800 ∨ 0xDFFF < c.toNat ∧ c.toNat < 0x110000 := c.valid
  have same {code : Nat} (equal : code = c.toNat) : Char.ofNat code = c := by
    rw [equal, Char.ofNat_toNat]
  have value : c.val.toNat = c.toNat := rfl
  rw [String.utf8EncodeChar, value]
  have last := toNat_ofNat_of_lt (c.toNat % 64 + 128) (by omega)
  have beforeLast := toNat_ofNat_of_lt (c.toNat / 64 % 64 + 128) (by omega)
  by_cases one : c.toNat ≤ 0x7F
  · rw [if_pos one]
    refine ⟨_, [], rfl, fun rest => ?_⟩
    have first := toNat_ofNat_of_lt c.toNat (by omega)
    rw [List.nil_append, read_of_one rest (by omega), same first]
    rfl
  by_cases two : c.toNat ≤ 0x7FF
  · rw [if_neg one, if_pos two]
    refine ⟨_, [_], rfl, fun rest => ?_⟩
    have first := toNat_ofNat_of_lt (c.toNat / 64 % 32 + 192) (by omega)
    rw [List.singleton_append, read_of_two rest (by omega) ⟨by omega, by omega⟩, same (by omega)]
    rfl
  by_cases three : c.toNat ≤ 0xFFFF
  · rw [if_neg one, if_neg two, if_pos three]
    refine ⟨_, [_, _], rfl, fun rest => ?_⟩
    have first := toNat_ofNat_of_lt (c.toNat / 4096 % 16 + 224) (by omega)
    rw [List.cons_append, List.singleton_append, read_of_three rest (by omega)
      ⟨by omega, by omega⟩ (by omega) (by omega) ⟨by omega, by omega⟩, same (by omega)]
    rfl
  · rw [if_neg one, if_neg two, if_neg three]
    refine ⟨_, [_, _, _], rfl, fun rest => ?_⟩
    have first := toNat_ofNat_of_lt (c.toNat / 262144 % 8 + 240) (by omega)
    have second := toNat_ofNat_of_lt (c.toNat / 4096 % 64 + 128) (by omega)
    rw [List.cons_append, List.cons_append, List.singleton_append, read_of_four rest (by omega)
      ⟨by omega, by omega⟩ (by omega) (by omega) ⟨by omega, by omega⟩ ⟨by omega, by omega⟩,
      same (by omega)]
    rfl

/-! ## Bytes of what is read -/

theorem continuations_le (low high : UInt8) (bytes : List UInt8) :
    continuations low high bytes ≤ bytes.length := by
  cases bytes with
  | nil => exact Nat.le_refl 0
  | cons byte rest =>
      have most := (List.takeWhile_sublist (l := rest)
        fun byte : UInt8 => 0x80 ≤ byte && byte ≤ 0xBF).length_le
      rw [continuations_cons, List.length_cons]
      split
      · omega
      · exact Nat.zero_le _

theorem continuations_cons_eq_iff {low high byte : UInt8} {rest : List UInt8} :
    continuations low high (byte :: rest) = rest.length + 1 ↔
      (low.toNat ≤ byte.toNat ∧ byte.toNat ≤ high.toNat) ∧ ∀ other ∈ rest, Continues other := by
  have all : (rest.takeWhile fun byte => 0x80 ≤ byte && byte ≤ 0xBF).length = rest.length ↔
      ∀ other ∈ rest, Continues other := by
    have whole : rest.takeWhile (fun byte => 0x80 ≤ byte && byte ≤ 0xBF) = rest ↔
        ∀ other ∈ rest, Continues other := by
      rw [List.takeWhile_eq_self_iff]
      simp only [UInt8.le_iff_toNat_le, Bool.and_eq_true, decide_eq_true_eq]
      rfl
    rw [← whole]
    exact ⟨(List.takeWhile_prefix _).eq_of_length, congrArg List.length⟩
  rw [continuations_cons, ← all]
  split
  · next inRange =>
      constructor
      · intro found
        exact ⟨inRange, by omega⟩
      · intro found
        omega
  · next outside =>
      constructor
      · intro found
        omega
      · intro found
        exact absurd found.1 outside

section

variable {first second third fourth : UInt8}

theorem toNat_ofNat_of_valid {code : Nat} (valid : code.isValidChar) :
    (Char.ofNat code).val.toNat = code := by
  rw [Char.ofNat, dif_pos valid]
  exact UInt32.toNat_ofNatLT

theorem encode_of_one (alone : first.toNat < 0x80) :
    String.utf8EncodeChar (Char.ofNat first.toNat) = [first] := by
  rw [String.utf8EncodeChar, toNat_ofNat_of_valid (.inl (by omega)), if_pos (by omega),
    UInt8.ofNat_toNat]

theorem encode_of_two (starts : 0xC2 ≤ first.toNat ∧ first.toNat < 0xE0)
    (continues : Continues second) :
    String.utf8EncodeChar (Char.ofNat (0x40 * (first.toNat % 0x20) + second.toNat % 0x40)) =
      [first, second] := by
  obtain ⟨low, high⟩ := continues
  rw [String.utf8EncodeChar, toNat_ofNat_of_valid (.inl (by omega)), if_neg (by omega),
    if_pos (by omega)]
  simp only [List.cons.injEq, and_true]
  refine ⟨?_, ?_⟩
  · rw [← UInt8.toNat_inj, toNat_ofNat_of_lt _ (by omega)]
    omega
  · rw [← UInt8.toNat_inj, toNat_ofNat_of_lt _ (by omega)]
    omega

theorem encode_of_three (starts : 0xE0 ≤ first.toNat ∧ first.toNat < 0xF0)
    (continues : Continues second) (least : first.toNat = 0xE0 → 0xA0 ≤ second.toNat)
    (most : first.toNat = 0xED → second.toNat ≤ 0x9F) (goesOn : Continues third) :
    String.utf8EncodeChar (Char.ofNat (0x40 * (0x40 * (first.toNat % 0x10) +
      second.toNat % 0x40) + third.toNat % 0x40)) = [first, second, third] := by
  obtain ⟨low, high⟩ := continues
  obtain ⟨lowThird, highThird⟩ := goesOn
  have valid : (0x40 * (0x40 * (first.toNat % 0x10) + second.toNat % 0x40) +
      third.toNat % 0x40).isValidChar := by
    change _ < 0xD800 ∨ 0xDFFF < _ ∧ _ < 0x110000
    omega
  rw [String.utf8EncodeChar, toNat_ofNat_of_valid valid, if_neg (by omega), if_neg (by omega),
    if_pos (by omega)]
  simp only [List.cons.injEq, and_true]
  refine ⟨?_, ?_, ?_⟩
  · rw [← UInt8.toNat_inj, toNat_ofNat_of_lt _ (by omega)]
    omega
  · rw [← UInt8.toNat_inj, toNat_ofNat_of_lt _ (by omega)]
    omega
  · rw [← UInt8.toNat_inj, toNat_ofNat_of_lt _ (by omega)]
    omega

theorem encode_of_four (starts : 0xF0 ≤ first.toNat ∧ first.toNat ≤ 0xF4)
    (continues : Continues second) (least : first.toNat = 0xF0 → 0x90 ≤ second.toNat)
    (most : first.toNat = 0xF4 → second.toNat ≤ 0x8F) (goesOn : Continues third)
    (ends : Continues fourth) :
    String.utf8EncodeChar (Char.ofNat (0x40 * (0x40 * (0x40 * (first.toNat % 0x08) +
      second.toNat % 0x40) + third.toNat % 0x40) + fourth.toNat % 0x40)) =
      [first, second, third, fourth] := by
  obtain ⟨low, high⟩ := continues
  obtain ⟨lowThird, highThird⟩ := goesOn
  obtain ⟨lowFourth, highFourth⟩ := ends
  have valid : (0x40 * (0x40 * (0x40 * (first.toNat % 0x08) + second.toNat % 0x40) +
      third.toNat % 0x40) + fourth.toNat % 0x40).isValidChar := by
    change _ < 0xD800 ∨ 0xDFFF < _ ∧ _ < 0x110000
    omega
  rw [String.utf8EncodeChar, toNat_ofNat_of_valid valid, if_neg (by omega), if_neg (by omega),
    if_neg (by omega)]
  simp only [List.cons.injEq, and_true]
  refine ⟨?_, ?_, ?_, ?_⟩
  · rw [← UInt8.toNat_inj, toNat_ofNat_of_lt _ (by omega)]
    omega
  · rw [← UInt8.toNat_inj, toNat_ofNat_of_lt _ (by omega)]
    omega
  · rw [← UInt8.toNat_inj, toNat_ofNat_of_lt _ (by omega)]
    omega
  · rw [← UInt8.toNat_inj, toNat_ofNat_of_lt _ (by omega)]
    omega

end

/-- A sequence of a known range that is read as a character has all of its bytes, and each of them
is in its range. -/
theorem exists_of_read_of_range {first low high : UInt8} {rest : List UInt8} {length : Nat}
    {c : Char} {more : Nat} (range : sequence? first = some (length, low, high))
    (done : read first rest = .ok (c, more)) :
    ∃ others tail, rest = others ++ tail ∧ others.length = length - 1 ∧ more = length - 1 ∧
      continuations low high others = length - 1 ∧
      c = Char.ofNat (others.foldl (fun number byte => 0x40 * number + byte.toNat % 0x40)
        (leadBits length first)) := by
  rw [read, range] at done
  dsimp only at done
  have few := continuations_le low high (rest.take (length - 1))
  have fewer : (rest.take (length - 1)).length ≤ length - 1 := by
    rw [List.length_take]
    omega
  split at done
  · cases done
  · cases done
    exact ⟨rest.take (length - 1), rest.drop (length - 1), (List.take_append_drop _ _).symm,
      by omega, rfl, by omega, rfl⟩

/-- The bytes that a character is read from are its own. -/
theorem exists_encode_of_read {first : UInt8} {rest : List UInt8} {c : Char} {more : Nat}
    (done : read first rest = .ok (c, more)) :
    ∃ others tail, rest = others ++ tail ∧ others.length = more ∧
      String.utf8EncodeChar c = first :: others := by
  by_cases one : first.toNat < 0x80
  · rw [read_of_one rest one] at done
    cases done
    exact ⟨[], rest, rfl, rfl, encode_of_one one⟩
  by_cases two : 0xC2 ≤ first.toNat ∧ first.toNat < 0xE0
  · obtain ⟨others, tail, split, length, rfl, found, rfl⟩ :=
      exists_of_read_of_range (sequence?_of_two two) done
    refine ⟨others, tail, split, length, ?_⟩
    match others, length with
    | [second], _ =>
        obtain ⟨continues, -⟩ := continuations_cons_eq_iff.1 found
        exact encode_of_two two continues
  by_cases three : 0xE0 ≤ first.toNat ∧ first.toNat < 0xF0
  · obtain ⟨low, high, range, inRange⟩ := sequence?_of_three three
    obtain ⟨others, tail, split, length, rfl, found, rfl⟩ := exists_of_read_of_range range done
    refine ⟨others, tail, split, length, ?_⟩
    match others, length with
    | [second, third], _ =>
        obtain ⟨here, goOn⟩ := continuations_cons_eq_iff.1 found
        obtain ⟨continues, least, most⟩ := (inRange second).1 here
        exact encode_of_three three continues least most (goOn third List.mem_cons_self)
  by_cases four : 0xF0 ≤ first.toNat ∧ first.toNat ≤ 0xF4
  · obtain ⟨low, high, range, inRange⟩ := sequence?_of_four four
    obtain ⟨others, tail, split, length, rfl, found, rfl⟩ := exists_of_read_of_range range done
    refine ⟨others, tail, split, length, ?_⟩
    match others, length with
    | [second, third, fourth], _ =>
        obtain ⟨here, goOn⟩ := continuations_cons_eq_iff.1 found
        obtain ⟨continues, least, most⟩ := (inRange second).1 here
        rw [List.forall_mem_cons, List.forall_mem_singleton] at goOn
        exact encode_of_four four continues least most goOn.1 goOn.2
  · rw [read, sequence?_eq_none (by omega)] at done
    cases done

/-! ## Reading all bytes -/

theorem decodeFrom_cons (offset : Nat) (first : UInt8) (rest : List UInt8) :
    decodeFrom offset (first :: rest) =
      match read first rest with
      | .error (flaw, found) => .error ⟨flaw, offset, first :: rest.take found⟩
      | .ok (c, more) => (decodeFrom (offset + more + 1) (rest.drop more)).map (c :: ·) := by
  rw [decodeFrom]
  cases read first rest with
  | error stop => rfl
  | ok pair =>
      dsimp only
      cases decodeFrom (offset + pair.2 + 1) (rest.drop pair.2) with
      | error error => rfl
      | ok chars => rfl

theorem decodeFrom_encode (offset : Nat) (chars : List Char) :
    decodeFrom offset (encode chars) = .ok chars := by
  induction chars generalizing offset with
  | nil => rw [encode, List.flatMap_nil, decodeFrom]
  | cons c chars ih =>
      obtain ⟨first, others, bytes, reads⟩ := exists_read_encode c
      rw [encode, List.flatMap_cons, bytes, List.cons_append, decodeFrom_cons, reads]
      dsimp only
      rw [List.drop_left, ← encode, ih]
      rfl

theorem encode_of_decodeFrom {offset : Nat} {bytes : List UInt8} {chars : List Char}
    (done : decodeFrom offset bytes = .ok chars) : encode chars = bytes := by
  induction length : bytes.length using Nat.strongRecOn generalizing offset bytes chars with
  | ind size ih =>
      subst length
      cases bytes with
      | nil =>
          rw [decodeFrom] at done
          cases done
          rfl
      | cons first rest =>
          rw [decodeFrom_cons] at done
          cases taken : read first rest with
          | error stop =>
              rw [taken] at done
              cases done
          | ok pair =>
              obtain ⟨c, more⟩ := pair
              rw [taken] at done
              dsimp only at done
              cases later : decodeFrom (offset + more + 1) (rest.drop more) with
              | error error =>
                  rw [later] at done
                  cases done
              | ok others =>
                  rw [later] at done
                  cases done
                  obtain ⟨before, tail, rfl, rfl, bytes⟩ := exists_encode_of_read taken
                  rw [List.drop_left] at later
                  have shorter : tail.length < (first :: (before ++ tail)).length := by
                    rw [List.length_cons, List.length_append]
                    omega
                  have same := ih _ shorter later rfl
                  rw [encode, List.flatMap_cons, bytes, ← encode, same]
                  rfl

/-- Bytes are decoded as a text exactly if they are its bytes. -/
theorem decode_eq_ok_iff {bytes : List UInt8} {chars : List Char} :
    decode bytes = .ok chars ↔ (String.ofList chars).toUTF8.toList = bytes := by
  rw [toList_toUTF8, String.toList_ofList]
  constructor
  · exact encode_of_decodeFrom
  · intro same
    rw [← same]
    exact decodeFrom_encode 0 chars

end Bindery.Data.Utf8

namespace Bindery.Format.Charset

open Bindery.Data

theorem readAll_cons {σ : Type} (reader : Reader σ) (state : σ) (byte : UInt8)
    (rest : List UInt8) :
    (readAll reader state (byte :: rest)).1 =
      (reader state byte rest).chars ++
        (readAll reader (reader state byte rest).state
          (rest.drop (reader state byte rest).more)).1 := by
  rw [readAll]

/-- The bytes of a text are read as the text. -/
theorem readPlain_encode (chars : List Char) :
    readPlain readUtf8 (Utf8.encode chars) = chars := by
  induction chars with
  | nil => rw [Utf8.encode, List.flatMap_nil, readPlain, readAll]
  | cons c chars ih =>
      obtain ⟨first, others, bytes, reads⟩ := Utf8.exists_read_encode c
      rw [readPlain, Utf8.encode, List.flatMap_cons, bytes, List.cons_append, readAll_cons,
        readUtf8, reads]
      dsimp only [Step.char]
      rw [List.drop_left, ← Utf8.encode]
      exact congrArg (c :: ·) ih

end Bindery.Format.Charset
