import PortFabric.Library.Numerals
import PortFabric.RenderingProperties

/-!
# Speed texts

A rate is read from a decimal numeral and the letter of a unit. What is read is
the rational number that the text denotes, digit for digit, and the rendering of
every rate is read back as that rate.
-/

set_option autoImplicit false

namespace PortFabric

open Numerals

/-- The unit that the last letter of a rate names. -/
inductive RateUnit where
  | one | kilo | mega | giga
  deriving DecidableEq

namespace RateUnit

def factor : RateUnit → Nat
  | one => 1
  | kilo => 1000
  | mega => 1000000
  | giga => 1000000000

/-- The spellings of the unit. -/
def suffixes : RateUnit → List Text
  | one => [[]]
  | kilo => ["K", "k"]
  | mega => ["M", "m"]
  | giga => ["G", "g"]

end RateUnit

def digitByte (digit : Fin 10) : UInt8 := 0x30 + UInt8.ofNat digit

/-- The numeral with digits and a decimal point. -/
def spelledNumeral (numeral : Numeral) : Text := numeral.spelled digitByte 0x2e

/-- The text is the numeral followed by a spelling of the unit. -/
def SpellsRate (value : Text) (numeral : Numeral) (unit : RateUnit) : Prop :=
  ∃ suffix ∈ unit.suffixes, value = spelledNumeral numeral ++ suffix

/-- The rate that a numeral and a unit denote, in bits per second. -/
def denotedRate (numeral : Numeral) (unit : RateUnit) : ℚ := numeral.value * unit.factor

section Digits

theorem digitByte_decimal (digit : Fin 10) :
    isDecimal (digitByte digit) = true ∧ (digitByte digit).toNat - 0x30 = digit ∧
      (Char.ofNat (digitByte digit).toNat).toNat - '0'.toNat = digit := by
  revert digit
  decide

theorem digitByte_injective : Function.Injective digitByte := by
  intro first second same
  apply Fin.ext
  rw [← (digitByte_decimal first).2.1, ← (digitByte_decimal second).2.1, same]

theorem digitByte_ne_point (digit : Fin 10) : digitByte digit ≠ 0x2e := by
  revert digit
  decide

theorem exists_digitByte {byte : UInt8} (decimal : isDecimal byte = true) :
    ∃ digit, byte = digitByte digit := by
  simp only [isDecimal, Bool.and_eq_true, decide_eq_true_eq, ge_iff_le,
    UInt8.le_iff_toNat_le] at decimal
  obtain ⟨lower, upper⟩ := decimal
  simp only [UInt8.reduceToNat] at lower upper
  refine ⟨⟨byte.toNat - 48, by omega⟩, UInt8.toNat_inj.mp ?_⟩
  rw [digitByte, UInt8.toNat_add, UInt8.toNat_ofNat']
  simp only [UInt8.reduceToNat]
  omega

/-- Decimal bytes are digits, and their number is the one they are read as. -/
theorem exists_digits {bytes : Text} (decimal : ∀ byte ∈ bytes, isDecimal byte = true) :
    ∃ digits : List (Fin 10), bytes = digits.map digitByte ∧
      ∀ start, Nat.ofDigitChars 10 (bytes.map fun byte => Char.ofNat byte.toNat) start =
        start * 10 ^ digits.length + number digits := by
  induction bytes with
  | nil => exact ⟨[], rfl, fun start => by simp [number]⟩
  | cons byte bytes ih =>
      obtain ⟨first, rest⟩ := List.forall_mem_cons.mp decimal
      obtain ⟨digit, rfl⟩ := exists_digitByte first
      obtain ⟨digits, rfl, read⟩ := ih rest
      refine ⟨digit :: digits, rfl, ?_⟩
      intro start
      obtain ⟨_, _, figure⟩ := digitByte_decimal digit
      rw [List.map_cons, Nat.ofDigitChars_cons, figure, read, number_cons, List.length_cons]
      ring

/-- The digits of a number. -/
theorem exists_digits_formatU64 (value : Nat) :
    ∃ digits : List (Fin 10), formatU64 value = digits.map digitByte ∧ number digits = value := by
  obtain ⟨digits, same, read⟩ := exists_digits fun _ member => isDecimal_of_mem member
  refine ⟨digits, same, ?_⟩
  have whole := read 0
  rw [map_formatU64, Nat.ofDigitChars_ten_toDigits, Nat.zero_mul, Nat.zero_add] at whole
  exact whole.symm

end Digits

section Scans

/-- The rest of a scan does not go on with a digit. -/
def Stops (rest : Text) : Prop := ∀ byte, rest.head? = some byte → isDecimal byte = false

theorem parseWhole_digits {digits : List (Fin 10)} {rest : Text} (stops : Stops rest)
    {start : Nat} (small : start * 10 ^ digits.length + number digits ≤ maxU64) :
    PortSpeed.parseWhole start (digits.map digitByte ++ rest) =
      some (start * 10 ^ digits.length + number digits, rest) := by
  induction digits generalizing start with
  | nil =>
      have empty : start * 10 ^ ([] : List (Fin 10)).length + number [] = start := by simp [number]
      rw [empty, List.map_nil, List.nil_append]
      cases rest with
      | nil => rfl
      | cons byte rest =>
          rw [PortSpeed.parseWhole, stops byte rfl]
          rfl
  | cons digit digits ih =>
      obtain ⟨decimal, figure, _⟩ := digitByte_decimal digit
      have moved : start * 10 ^ (digit :: digits).length + number (digit :: digits) =
          (start * 10 + digit) * 10 ^ digits.length + number digits := by
        rw [number_cons, List.length_cons]
        ring
      have grown : start * 10 + digit ≤ (start * 10 + digit) * 10 ^ digits.length :=
        Nat.le_mul_of_pos_right _ (Nat.pow_pos (by decide))
      rw [moved] at small
      have fits : ¬start > (maxU64 - digit) / 10 := by
        have bound := digit.isLt
        rw [maxU64] at small ⊢
        omega
      rw [List.map_cons, List.cons_append, PortSpeed.parseWhole, if_pos decimal]
      dsimp only
      rw [figure, if_neg fits, moved]
      exact ih small

theorem parseWhole_eq_some {bytes rest : Text} {start whole : Nat}
    (parsed : PortSpeed.parseWhole start bytes = some (whole, rest)) :
    ∃ digits : List (Fin 10), bytes = digits.map digitByte ++ rest ∧
      whole = start * 10 ^ digits.length + number digits ∧ Stops rest := by
  induction bytes generalizing start with
  | nil =>
      cases parsed
      exact ⟨[], rfl, by simp [number], fun _ none => nomatch none⟩
  | cons byte bytes ih =>
      rw [PortSpeed.parseWhole] at parsed
      split at parsed
      · next decimal =>
          dsimp only at parsed
          split at parsed
          · cases parsed
          · obtain ⟨digit, rfl⟩ := exists_digitByte decimal
            obtain ⟨digits, rfl, read, stops⟩ := ih parsed
            refine ⟨digit :: digits, rfl, ?_, stops⟩
            rw [read, (digitByte_decimal digit).2.1, number_cons, List.length_cons]
            ring
      · next other =>
          cases parsed
          refine ⟨[], rfl, by simp [number], ?_⟩
          intro byte same
          cases same
          exact Bool.eq_false_iff.mpr other

theorem parseDecimals_digits {digits : List (Fin 10)} {count : Nat}
    (few : count + digits.length ≤ 3) (value scale : Nat) :
    PortSpeed.parseDecimals count value scale (digits.map digitByte) =
      some (count + digits.length, value * 10 ^ digits.length + number digits,
        scale * 10 ^ digits.length, []) := by
  induction digits generalizing count value scale with
  | nil => simp [PortSpeed.parseDecimals, number]
  | cons digit digits ih =>
      obtain ⟨decimal, figure, _⟩ := digitByte_decimal digit
      rw [List.length_cons] at few
      rw [List.map_cons, PortSpeed.parseDecimals, if_pos decimal, if_neg (by omega), figure,
        ih (by omega), number_cons, List.length_cons]
      congr 2
      · omega
      · congr 1
        · ring
        · congr 1
          ring

theorem parseDecimals_eq_some {bytes rest : Text} {count value scale places decimals size : Nat}
    (parsed : PortSpeed.parseDecimals count value scale bytes =
      some (places, decimals, size, rest)) (few : count ≤ 3) :
    ∃ digits : List (Fin 10), bytes = digits.map digitByte ++ rest ∧
      places = count + digits.length ∧ decimals = value * 10 ^ digits.length + number digits ∧
      size = scale * 10 ^ digits.length ∧ places ≤ 3 := by
  induction bytes generalizing count value scale with
  | nil =>
      cases parsed
      exact ⟨[], rfl, by simp, by simp [number], by simp, few⟩
  | cons byte bytes ih =>
      rw [PortSpeed.parseDecimals] at parsed
      split at parsed
      · next decimal =>
          split at parsed
          · cases parsed
          · obtain ⟨digit, rfl⟩ := exists_digitByte decimal
            obtain ⟨digits, rfl, counted, read, scaled, short⟩ := ih parsed (by omega)
            refine ⟨digit :: digits, rfl, ?_, ?_, ?_, short⟩
            · rw [counted, List.length_cons]
              omega
            · rw [read, (digitByte_decimal digit).2.1, number_cons, List.length_cons]
              ring
            · rw [scaled, List.length_cons]
              ring
      · cases parsed
        exact ⟨[], rfl, by simp, by simp [number], by simp, few⟩

/-- There are one to three digits behind a point. -/
def Placed (decimals : Option (List (Fin 10))) : Prop :=
  ∀ digits, decimals = some digits → digits ≠ [] ∧ digits.length ≤ 3

theorem parseFraction_eq_some {rest : Text} {read scale : Nat}
    (parsed : PortSpeed.parseFraction rest = some (read, scale)) :
    ∃ decimals : Option (List (Fin 10)),
      rest = decimals.elim [] (fun digits => 0x2e :: digits.map digitByte) ∧ Placed decimals ∧
      read = number (decimals.getD []) ∧ scale = 10 ^ (decimals.getD []).length := by
  cases rest with
  | nil =>
      cases parsed
      refine ⟨none, rfl, ?_, rfl, rfl⟩
      intro digits absent
      cases absent
  | cons byte rest =>
      rw [PortSpeed.parseFraction] at parsed
      split at parsed
      · cases parsed
      next point =>
      split at parsed
      · cases parsed
      next places value size left scanned =>
      split at parsed
      · cases parsed
      next some_digit =>
      split at parsed
      · next complete =>
          cases parsed
          obtain ⟨digits, spelled, counted, read, scaled, few⟩ :=
            parseDecimals_eq_some scanned (Nat.zero_le _)
          rw [List.isEmpty_iff.mp complete, List.append_nil] at spelled
          rw [Nat.zero_add] at counted
          refine ⟨some digits, ?_, ?_, ?_, ?_⟩
          · rw [not_ne_iff.mp point, spelled]
            rfl
          · intro others same
            cases same
            refine ⟨?_, counted ▸ few⟩
            intro empty
            rw [empty] at counted
            exact some_digit counted
          · rw [read, Nat.zero_mul, Nat.zero_add]
            rfl
          · rw [scaled, Nat.one_mul]
            rfl
      · cases parsed

theorem parseFraction_spelled {decimals : Option (List (Fin 10))} (placed : Placed decimals) :
    PortSpeed.parseFraction (decimals.elim [] fun digits => 0x2e :: digits.map digitByte) =
      some (number (decimals.getD []), 10 ^ (decimals.getD []).length) := by
  cases decimals with
  | none => rfl
  | some digits =>
      obtain ⟨nonempty, few⟩ := placed digits rfl
      have counted : (0 : Nat) + digits.length ≠ 0 := by
        rw [Nat.zero_add]
        exact mt List.length_eq_zero_iff.mp nonempty
      have few : 0 + digits.length ≤ 3 := by omega
      rw [Option.elim_some, PortSpeed.parseFraction, if_neg (not_ne_iff.mpr rfl),
        parseDecimals_digits few]
      dsimp only
      rw [if_neg counted, Nat.zero_mul, Nat.zero_add, Nat.one_mul]
      rfl

end Scans

section Units

theorem RateUnit.factor_injective : Function.Injective RateUnit.factor := by
  intro first second same
  cases first <;> cases second <;> first | rfl | cases same

theorem RateUnit.factor_eq_one {unit : RateUnit} : unit.factor = 1 ↔ unit = .one := by
  cases unit <;> simp [RateUnit.factor]

theorem RateUnit.length_suffix {unit : RateUnit} {suffix : Text}
    (spelled : suffix ∈ unit.suffixes) : suffix.length ≤ 1 := by
  revert suffix
  cases unit <;> decide

theorem RateUnit.letter_mem {unit : RateUnit} {last upper lower : UInt8}
    (spellings : unit.suffixes = [[upper], [lower]])
    (ends : (last = upper || last = lower) = true) : [last] ∈ unit.suffixes := by
  rw [spellings]
  rcases Bool.or_eq_true_iff.mp ends with same | same
  · rw [of_decide_eq_true same]
    exact List.mem_cons_self
  · rw [of_decide_eq_true same]
    exact List.mem_cons_of_mem _ List.mem_cons_self

/-- Every text ends in the spelling of the unit it is read in. -/
theorem splitUnit_spec (value : Text) :
    ∃ unit : RateUnit, ∃ suffix ∈ unit.suffixes,
      (PortSpeed.splitUnit value).1 = unit.factor ∧
        value = (PortSpeed.splitUnit value).2 ++ suffix := by
  unfold PortSpeed.splitUnit
  cases ending : value.getLast? with
  | none => exact ⟨.one, [], by decide, rfl, (List.append_nil _).symm⟩
  | some last =>
      have whole : value = value.dropLast ++ [last] :=
        (List.dropLast_append_getLast? last ending).symm
      dsimp only
      split
      · next giga => exact ⟨.giga, [last], RateUnit.letter_mem rfl giga, rfl, whole⟩
      split
      · next mega => exact ⟨.mega, [last], RateUnit.letter_mem rfl mega, rfl, whole⟩
      split
      · next kilo => exact ⟨.kilo, [last], RateUnit.letter_mem rfl kilo, rfl, whole⟩
      · exact ⟨.one, [], by decide, rfl, (List.append_nil _).symm⟩

theorem spelledNumeral_bytes {numeral : Numeral} {byte : UInt8}
    (member : byte ∈ spelledNumeral numeral) : byte = 0x2e ∨ isDecimal byte = true := by
  have digits {figures : List (Fin 10)} (within : byte ∈ figures.map digitByte) :
      isDecimal byte = true := by
    obtain ⟨digit, _, rfl⟩ := List.mem_map.mp within
    exact (digitByte_decimal digit).1
  rw [spelledNumeral, Numeral.spelled] at member
  rcases List.mem_append.mp member with whole | behind
  · exact .inr (digits whole)
  · cases decimals : numeral.decimals with
    | none =>
        rw [decimals] at behind
        cases behind
    | some figures =>
        rw [decimals] at behind
        rcases List.mem_cons.mp behind with point | within
        · exact .inl point
        · exact .inr (digits within)

/-- A rate without the letter of a unit is its digits. -/
theorem splitUnit_unlettered {value : Text}
    (plain : ∀ byte ∈ value, byte = 0x2e ∨ isDecimal byte = true) :
    PortSpeed.splitUnit value = (1, value) := by
  unfold PortSpeed.splitUnit
  cases ending : value.getLast? with
  | none => rfl
  | some last =>
      have other {letter : UInt8} (point : letter ≠ 0x2e) (free : isDecimal letter = false) :
          last ≠ letter := by
        intro same
        subst same
        rcases plain _ (List.mem_of_getLast? ending) with dot | decimal
        · exact point dot
        · rw [free] at decimal
          cases decimal
      have letters : last ≠ 0x47 ∧ last ≠ 0x67 ∧ last ≠ 0x4d ∧ last ≠ 0x6d ∧ last ≠ 0x4b ∧
          last ≠ 0x6b := by
        refine ⟨other ?_ ?_, other ?_ ?_, other ?_ ?_, other ?_ ?_, other ?_ ?_, other ?_ ?_⟩ <;>
          decide
      simp [letters]

theorem splitUnit_concat (digits : Text) (letter : UInt8) :
    PortSpeed.splitUnit (digits ++ [letter]) =
      if letter = 0x47 || letter = 0x67 then (1000000000, digits)
      else if letter = 0x4d || letter = 0x6d then (1000000, digits)
      else if letter = 0x4b || letter = 0x6b then (1000, digits)
      else (1, digits ++ [letter]) := by
  rw [PortSpeed.splitUnit, List.getLast?_concat, List.dropLast_concat]

theorem splitUnit_spelled {value : Text} {numeral : Numeral} {unit : RateUnit}
    (spells : SpellsRate value numeral unit) :
    PortSpeed.splitUnit value = (unit.factor, spelledNumeral numeral) := by
  obtain ⟨suffix, spelled, rfl⟩ := spells
  cases unit with
  | one =>
      cases List.mem_singleton.mp spelled
      rw [List.append_nil]
      exact splitUnit_unlettered fun _ => spelledNumeral_bytes
  | _ =>
      simp only [RateUnit.suffixes, List.mem_cons, List.not_mem_nil, or_false] at spelled
      rcases spelled with rfl | rfl <;> exact splitUnit_concat _ _

/-- A text has one reading as a numeral and a unit. -/
theorem SpellsRate.unique {value : Text} {numeral other : Numeral} {unit also : RateUnit}
    (spells : SpellsRate value numeral unit) (spells' : SpellsRate value other also) :
    numeral = other ∧ unit = also := by
  obtain ⟨factors, spellings⟩ :=
    Prod.mk.inj ((splitUnit_spelled spells).symm.trans (splitUnit_spelled spells'))
  exact ⟨Numeral.spelled_inj digitByte_injective digitByte_ne_point spellings,
    RateUnit.factor_injective factors⟩

end Units

section Amounts

theorem checkedMultiply_eq_some {lhs rhs product : Nat} :
    checkedMultiply lhs rhs = some product ↔ lhs * rhs = product ∧ product ≤ maxU64 := by
  unfold checkedMultiply
  split
  · next exceeds =>
      obtain ⟨positive, large⟩ := exceeds
      refine iff_of_false (fun given => by cases given) ?_
      intro given
      rcases given with ⟨rfl, fits⟩
      rw [gt_iff_lt, Nat.div_lt_iff_lt_mul (Nat.pos_of_ne_zero positive), Nat.mul_comm] at large
      exact absurd fits (Nat.not_le.mpr large)
  · next within =>
      rw [not_and_or, not_ne_iff, Nat.not_lt] at within
      have fits : lhs * rhs ≤ maxU64 := by
        rcases within with rfl | bounded
        · rw [Nat.zero_mul]
          exact Nat.zero_le _
        · exact (Nat.mul_le_mul_left _ bounded).trans (Nat.mul_div_le _ _)
      constructor
      · intro given
        cases given
        exact ⟨rfl, fits⟩
      · intro given
        rw [given.1]

theorem checkedAdd_eq_some {lhs rhs sum : Nat} (fits : lhs ≤ maxU64) :
    checkedAdd lhs rhs = some sum ↔ lhs + rhs = sum ∧ sum ≤ maxU64 := by
  unfold checkedAdd
  split
  · next exceeds =>
      refine iff_of_false (fun given => by cases given) ?_
      intro given
      rcases given with ⟨rfl, within⟩
      omega
  · next within =>
      constructor
      · intro given
        cases given
        exact ⟨rfl, by omega⟩
      · intro given
        rw [given.1]

/-- Three digits behind the point are whole bits of every unit but the single bit. -/
theorem pow_dvd_factor {unit : RateUnit} {places : Nat} (lettered : unit ≠ .one)
    (few : places ≤ 3) : 10 ^ places ∣ unit.factor := by
  refine (Nat.pow_dvd_pow 10 few).trans ?_
  cases unit with
  | one => exact absurd rfl lettered
  | _ => decide

/-- The part behind the point is exact, and a single bit has none. -/
theorem scaleFraction_eq_some {unit : RateUnit} {behind : List (Fin 10)} {part : Nat}
    (few : behind.length ≤ 3) :
    PortSpeed.scaleFraction unit.factor (number behind) (10 ^ behind.length) = some part ↔
      (unit = .one → behind = []) ∧ fraction behind * unit.factor = part := by
  unfold PortSpeed.scaleFraction
  split
  · next plain =>
      have single := RateUnit.factor_eq_one.mp plain
      split
      · next scaled =>
          refine iff_of_false (fun given => by cases given) ?_
          intro given
          rw [given.1 single] at scaled
          exact scaled rfl
      · next unscaled =>
          have absent : behind = [] := by
            cases behind with
            | nil => rfl
            | cons digit digits =>
                rw [List.length_cons, not_ne_iff, Nat.pow_succ] at unscaled
                omega
          rw [absent, fraction, zero_mul, Option.some_inj]
          constructor
          · intro given
            exact ⟨fun _ => rfl, by exact_mod_cast given⟩
          · intro given
            exact_mod_cast given.2
  · next lettered =>
      rw [RateUnit.factor_eq_one] at lettered
      obtain ⟨size, whole⟩ := pow_dvd_factor lettered few
      have positive : 0 < 10 ^ behind.length := Nat.pow_pos (by decide)
      have quotient : unit.factor / 10 ^ behind.length = size := by
        rw [whole, Nat.mul_div_cancel_left _ positive]
      have nonzero : size ≠ 0 := by
        intro none
        rw [none, Nat.mul_zero] at whole
        cases unit <;> cases whole
      have exact_part : fraction behind * unit.factor = (number behind * size : Nat) := by
        rw [whole]
        push_cast
        rw [← fraction_mul_pow]
        ring
      have fits : number behind * size ≤ maxU64 := by
        calc number behind * size ≤ 10 ^ behind.length * size :=
              Nat.mul_le_mul_right _ (Nat.le_of_lt (number_lt behind))
          _ = unit.factor := whole.symm
          _ ≤ maxU64 := by cases unit <;> decide
      dsimp only
      rw [quotient, if_neg nonzero, checkedMultiply_eq_some, exact_part, Nat.cast_inj]
      constructor
      · intro given
        exact ⟨fun single => absurd single lettered, given.1⟩
      · intro given
        exact ⟨given.2, given.2 ▸ fits⟩

end Amounts

section Rates

/-- What the parser asks of a numeral besides its value: at most twenty bytes, at most
three digits behind a point, and no point without the letter of a unit. -/
structure Readable (numeral : Numeral) (unit : RateUnit) : Prop where
  nonempty : spelledNumeral numeral ≠ []
  short : (spelledNumeral numeral).length ≤ 20
  placed : Placed numeral.decimals
  whole_bits : unit = .one → numeral.decimals = none

theorem Placed.behind_length {numeral : Numeral} (placed : Placed numeral.decimals) :
    numeral.behind.length ≤ 3 := by
  rw [Numeral.behind]
  cases decimals : numeral.decimals with
  | none => exact Nat.zero_le _
  | some digits => exact (placed digits decimals).2

theorem Placed.behind_eq_nil {numeral : Numeral} (placed : Placed numeral.decimals) :
    numeral.behind = [] ↔ numeral.decimals = none := by
  rw [Numeral.behind]
  cases decimals : numeral.decimals with
  | none => exact iff_of_true rfl rfl
  | some digits =>
      exact iff_of_false (placed digits decimals).1 fun given => by cases given

/-- A rate that is a whole number of bits has whole bits before and behind the point. -/
theorem whole_parts {numeral : Numeral} {unit : RateUnit} {bits : Nat}
    (placed : Placed numeral.decimals) (whole_bits : unit = .one → numeral.decimals = none)
    (denoted : denotedRate numeral unit = (bits : ℚ)) :
    ∃ part : Nat, fraction numeral.behind * unit.factor = part ∧
      number numeral.whole * unit.factor + part = bits := by
  have part : ∃ part : Nat, fraction numeral.behind * unit.factor = part := by
    by_cases lettered : unit = .one
    · refine ⟨0, ?_⟩
      rw [placed.behind_eq_nil.mpr (whole_bits lettered), fraction, zero_mul, Nat.cast_zero]
    · obtain ⟨size, whole⟩ := pow_dvd_factor lettered placed.behind_length
      refine ⟨number numeral.behind * size, ?_⟩
      rw [whole]
      push_cast
      rw [← fraction_mul_pow]
      ring
  obtain ⟨part, scaled⟩ := part
  refine ⟨part, scaled, ?_⟩
  rw [denotedRate, Numeral.value, add_mul, scaled] at denoted
  exact_mod_cast denoted

theorem PortSpeed.bits_le (speed : PortSpeed) : speed.bitsPerSecond ≤ maxU64 := by
  have within := speed.lt_word
  rw [maxU64]
  omega

/-- The checked arithmetic computes the rate that the numeral denotes in the unit. -/
theorem amounts_eq_some {unit : RateUnit} {numeral : Numeral} {speed : PortSpeed}
    (placed : Placed numeral.decimals) :
    ((checkedMultiply (number numeral.whole) unit.factor).bind fun total =>
      (PortSpeed.scaleFraction unit.factor (number numeral.behind)
        (10 ^ numeral.behind.length)).bind fun fractional =>
      (checkedAdd total fractional).bind PortSpeed.fromBitsPerSecond) = some speed ↔
      (unit = .one → numeral.decimals = none) ∧ speed.valid = true ∧
        denotedRate numeral unit = (speed.bitsPerSecond : ℚ) := by
  simp only [Option.bind_eq_some_iff, PortSpeed.fromBits_eq_some,
    scaleFraction_eq_some placed.behind_length, placed.behind_eq_nil]
  constructor
  · intro given
    obtain ⟨total, multiplied, part, ⟨whole_bits, scaled⟩, bits, added, valid, same⟩ := given
    obtain ⟨product, fits⟩ := checkedMultiply_eq_some.mp multiplied
    obtain ⟨sum, _⟩ := (checkedAdd_eq_some fits).mp added
    refine ⟨whole_bits, valid, ?_⟩
    rw [denotedRate, Numeral.value, add_mul, scaled, same, ← sum, ← product]
    push_cast
    rfl
  · intro given
    obtain ⟨whole_bits, valid, denoted⟩ := given
    obtain ⟨part, scaled, sum⟩ := whole_parts placed whole_bits denoted
    have bounded := speed.bits_le
    have fits : number numeral.whole * unit.factor ≤ maxU64 := by omega
    exact ⟨_, checkedMultiply_eq_some.mpr ⟨rfl, fits⟩, part, ⟨whole_bits, scaled⟩, _,
      (checkedAdd_eq_some fits).mpr ⟨sum, bounded⟩, valid, rfl⟩

theorem parse_eq {value digits : Text} {multiplier : Nat}
    (split : PortSpeed.splitUnit value = (multiplier, digits)) (nonempty : digits ≠ [])
    (short : digits.length ≤ 20) (bounded : value.length ≤ 32) (present : value ≠ []) :
    PortSpeed.parse value =
      (PortSpeed.parseWhole 0 digits).bind fun scanned =>
        (PortSpeed.parseFraction scanned.2).bind fun behind =>
          (checkedMultiply scanned.1 multiplier).bind fun total =>
            (PortSpeed.scaleFraction multiplier behind.1 behind.2).bind fun fractional =>
              (checkedAdd total fractional).bind PortSpeed.fromBitsPerSecond := by
  have admitted : ¬(value.isEmpty || value.length > 32) = true := by
    simp [present, bounded]
  have admitted' : ¬(digits.isEmpty || digits.length > 20) = true := by
    simp [nonempty, short]
  rw [PortSpeed.parse, if_neg admitted, split]
  dsimp only
  rw [if_neg admitted']
  rfl

theorem admitted_of_parse {value : Text} {speed : PortSpeed}
    (parsed : PortSpeed.parse value = some speed) :
    (PortSpeed.splitUnit value).2 ≠ [] ∧ (PortSpeed.splitUnit value).2.length ≤ 20 ∧
      value.length ≤ 32 ∧ value ≠ [] := by
  rw [PortSpeed.parse] at parsed
  split at parsed
  · cases parsed
  next admitted =>
  dsimp only at parsed
  split at parsed
  · cases parsed
  next admitted' =>
  simp only [Bool.or_eq_true, List.isEmpty_iff, decide_eq_true_eq, not_or, Nat.not_lt,
    gt_iff_lt] at admitted admitted'
  exact ⟨admitted'.1, admitted'.2, admitted.2, admitted.1⟩

theorem stops_behind (decimals : Option (List (Fin 10))) :
    Stops (decimals.elim [] fun digits => 0x2e :: digits.map digitByte) := by
  intro byte first
  cases decimals with
  | none => cases first
  | some digits =>
      cases first
      decide

/-- A text that spells a rate within the parser's bounds is read as it. -/
theorem parse_spelled {value : Text} {numeral : Numeral} {unit : RateUnit} {speed : PortSpeed}
    (spells : SpellsRate value numeral unit) (readable : Readable numeral unit)
    (valid : speed.valid = true) (denoted : denotedRate numeral unit = (speed.bitsPerSecond : ℚ)) :
    PortSpeed.parse value = some speed := by
  have split := splitUnit_spelled spells
  obtain ⟨suffix, spelled, rfl⟩ := spells
  have single := RateUnit.length_suffix spelled
  have short := readable.short
  have bounded : (spelledNumeral numeral ++ suffix).length ≤ 32 := by
    rw [List.length_append]
    omega
  have fits : 0 * 10 ^ numeral.whole.length + number numeral.whole ≤ maxU64 := by
    obtain ⟨part, _, sum⟩ := whole_parts readable.placed readable.whole_bits denoted
    have positive : 0 < unit.factor := by cases unit <;> decide
    have grown := Nat.le_mul_of_pos_right (number numeral.whole) positive
    have bound := speed.bits_le
    omega
  rw [parse_eq split readable.nonempty short bounded
      (List.append_ne_nil_of_left_ne_nil readable.nonempty _),
    spelledNumeral, Numeral.spelled, parseWhole_digits (stops_behind _) fits, Option.bind_some,
    parseFraction_spelled readable.placed, Option.bind_some, Nat.zero_mul, Nat.zero_add]
  exact (amounts_eq_some readable.placed).mpr ⟨readable.whole_bits, valid, denoted⟩

/-- An accepted text spells the rate that it is read as. -/
theorem spells_of_parse {value : Text} {speed : PortSpeed}
    (parsed : PortSpeed.parse value = some speed) :
    ∃ numeral unit, SpellsRate value numeral unit ∧ Readable numeral unit ∧
      speed.valid = true ∧ denotedRate numeral unit = (speed.bitsPerSecond : ℚ) := by
  obtain ⟨nonempty, short, bounded, present⟩ := admitted_of_parse parsed
  obtain ⟨unit, suffix, ending, factor, whole_text⟩ := splitUnit_spec value
  rw [parse_eq Prod.mk.eta.symm nonempty short bounded present, factor] at parsed
  obtain ⟨⟨whole, rest⟩, scanned, parsed⟩ := Option.bind_eq_some_iff.mp parsed
  obtain ⟨⟨behind, scale⟩, fraction, parsed⟩ := Option.bind_eq_some_iff.mp parsed
  obtain ⟨digits, spelled, read, _⟩ := parseWhole_eq_some scanned
  obtain ⟨decimals, rfl, placed, rfl, rfl⟩ := parseFraction_eq_some fraction
  rw [Nat.zero_mul, Nat.zero_add] at read
  cases read
  have numeral_text : (PortSpeed.splitUnit value).2 = spelledNumeral ⟨digits, decimals⟩ := spelled
  rw [numeral_text] at nonempty short whole_text
  obtain ⟨whole_bits, valid, denoted⟩ :=
    (@amounts_eq_some unit ⟨digits, decimals⟩ speed placed).mp parsed
  exact ⟨⟨digits, decimals⟩, unit, ⟨suffix, ending, whole_text⟩,
    ⟨nonempty, short, placed, whole_bits⟩, valid, denoted⟩

/-- The texts that are read as a rate. -/
theorem parse_eq_some {value : Text} {speed : PortSpeed} :
    PortSpeed.parse value = some speed ↔
      ∃ numeral unit, SpellsRate value numeral unit ∧ Readable numeral unit ∧
        speed.valid = true ∧ denotedRate numeral unit = (speed.bitsPerSecond : ℚ) := by
  constructor
  · exact spells_of_parse
  · intro given
    obtain ⟨numeral, unit, spells, readable, valid, denoted⟩ := given
    exact parse_spelled spells readable valid denoted

end Rates

section Renderings

theorem exists_digits_formatU64_lt {value places : Nat} (small : value < 10 ^ (places + 1)) :
    ∃ digits : List (Fin 10), formatU64 value = digits.map digitByte ∧ number digits = value ∧
      digits.length ≤ places + 1 := by
  obtain ⟨digits, same, read⟩ := exists_digits_formatU64 value
  have length : (formatU64 value).length ≤ places + 1 := by
    rw [formatU64, List.length_map]
    exact (Nat.length_toDigits_le_iff (by decide) (Nat.succ_pos _)).mpr small
  rw [same, List.length_map] at length
  exact ⟨digits, same, read, length⟩

/-- A rate of whole units, rendered without a point. -/
theorem spells_whole {bits : Nat} {unit : RateUnit} {suffix : Text}
    (spelled : suffix ∈ unit.suffixes) (whole : bits % unit.factor = 0) (bounded : bits < 10 ^ 13) :
    ∃ numeral, SpellsRate (formatU64 (bits / unit.factor) ++ suffix) numeral unit ∧
      Readable numeral unit ∧ denotedRate numeral unit = (bits : ℚ) := by
  have small : bits / unit.factor < 10 ^ 13 := Nat.lt_of_le_of_lt (Nat.div_le_self ..) bounded
  obtain ⟨digits, same, read, short⟩ := exists_digits_formatU64_lt small
  have rendered : spelledNumeral ⟨digits, none⟩ = formatU64 (bits / unit.factor) := by
    rw [same]
    exact List.append_nil _
  refine ⟨⟨digits, none⟩, ⟨suffix, spelled, by rw [rendered]⟩, ⟨?_, ?_, ?_, fun _ => rfl⟩, ?_⟩
  · rw [rendered]
    exact formatU64_ne_nil _
  · rw [rendered, same, List.length_map]
    omega
  · intro digits absent
    cases absent
  · rw [denotedRate, Numeral.value, Numeral.behind, Option.getD_none, fraction, add_zero, read]
    exact_mod_cast Nat.div_mul_cancel (Nat.dvd_of_mod_eq_zero whole)

theorem isDecimal_padFraction {places remainder : Nat} {byte : UInt8}
    (member : byte ∈ PortSpeed.padFraction places remainder) : isDecimal byte = true := by
  induction places with
  | zero => cases member
  | succ places ih =>
      rw [PortSpeed.padFraction] at member
      split at member
      · rcases List.mem_cons.mp member with zero | within
        · rw [zero]
          decide
        · exact ih within
      · cases member

/-- The digits behind the point of a rate in gigabits. -/
theorem exists_fractionDigits {remainder : Nat} (small : remainder < 1000) :
    ∃ digits : List (Fin 10), PortSpeed.fractionDigits remainder = digits.map digitByte ∧
      digits ≠ [] ∧ digits.length ≤ 3 ∧ fraction digits * 1000 = remainder := by
  have places : remainder < 10 ^ (2 + 1) := small
  obtain ⟨fits, below, restored⟩ := PortSpeed.trimFraction_spec places
  obtain ⟨length, value⟩ := PortSpeed.padFraction_spec below
  have decimal : ∀ byte ∈ PortSpeed.fractionDigits remainder, isDecimal byte = true := by
    intro byte member
    rcases List.mem_append.mp member with padding | figure
    · exact isDecimal_padFraction padding
    · exact isDecimal_of_mem figure
  obtain ⟨digits, same, read⟩ := exists_digits decimal
  have counted : digits.length = (PortSpeed.trimFraction 2 remainder).1 + 1 := by
    rw [← length, ← List.length_map (f := digitByte), ← same, PortSpeed.fractionDigits]
  have whole : number digits = (PortSpeed.trimFraction 2 remainder).2 := by
    have started := read 0
    rw [Nat.zero_mul, Nat.zero_add] at started
    exact started.symm.trans value
  refine ⟨digits, same, ?_, by omega, ?_⟩
  · intro empty
    rw [empty] at counted
    cases counted
  · have scale : (1000 : ℚ) =
        10 ^ digits.length * 10 ^ (2 - (PortSpeed.trimFraction 2 remainder).1) := by
      rw [← pow_add, counted]
      have sum : (PortSpeed.trimFraction 2 remainder).1 + 1 +
          (2 - (PortSpeed.trimFraction 2 remainder).1) = 3 := by omega
      rw [sum]
      norm_num
    rw [scale, ← mul_assoc, fraction_mul_pow, whole]
    exact_mod_cast restored

/-- A count of gigabits, rendered with a fraction. -/
theorem spells_fraction {count remainder : Nat} (small : count < 10 ^ 13)
    (below : remainder < 1000) :
    ∃ numeral,
      SpellsRate (formatU64 count ++ text "." ++ PortSpeed.fractionDigits remainder ++ text "G")
        numeral .giga ∧ Readable numeral .giga ∧
      denotedRate numeral .giga = (count * 1000000000 + remainder * 1000000 : Nat) := by
  obtain ⟨digits, same, read, short⟩ := exists_digits_formatU64_lt small
  obtain ⟨figures, same', nonempty, few, value⟩ := exists_fractionDigits below
  have rendered : spelledNumeral ⟨digits, some figures⟩ =
      formatU64 count ++ text "." ++ PortSpeed.fractionDigits remainder := by
    rw [same, same', List.append_assoc]
    rfl
  refine ⟨⟨digits, some figures⟩, ⟨text "G", by decide, by rw [rendered]⟩,
    ⟨?_, ?_, ?_, fun plain => by cases plain⟩, ?_⟩
  · rw [rendered, List.append_assoc]
    exact List.append_ne_nil_of_left_ne_nil (formatU64_ne_nil _) _
  · have point : (text ".").length = 1 := rfl
    rw [rendered, same, same', List.length_append, List.length_append, List.length_map,
      List.length_map, point]
    omega
  · intro others present
    cases present
    exact ⟨nonempty, few⟩
  · rw [denotedRate, Numeral.value, Numeral.behind, Option.getD_some, read, RateUnit.factor]
    push_cast
    rw [← value]
    ring

/-- Every rate is rendered as a numeral and a unit that the parser reads as it. -/
theorem toText_spells {speed : PortSpeed} (valid : speed.valid = true) :
    ∃ numeral unit, SpellsRate speed.toText numeral unit ∧ Readable numeral unit ∧
      denotedRate numeral unit = (speed.bitsPerSecond : ℚ) := by
  have bounded : speed.bitsPerSecond ≤ maxSpeedBitsPerSecond := by
    rcases speed.inRange with zero | range
    · rw [zero]
      exact Nat.zero_le _
    · exact range.2
  have small : speed.bitsPerSecond < 10 ^ 13 := Nat.lt_of_le_of_lt bounded (by decide)
  simp only [PortSpeed.toText, valid, Bool.not_true, Bool.false_eq_true, if_false]
  split
  · next whole =>
      obtain ⟨numeral, spelled⟩ := @spells_whole _ .giga (text "G") (by decide) whole small
      exact ⟨numeral, .giga, spelled⟩
  split
  · obtain ⟨numeral, spells, readable, denoted⟩ := @spells_fraction
      (speed.bitsPerSecond / 1000000000) (speed.bitsPerSecond % 1000000000 / 1000000)
      (by omega) (by omega)
    refine ⟨numeral, .giga, spells, readable, ?_⟩
    have restored : speed.bitsPerSecond / 1000000000 * 1000000000 +
        speed.bitsPerSecond % 1000000000 / 1000000 * 1000000 = speed.bitsPerSecond := by
      omega
    rw [denoted, restored]
  split
  · next whole =>
      obtain ⟨numeral, spelled⟩ := @spells_whole _ .mega (text "M") (by decide) whole small
      exact ⟨numeral, .mega, spelled⟩
  split
  · next whole =>
      obtain ⟨numeral, spelled⟩ := @spells_whole _ .kilo (text "K") (by decide) whole small
      exact ⟨numeral, .kilo, spelled⟩
  · obtain ⟨numeral, spelled⟩ := @spells_whole _ .one [] (by decide) (Nat.mod_one _) small
    rw [RateUnit.factor, Nat.div_one, List.append_nil] at spelled
    exact ⟨numeral, .one, spelled⟩

end Renderings

/-- The rendering of every rate is read back as that rate, and every accepted text
spells one rational number, which is the rate that is read. -/
theorem speeds_read_exactly :
    (∀ speed : PortSpeed, speed.valid = true → PortSpeed.parse speed.toText = some speed) ∧
      ∀ (value : Text) (speed : PortSpeed), PortSpeed.parse value = some speed →
        (∃ numeral unit, SpellsRate value numeral unit) ∧
          ∀ numeral unit, SpellsRate value numeral unit →
            denotedRate numeral unit = (speed.bitsPerSecond : ℚ) := by
  constructor
  · intro speed valid
    obtain ⟨numeral, unit, spells, readable, denoted⟩ := toText_spells valid
    exact parse_eq_some.mpr ⟨numeral, unit, spells, readable, valid, denoted⟩
  · intro value speed parsed
    obtain ⟨numeral, unit, spells, _, _, denoted⟩ := parse_eq_some.mp parsed
    refine ⟨⟨numeral, unit, spells⟩, ?_⟩
    intro other also spells'
    obtain ⟨same, same'⟩ := spells'.unique spells
    rw [same, same', denoted]

namespace SpeedTexts

/-- Two and a half gigabits per second. -/
def rate : PortSpeed := ⟨2500000000, by decide⟩

theorem fraction_read_exactly :
    PortSpeed.parse rate.toText = some rate ∧
      denotedRate ⟨[2], some [5]⟩ .giga = (rate.bitsPerSecond : ℚ) := by
  have read := speeds_read_exactly.1 rate (by decide)
  refine ⟨read, (speeds_read_exactly.2 _ _ read).2 ⟨[2], some [5]⟩ .giga ⟨text "G", ?_, ?_⟩⟩
  · decide
  · decide

end SpeedTexts

end PortFabric
