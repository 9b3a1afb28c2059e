import Mathlib.Data.Int.Bitwise
import Mathlib.Data.Nat.Bitwise
import Mathlib.Tactic.Common

/-!
# Python integers

`int(s, 16)` and the format `f"{n:0wX}"`, with everything the interpreter lets through: white space
around the number, a sign, a prefix `0x`, single underscores between digits, and the decimal digits
of every script. Integers are unbounded, and `&` and `>>` work on two's complement of unbounded
width, which is what `Int.land` and `Int.shiftRight` do.

## Main definitions

- `intBase16` — `int(s, 16)`, with `none` for `ValueError`
- `hexUpper` — `f"{n:0wX}"`

## Main results

- `intBase16_hexUpper` — parsing reads back what was formatted
- `land_two_pow_sub_one` — a mask of ones takes the remainder
- `byteOf_two`, `byteOf_three` — what the bytes cut out of a number still say about it
-/

namespace Foundations

/-! Parsing -/

/-- The code points of digit zero in the blocks of decimal digits beyond ASCII (Unicode 15.0). -/
def decimalZeros : List Nat :=
  [0x660, 0x6f0, 0x7c0, 0x966, 0x9e6, 0xa66, 0xae6, 0xb66, 0xbe6, 0xc66, 0xce6, 0xd66, 0xde6, 0xe50,
    0xed0, 0xf20, 0x1040, 0x1090, 0x17e0, 0x1810, 0x1946, 0x19d0, 0x1a80, 0x1a90, 0x1b50, 0x1bb0,
    0x1c40, 0x1c50, 0xa620, 0xa8d0, 0xa900, 0xa9d0, 0xa9f0, 0xaa50, 0xabf0, 0xff10, 0x104a0,
    0x10d30, 0x11066, 0x110f0, 0x11136, 0x111d0, 0x112f0, 0x11450, 0x114d0, 0x11650, 0x116c0,
    0x11730, 0x118e0, 0x11950, 0x11c50, 0x11d50, 0x11da0, 0x11f50, 0x16a60, 0x16ac0, 0x16b50,
    0x1d7ce, 0x1d7d8, 0x1d7e2, 0x1d7ec, 0x1d7f6, 0x1e140, 0x1e2f0, 0x1e4f0, 0x1e950, 0x1fbf0]

/-- White space beyond ASCII. -/
def spacesBeyondAscii : List Nat :=
  [0x85, 0xa0, 0x1680, 0x2000, 0x2001, 0x2002, 0x2003, 0x2004, 0x2005, 0x2006, 0x2007, 0x2008,
    0x2009, 0x200a, 0x2028, 0x2029, 0x202f, 0x205f, 0x3000]

/-- White space and decimal digits of all scripts become ASCII; any other character beyond ASCII
becomes one that no number contains. -/
def toAscii (c : Char) : Char :=
  if c.toNat < 127 then c
  else if c.toNat ∈ spacesBeyondAscii then ' '
  else
    match decimalZeros.find? fun z => z ≤ c.toNat && c.toNat < z + 10 with
    | some z => Char.ofNat ('0'.toNat + (c.toNat - z))
    | none => '?'

def isAsciiSpace (c : Char) : Bool :=
  c == ' ' || c == '\t' || c == '\n' || c == '\x0b' || c == '\x0c' || c == '\r'

/-- The value of a hexadecimal digit. -/
def hexDigitValue (c : Char) : Option Nat :=
  if '0' ≤ c ∧ c ≤ '9' then some (c.toNat - '0'.toNat)
  else if 'a' ≤ c ∧ c ≤ 'f' then some (c.toNat - 'a'.toNat + 10)
  else if 'A' ≤ c ∧ c ≤ 'F' then some (c.toNat - 'A'.toNat + 10)
  else none

/-- Read digits with single underscores between them, and return the rest of the text. -/
def scanDigits (acc : Nat) (afterUnderscore : Bool) : List Char → Option (Nat × List Char)
  | [] => if afterUnderscore then none else some (acc, [])
  | c :: cs =>
    -- an underscore stands between two digits, so neither another one nor the end may follow it
    if c = '_' then if afterUnderscore then none else scanDigits acc true cs
    else
      match hexDigitValue c with
      | some d => scanDigits (acc * 16 + d) false cs
      | none => if afterUnderscore then none else some (acc, c :: cs)

/-- Take off a sign; `true` stands for minus. -/
def takeSign : List Char → Bool × List Char
  | '+' :: cs => (false, cs)
  | '-' :: cs => (true, cs)
  | cs => (false, cs)

/-- Take off a prefix `0x`, and one underscore after it. -/
def takePrefix : List Char → List Char
  | '0' :: 'x' :: '_' :: cs | '0' :: 'X' :: '_' :: cs => cs
  | '0' :: 'x' :: cs | '0' :: 'X' :: cs => cs
  | cs => cs

/-- The number in a text that starts with a digit and ends in white space. -/
def scanNumber : List Char → Option Nat
  | [] => none
  | c :: cs =>
    if (hexDigitValue c).isNone then none
    else
      match scanDigits 0 false (c :: cs) with
      | some (n, rest) => if rest.all isAsciiSpace then some n else none
      | none => none

/-- `int(s, 16)`. -/
def intBase16 (s : String) : Option Int :=
  let (negative, cs) := takeSign ((s.toList.map toAscii).dropWhile isAsciiSpace)
  (scanNumber (takePrefix cs)).map fun n : Nat => if negative then -(n : Int) else (n : Int)

example : intBase16 "0xCF10" = some 0xCF10 := by decide

example : intBase16 " -0X_1_f\n" = some (-31) := by decide

/-! Formatting -/

/-- The digits of a natural number in base 16, as `%X` writes them. -/
def hexDigits (n : Nat) : List Char := (Nat.toDigits 16 n).map Char.toUpper

/-- `f"{n:0wX}"`: the sign comes first, and the zeros after it. -/
def hexUpper (width : Nat) (n : Int) : String :=
  let sign := if n < 0 then ['-'] else []
  let digits := hexDigits n.natAbs
  String.ofList (sign ++ List.replicate (width - (sign.length + digits.length)) '0' ++ digits)

/-! Reading back what was formatted -/

/-- The digit `%X` writes for a value below 16. -/
def upperDigit (d : Nat) : Char := (Nat.digitChar d).toUpper

/-- The value of digits, behind digits of value `acc`. -/
def valueOfDigits (acc : Nat) (ds : List Nat) : Nat := ds.foldl (fun n d => n * 16 + d) acc

theorem valueOfDigits_replicate_zero (k : Nat) (ds : List Nat) :
    valueOfDigits 0 (List.replicate k 0 ++ ds) = valueOfDigits 0 ds := by
  induction k with
  | zero => rfl
  | succ k ih => exact ih

theorem exists_hexDigits (n : Nat) : ∃ ds : List Nat, ds ≠ [] ∧ (∀ d ∈ ds, d < 16) ∧
    hexDigits n = ds.map upperDigit ∧ valueOfDigits 0 ds = n := by
  induction n using Nat.strongRecOn with
  | ind n ih =>
    by_cases hn : n < 16
    · refine ⟨[n], by simp, by simpa using hn, ?_, by simp [valueOfDigits]⟩
      rw [hexDigits, Nat.toDigits_of_lt_base hn]
      rfl
    · -- the digits of `n / 16`, and the last one behind them
      obtain ⟨ds, hne, hds, hdigits, hvalue⟩ := ih (n / 16) (by omega)
      refine ⟨ds ++ [n % 16], by simp, ?_, ?_, ?_⟩
      · intro d hd
        rcases List.mem_append.mp hd with hd | hd
        · exact hds d hd
        · rw [List.mem_singleton.mp hd]
          omega
      · rw [hexDigits, Nat.toDigits_of_base_le (by decide) (by omega), List.map_append, ← hexDigits,
          hdigits, List.map_append]
        rfl
      · have hlast : valueOfDigits 0 (ds ++ [n % 16]) = valueOfDigits 0 ds * 16 + n % 16 := by
          simp [valueOfDigits]
        rw [hlast, hvalue]
        omega

/-- What parsing sees of a digit. -/
theorem upperDigit_spec : ∀ d < 16, hexDigitValue (upperDigit d) = some d ∧ upperDigit d ≠ '_' ∧
    toAscii (upperDigit d) = upperDigit d := by
  decide

theorem scanDigits_upperDigits (ds : List Nat) (h : ∀ d ∈ ds, d < 16) (acc : Nat) :
    scanDigits acc false (ds.map upperDigit) = some (valueOfDigits acc ds, []) := by
  induction ds generalizing acc with
  | nil => rfl
  | cons d ds ih =>
    obtain ⟨hd, hds⟩ := List.forall_mem_cons.mp h
    obtain ⟨hvalue, hunderscore, -⟩ := upperDigit_spec d hd
    rw [List.map_cons, scanDigits, if_neg hunderscore, hvalue]
    exact ih hds _

theorem scanNumber_upperDigits {ds : List Nat} (hne : ds ≠ []) (h : ∀ d ∈ ds, d < 16) :
    scanNumber (ds.map upperDigit) = some (valueOfDigits 0 ds) := by
  have hscan := scanDigits_upperDigits ds h 0
  cases ds with
  | nil => exact absurd rfl hne
  | cons d ds =>
    obtain ⟨hvalue, -, -⟩ := upperDigit_spec d (h d List.mem_cons_self)
    rw [List.map_cons] at hscan ⊢
    rw [scanNumber, hvalue, hscan]
    rfl

/-- `int(f"0x{n:0wX}", 16)` is `n`. -/
theorem intBase16_hexUpper (width n : Nat) :
    intBase16 ("0x" ++ hexUpper width n) = some (n : Int) := by
  obtain ⟨ds, hne, hds, hdigits, hvalue⟩ := exists_hexDigits n
  let zeros := List.replicate (width - ds.length) 0
  have hall : ∀ d ∈ zeros ++ ds, d < 16 := by
    intro d hd
    rcases List.mem_append.mp hd with hd | hd
    · rw [List.eq_of_mem_replicate hd]
      decide
    · exact hds d hd
  have htext : (hexUpper width n).toList = (zeros ++ ds).map upperDigit := by
    have hn : ¬ (n : Int) < 0 := by omega
    simp only [hexUpper, hn, if_false, String.toList_ofList, Int.natAbs_natCast, hdigits,
      List.nil_append, List.length_nil, List.length_map, Nat.zero_add, List.map_append,
      List.map_replicate, zeros]
    rfl
  have hascii : ((zeros ++ ds).map upperDigit).map toAscii = (zeros ++ ds).map upperDigit := by
    rw [List.map_map]
    exact List.map_congr_left fun d hd => (upperDigit_spec d (hall d hd)).2.2
  have hne' : zeros ++ ds ≠ [] := by simp [hne]
  -- the underscore that may follow the prefix is no digit, so only `0x` is taken off
  have htake : takePrefix ('0' :: 'x' :: (zeros ++ ds).map upperDigit) =
      (zeros ++ ds).map upperDigit := by
    cases hd : zeros ++ ds with
    | nil => exact absurd hd hne'
    | cons d rest =>
      have hunderscore := (upperDigit_spec d (hall d (hd ▸ List.mem_cons_self))).2.1
      rw [List.map_cons, takePrefix]
      · simpa using hunderscore
  have hscan : scanNumber ((zeros ++ ds).map upperDigit) = some n := by
    rw [scanNumber_upperDigits hne' hall, valueOfDigits_replicate_zero, hvalue]
  unfold intBase16
  rw [String.toList_append, htext, List.map_append, hascii]
  show (scanNumber (takePrefix ('0' :: 'x' :: (zeros ++ ds).map upperDigit))).map _ = _
  rw [htake, hscan]
  rfl

/-! Masks and shifts -/

/-- Masking with `2 ^ k - 1` takes the remainder, for negative numbers too. -/
theorem land_two_pow_sub_one (n : Int) (k : Nat) :
    Int.land n ((2 ^ k - 1 : Nat) : Int) = n % 2 ^ k := by
  cases n with
  | ofNat m =>
    show ((m &&& (2 ^ k - 1) : Nat) : Int) = _
    rw [Nat.and_two_pow_sub_one_eq_mod]
    simp
  | negSucc m =>
    -- the bits of a negative number are those of `m`, complemented
    show ((Nat.ldiff (2 ^ k - 1) m : Nat) : Int) = _
    have hlt : m % 2 ^ k < 2 ^ k := Nat.mod_lt _ (Nat.two_pow_pos k)
    have hdiff : Nat.ldiff (2 ^ k - 1) m = 2 ^ k - (m % 2 ^ k + 1) := by
      apply Nat.eq_of_testBit_eq
      intro i
      rw [Nat.testBit_ldiff, Nat.testBit_two_pow_sub_succ hlt, Nat.testBit_two_pow_sub_one,
        Nat.testBit_mod_two_pow]
      by_cases hi : i < k <;> simp [hi]
    have hpow : ((2 ^ k : Nat) : Int) = 2 ^ k := by push_cast; rfl
    rw [hdiff, Int.negSucc_emod _ (Int.pow_pos (by decide)), ← hpow, ← Int.natCast_mod]
    omega

theorem emod_two_pow_eq_self_iff (n : Int) (k : Nat) : n % 2 ^ k = n ↔ 0 ≤ n ∧ n < 2 ^ k := by
  have hpos : (0 : Int) < 2 ^ k := Int.pow_pos (by decide)
  constructor
  · intro h
    have h₀ := Int.emod_nonneg n (Int.ne_of_gt hpos)
    have hlt := Int.emod_lt_of_pos n hpos
    rw [h] at h₀ hlt
    exact ⟨h₀, hlt⟩
  · rintro ⟨h₀, hlt⟩
    exact Int.emod_eq_of_lt h₀ hlt

/-- The byte `(n >> shift) & 0xFF`. -/
def byteOf (n : Int) (shift : Nat) : Int := Int.land (n >>> shift) 0xFF

theorem byteOf_eq (n : Int) (shift : Nat) : byteOf n shift = n / 2 ^ shift % 256 := by
  rw [byteOf, Int.shiftRight_eq_div_pow]
  exact land_two_pow_sub_one _ 8

theorem byteOf_nonneg (n : Int) (shift : Nat) : 0 ≤ byteOf n shift := by
  rw [byteOf_eq]
  exact Int.emod_nonneg _ (by decide)

theorem byteOf_lt (n : Int) (shift : Nat) : byteOf n shift < 256 := by
  rw [byteOf_eq]
  exact Int.emod_lt_of_pos _ (by decide)

/-- Two bytes cut out of a number give it back modulo `2 ^ 16`. -/
theorem byteOf_two (n : Int) : byteOf n 8 * 2 ^ 8 + byteOf n 0 = n % 2 ^ 16 := by
  simp only [byteOf_eq]
  omega

theorem byteOf_three (n : Int) :
    byteOf n 16 * 2 ^ 16 + byteOf n 8 * 2 ^ 8 + byteOf n 0 = n % 2 ^ 24 := by
  simp only [byteOf_eq]
  omega

/-- A byte meets only the last byte of a mask. -/
theorem land_byte (b : UInt8) (m : Int) :
    Int.land (b.toNat : Int) m = ((b.toNat &&& (byteOf m 0).toNat : Nat) : Int) := by
  have hb : ∀ i, 8 ≤ i → b.toNat.testBit i = false := fun i hi =>
    Nat.testBit_lt_two_pow (Nat.lt_of_lt_of_le b.toNat_lt (Nat.pow_le_pow_right (by decide) hi))
  cases m with
  | ofNat m =>
    have hm : (byteOf (Int.ofNat m) 0).toNat = m % 2 ^ 8 := by
      rw [byteOf_eq]
      simp only [Int.ofNat_eq_natCast]
      omega
    show ((b.toNat &&& m : Nat) : Int) = _
    rw [hm]
    refine congrArg Nat.cast (Nat.eq_of_testBit_eq fun i => ?_)
    rw [Nat.testBit_and, Nat.testBit_and, Nat.testBit_mod_two_pow]
    by_cases hi : i < 8
    · simp [hi]
    · simp [hb i (by omega)]
  | negSucc m =>
    -- complementing a number complements its last byte
    have hlt : m % 2 ^ 8 < 2 ^ 8 := Nat.mod_lt _ (by decide)
    have hm : (byteOf (Int.negSucc m) 0).toNat = 2 ^ 8 - (m % 2 ^ 8 + 1) := by
      rw [byteOf_eq]
      omega
    show ((Nat.ldiff b.toNat m : Nat) : Int) = _
    rw [hm]
    refine congrArg Nat.cast (Nat.eq_of_testBit_eq fun i => ?_)
    rw [Nat.testBit_ldiff, Nat.testBit_and, Nat.testBit_two_pow_sub_succ hlt,
      Nat.testBit_mod_two_pow]
    by_cases hi : i < 8
    · simp [hi]
    · simp [hb i (by omega)]

end Foundations
