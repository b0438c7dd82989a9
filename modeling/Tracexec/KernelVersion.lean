/-
The kernel version check of main.rs: `is_current_kernel_greater_than`, with the
`atoi` crate's parser that it calls on each field.

The release string from `uname` is cut at its first byte that is neither an
ASCII digit nor `.`, split on `.`, and its first two fields are parsed as `u32`.
The result compares the pair lexicographically with the minimum.  The main
theorem characterises the outcome on every release string: it is `Ok` exactly
when the first two fields of the digits-and-dots prefix are non-empty numerals
that fit in a `u32`, with the comparison of their values, and an error otherwise.

The `uname` call itself, and the logging around the check, are not modelled.
-/

import Mathlib.Algebra.Group.Nat.Basic
import Mathlib.Data.Prod.Lex
import Mathlib.Data.List.Basic

namespace Tracexec.KernelVersion

/-- `u8::is_ascii_digit`. -/
def isAsciiDigit (byte : UInt8) : Bool := 48 ≤ byte.toNat && byte.toNat ≤ 57

/-! ### The `atoi` crate -/

/-- `ascii_to_digit`. -/
def asciiToDigit (byte : UInt8) : Option UInt32 :=
  if isAsciiDigit byte then some (UInt32.ofNat (byte.toNat - 48)) else none

def checkedMul (a b : UInt32) : Option UInt32 :=
  if a.toNat * b.toNat < UInt32.size then some (UInt32.ofNat (a.toNat * b.toNat)) else none

def checkedAdd (a b : UInt32) : Option UInt32 :=
  if a.toNat + b.toNat < UInt32.size then some (UInt32.ofNat (a.toNat + b.toNat)) else none

def checkedSub (a b : UInt32) : Option UInt32 :=
  if b.toNat ≤ a.toNat then some (UInt32.ofNat (a.toNat - b.toNat)) else none

/-- The digit loops of `from_radix_10_signed_checked`: each digit multiplies the
number by ten and `apply`s the digit (adds it, or subtracts it after a `-`),
until a byte that is not a digit.  The crate reads the first digits, which
cannot overflow, without checks; checked steps give the same number on them.
Returns the number and how many digits were read. -/
def parseDigits (apply : UInt32 → UInt32 → Option UInt32) :
    Option UInt32 → List UInt8 → Option UInt32 × Nat
  | number, [] => (number, 0)
  | number, byte :: rest =>
      match asciiToDigit byte with
      | none => (number, 0)
      | some digit =>
          let result := parseDigits apply ((number.bind (checkedMul · 10)).bind (apply · digit)) rest
          (result.1, result.2 + 1)

/-- `from_radix_10_signed_checked`: an optional sign, then digits.  Returns the
number and the index after the last byte read. -/
def fromRadix10SignedChecked : List UInt8 → Option UInt32 × Nat
  | 43 :: rest =>
      let result := parseDigits checkedAdd (some 0) rest
      (result.1, result.2 + 1)
  | 45 :: rest =>
      let result := parseDigits checkedSub (some 0) rest
      (result.1, result.2 + 1)
  | text => parseDigits checkedAdd (some 0) text

/-- `atoi::<u32>`: `None` when nothing was read or the number overflowed. -/
def atoi (text : List UInt8) : Option UInt32 :=
  match fromRadix10SignedChecked text with
  | (_, 0) => none
  | (none, _) => none
  | (some number, _) => some number

/-- The value of a numeral read from `start`, most significant digit first. -/
def decimalFold (start : Nat) (digits : List UInt8) : Nat :=
  digits.foldl (fun value byte => 10 * value + (byte.toNat - 48)) start

def decimalValue (digits : List UInt8) : Nat := decimalFold 0 digits

theorem le_decimalFold (start : Nat) (digits : List UInt8) : start ≤ decimalFold start digits := by
  induction digits generalizing start with
  | nil => exact le_refl _
  | cons byte rest ih => exact le_trans (by omega) (ih (10 * start + (byte.toNat - 48)))

theorem asciiToDigit_of_isAsciiDigit {byte : UInt8} (digit : isAsciiDigit byte = true) :
    asciiToDigit byte = some (UInt32.ofNat (byte.toNat - 48)) := by
  simp [asciiToDigit, digit]

theorem toNat_sub_lt_ten {byte : UInt8} (digit : isAsciiDigit byte = true) :
    byte.toNat - 48 < 10 := by
  simp only [isAsciiDigit, Bool.and_eq_true, decide_eq_true_eq] at digit
  omega

theorem parseDigits_none (apply : UInt32 → UInt32 → Option UInt32) (digits : List UInt8)
    (allDigits : ∀ byte ∈ digits, isAsciiDigit byte = true) :
    parseDigits apply none digits = (none, digits.length) := by
  induction digits with
  | nil => rfl
  | cons byte rest ih =>
      simp [parseDigits, asciiToDigit_of_isAsciiDigit (allDigits byte (List.mem_cons_self _ _)),
        ih fun other member => allDigits other (List.mem_cons_of_mem _ member)]

/-- One digit of the checked loop: multiply by ten, add the digit, checking
each step for overflow. -/
theorem checkedStep_eq (number : UInt32) {digit : Nat} (small : digit < 10) :
    (checkedMul number 10).bind (checkedAdd · (UInt32.ofNat digit)) =
      if 10 * number.toNat + digit < UInt32.size then
        some (UInt32.ofNat (10 * number.toNat + digit)) else none := by
  have ten : (10 : UInt32).toNat = 10 := rfl
  have digitNat : (UInt32.ofNat digit).toNat = digit :=
    UInt32.toNat_ofNat_of_lt (by unfold UInt32.size; omega)
  by_cases mulFits : number.toNat * 10 < UInt32.size
  · have product : (UInt32.ofNat (number.toNat * 10)).toNat = number.toNat * 10 :=
      UInt32.toNat_ofNat_of_lt mulFits
    have multiplied : checkedMul number 10 = some (UInt32.ofNat (number.toNat * 10)) := by
      simp only [checkedMul, ten, if_pos mulFits]
    rw [multiplied, Option.some_bind]
    simp only [checkedAdd, product, digitNat]
    rw [Nat.mul_comm number.toNat 10]
  · have overflow : checkedMul number 10 = none := by
      simp only [checkedMul, ten, if_neg mulFits]
    rw [overflow, Option.none_bind, if_neg (by omega)]

/-- On digits, the checked loop reads them all and yields their value exactly
when it fits in a `u32`. -/
theorem parseDigits_checkedAdd (number : UInt32) (digits : List UInt8)
    (allDigits : ∀ byte ∈ digits, isAsciiDigit byte = true) :
    parseDigits checkedAdd (some number) digits =
      (if decimalFold number.toNat digits < UInt32.size then
        some (UInt32.ofNat (decimalFold number.toNat digits)) else none, digits.length) := by
  induction digits generalizing number with
  | nil =>
      have same : UInt32.ofNat number.toNat = number :=
        UInt32.toNat.inj (UInt32.toNat_ofNat_of_lt number.toNat_lt_size)
      simp [parseDigits, decimalFold, number.toNat_lt_size, same]
  | cons byte rest ih =>
      have isDigit := allDigits byte (List.mem_cons_self _ _)
      have restDigits : ∀ other ∈ rest, isAsciiDigit other = true :=
        fun other member => allDigits other (List.mem_cons_of_mem _ member)
      have foldStep : decimalFold number.toNat (byte :: rest) =
          decimalFold (10 * number.toNat + (byte.toNat - 48)) rest := rfl
      simp only [parseDigits, asciiToDigit_of_isAsciiDigit isDigit, Option.some_bind,
        checkedStep_eq number (toNat_sub_lt_ten isDigit), foldStep, List.length_cons]
      by_cases fits : 10 * number.toNat + (byte.toNat - 48) < UInt32.size
      · rw [if_pos fits, ih _ restDigits, UInt32.toNat_ofNat_of_lt fits]
      · have grows := le_decimalFold (10 * number.toNat + (byte.toNat - 48)) rest
        rw [if_neg fits, parseDigits_none _ _ restDigits, if_neg (by omega)]

/-- `atoi` on a field of digits: the field's value when it is non-empty and
fits in a `u32`. -/
theorem atoi_of_digits (field : List UInt8) (allDigits : ∀ byte ∈ field, isAsciiDigit byte = true) :
    atoi field = if field ≠ [] ∧ decimalValue field < UInt32.size then
      some (UInt32.ofNat (decimalValue field)) else none := by
  cases field with
  | nil => rfl
  | cons byte rest =>
      have isDigit := allDigits byte (List.mem_cons_self _ _)
      have unsigned : fromRadix10SignedChecked (byte :: rest) =
          parseDigits checkedAdd (some 0) (byte :: rest) := by
        have notPlus : byte ≠ 43 := fun same => by subst same; exact absurd isDigit (by decide)
        have notMinus : byte ≠ 45 := fun same => by subst same; exact absurd isDigit (by decide)
        simp [fromRadix10SignedChecked, notPlus, notMinus]
      have zero : (0 : UInt32).toNat = 0 := rfl
      rw [atoi, unsigned, parseDigits_checkedAdd 0 _ allDigits, zero, List.length_cons]
      by_cases fits : decimalValue (byte :: rest) < UInt32.size
      · rw [if_pos (show decimalFold 0 (byte :: rest) < UInt32.size from fits),
          if_pos ⟨List.cons_ne_nil _ _, fits⟩]
        rfl
      · rw [if_neg (show ¬decimalFold 0 (byte :: rest) < UInt32.size from fits),
          if_neg fun valid => fits valid.2]
        rfl

/-! ### The release string -/

/-- `kver`: the release up to its first byte that is neither `.` nor an ASCII
digit. -/
def kver (release : List UInt8) : List UInt8 :=
  match release.findIdx? (fun c => c != 46 && !isAsciiDigit c) with
  | some pos => release.take pos
  | none => release

/-- `(major, minor) >= min_support` on `(u32, u32)`, which Rust orders
lexicographically. -/
def tupleGe (left right : UInt32 × UInt32) : Bool :=
  right.1 < left.1 || (left.1 == right.1 && right.2 ≤ left.2)

/-- `is_current_kernel_greater_than(min_support)` once `uname` has returned the
release string `release`. -/
def isCurrentKernelGreaterThan (minSupport : UInt32 × UInt32) (release : List UInt8) :
    Except String Bool :=
  let kvers := (kver release).splitOnP (· == 46)
  match kvers.head?.bind atoi with
  | none => .error "Failed to parse kernel major ver!"
  | some major =>
      match kvers.tail.head?.bind atoi with
      | none => .error "Failed to parse kernel minor ver!"
      | some minor => .ok (tupleGe (major, minor) minSupport)

/-- The longest prefix of `release` made of ASCII digits and `.`. -/
def versionPrefix (release : List UInt8) : List UInt8 :=
  release.takeWhile fun c => c == 46 || isAsciiDigit c

/-- `field` is a non-empty decimal numeral with value `value`. -/
def IsNumeral (field : List UInt8) (value : Nat) : Prop :=
  field ≠ [] ∧ (∀ byte ∈ field, isAsciiDigit byte = true) ∧ decimalValue field = value

/-- The first two `.`-separated fields of the version prefix are numerals with
values `major` and `minor`. -/
def FirstTwoFields (release : List UInt8) (major minor : Nat) : Prop :=
  ∃ first second rest, (versionPrefix release).splitOnP (· == 46) = first :: second :: rest ∧
    IsNumeral first major ∧ IsNumeral second minor

theorem kver_eq_versionPrefix (release : List UInt8) : kver release = versionPrefix release := by
  have sameTest : (fun c : UInt8 => !(c == 46 || isAsciiDigit c)) =
      fun c => c != 46 && !isAsciiDigit c := by
    funext c
    simp [bne]
  rw [versionPrefix, List.takeWhile_eq_take_findIdx_not, sameTest, kver]
  cases found : release.findIdx? (fun c => c != 46 && !isAsciiDigit c) with
  | none => rw [List.findIdx?_eq_none_iff_findIdx_eq.mp found, List.take_length]
  | some pos => rw [(List.findIdx?_eq_some_iff_findIdx_eq.mp found).2]

/-- The pieces of a split keep only elements of the list, and no separator. -/
theorem mem_of_mem_splitOnP {p : UInt8 → Bool} {l piece : List UInt8}
    (inSplit : piece ∈ l.splitOnP p) {byte : UInt8} (member : byte ∈ piece) :
    byte ∈ l ∧ p byte = false := by
  induction l generalizing piece with
  | nil =>
      simp only [List.splitOnP_nil, List.mem_singleton] at inSplit
      subst inSplit
      cases member
  | cons head tail ih =>
      rw [List.splitOnP_cons] at inSplit
      split_ifs at inSplit with isSep
      · rcases List.mem_cons.mp inSplit with rfl | inRest
        · cases member
        · exact (ih inRest member).imp_left (List.mem_cons_of_mem _)
      · obtain ⟨first, others, split⟩ := List.exists_cons_of_ne_nil (List.splitOnP_ne_nil p tail)
        rw [split] at ih inSplit
        rcases List.mem_cons.mp inSplit with rfl | inOthers
        · rcases List.mem_cons.mp member with rfl | inFirst
          · exact ⟨List.mem_cons_self _ _, by simpa using isSep⟩
          · exact (ih (List.mem_cons_self _ _) inFirst).imp_left (List.mem_cons_of_mem _)
        · exact (ih (List.mem_cons_of_mem _ inOthers) member).imp_left (List.mem_cons_of_mem _)

/-- Every field of the version prefix is made of digits. -/
theorem digits_of_mem_fields {release field : List UInt8}
    (inFields : field ∈ (versionPrefix release).splitOnP (· == 46)) :
    ∀ byte ∈ field, isAsciiDigit byte = true := by
  intro byte member
  obtain ⟨inPrefix, notDot⟩ := mem_of_mem_splitOnP inFields member
  simpa [notDot] using List.mem_takeWhile_imp inPrefix

/-! ### The outcome on every release -/

theorem isCurrentKernelGreaterThan_of_fields (minSupport : UInt32 × UInt32)
    {release : List UInt8} {major minor : Nat} (fields : FirstTwoFields release major minor)
    (majorFits : major < UInt32.size) (minorFits : minor < UInt32.size) :
    isCurrentKernelGreaterThan minSupport release =
      .ok (tupleGe (UInt32.ofNat major, UInt32.ofNat minor) minSupport) := by
  obtain ⟨first, second, rest, split, ⟨firstNonEmpty, firstDigits, firstValue⟩,
    ⟨secondNonEmpty, secondDigits, secondValue⟩⟩ := fields
  have parsedFirst : atoi first = some (UInt32.ofNat major) := by
    rw [atoi_of_digits first firstDigits, if_pos ⟨firstNonEmpty, firstValue ▸ majorFits⟩,
      firstValue]
  have parsedSecond : atoi second = some (UInt32.ofNat minor) := by
    rw [atoi_of_digits second secondDigits, if_pos ⟨secondNonEmpty, secondValue ▸ minorFits⟩,
      secondValue]
  simp only [isCurrentKernelGreaterThan, kver_eq_versionPrefix, split, List.head?_cons,
    List.tail_cons, Option.some_bind, parsedFirst, parsedSecond]

theorem fields_of_isCurrentKernelGreaterThan_eq_ok {minSupport : UInt32 × UInt32}
    {release : List UInt8} {verdict : Bool}
    (parsed : isCurrentKernelGreaterThan minSupport release = .ok verdict) :
    ∃ major minor, FirstTwoFields release major minor ∧ major < UInt32.size ∧
      minor < UInt32.size ∧ verdict = tupleGe (UInt32.ofNat major, UInt32.ofNat minor) minSupport := by
  obtain ⟨first, others, split⟩ :=
    List.exists_cons_of_ne_nil (List.splitOnP_ne_nil (· == (46 : UInt8)) (versionPrefix release))
  have firstDigits := digits_of_mem_fields (split ▸ List.mem_cons_self first others)
  simp only [isCurrentKernelGreaterThan, kver_eq_versionPrefix, split, List.head?_cons,
    Option.some_bind, atoi_of_digits first firstDigits] at parsed
  split_ifs at parsed with firstValid
  cases others with
  | nil => simp at parsed
  | cons second rest =>
      have secondDigits :=
        digits_of_mem_fields (split ▸ List.mem_cons_of_mem _ (List.mem_cons_self second rest))
      simp only [List.tail_cons, List.head?_cons, Option.some_bind,
        atoi_of_digits second secondDigits] at parsed
      split_ifs at parsed with secondValid
      exact ⟨_, _, ⟨first, second, rest, split, ⟨firstValid.1, firstDigits, rfl⟩,
        ⟨secondValid.1, secondDigits, rfl⟩⟩, firstValid.2, secondValid.2,
        (Except.ok.inj parsed).symm⟩

private theorem lt_ofNat_iff (bound : UInt32) {n : Nat} (fits : n < UInt32.size) :
    bound < UInt32.ofNat n ↔ bound.toNat < n := by
  rw [UInt32.lt_def, BitVec.lt_def, UInt32.toBitVec_eq_of_lt fits]
  rfl

private theorem le_ofNat_iff (bound : UInt32) {n : Nat} (fits : n < UInt32.size) :
    bound ≤ UInt32.ofNat n ↔ bound.toNat ≤ n := by
  rw [UInt32.le_def, BitVec.le_def, UInt32.toBitVec_eq_of_lt fits]
  rfl

private theorem ofNat_eq_iff (bound : UInt32) {n : Nat} (fits : n < UInt32.size) :
    UInt32.ofNat n = bound ↔ n = bound.toNat := by
  constructor
  · rintro rfl
    exact (UInt32.toNat_ofNat_of_lt fits).symm
  · intro same
    exact UInt32.toNat.inj (by rw [UInt32.toNat_ofNat_of_lt fits, same])

/-- Rust's tuple comparison is the lexicographic order on the values. -/
theorem tupleGe_ofNat_iff (minSupport : UInt32 × UInt32) {major minor : Nat}
    (majorFits : major < UInt32.size) (minorFits : minor < UInt32.size) :
    tupleGe (UInt32.ofNat major, UInt32.ofNat minor) minSupport = true ↔
      toLex (minSupport.1.toNat, minSupport.2.toNat) ≤ toLex (major, minor) := by
  rw [Prod.Lex.le_iff]
  simp only [tupleGe, Bool.or_eq_true, Bool.and_eq_true, decide_eq_true_eq, beq_iff_eq,
    lt_ofNat_iff _ majorFits, le_ofNat_iff _ minorFits, ofNat_eq_iff _ majorFits]
  omega

/-- On every release string the check succeeds exactly when the first two
fields of its digits-and-dots prefix are non-empty numerals below `2 ^ 32`,
with the lexicographic comparison of their values as its verdict, and fails
with an error otherwise. -/
theorem isCurrentKernelGreaterThan_spec (minSupport : UInt32 × UInt32) (release : List UInt8) :
    (∀ verdict, isCurrentKernelGreaterThan minSupport release = .ok verdict ↔
      ∃ major minor, FirstTwoFields release major minor ∧ major < 2 ^ 32 ∧ minor < 2 ^ 32 ∧
        (verdict = true ↔
          toLex (minSupport.1.toNat, minSupport.2.toNat) ≤ toLex (major, minor))) ∧
    ((∃ message, isCurrentKernelGreaterThan minSupport release = .error message) ↔
      ¬∃ major minor, FirstTwoFields release major minor ∧ major < 2 ^ 32 ∧ minor < 2 ^ 32) := by
  refine ⟨fun verdict => ⟨fun parsed => ?_, fun ⟨major, minor, fields, majorFits, minorFits,
    compared⟩ => ?_⟩, ⟨fun ⟨message, failed⟩ ⟨major, minor, fields, majorFits, minorFits⟩ => ?_,
    fun invalid => ?_⟩⟩
  · obtain ⟨major, minor, fields, majorFits, minorFits, rfl⟩ :=
      fields_of_isCurrentKernelGreaterThan_eq_ok parsed
    exact ⟨major, minor, fields, majorFits, minorFits,
      tupleGe_ofNat_iff minSupport majorFits minorFits⟩
  · rw [isCurrentKernelGreaterThan_of_fields minSupport fields majorFits minorFits]
    congr 1
    exact Bool.eq_iff_iff.mpr ((tupleGe_ofNat_iff minSupport majorFits minorFits).trans
      compared.symm)
  · rw [isCurrentKernelGreaterThan_of_fields minSupport fields majorFits minorFits] at failed
    cases failed
  · cases parsed : isCurrentKernelGreaterThan minSupport release with
    | error message => exact ⟨message, rfl⟩
    | ok verdict =>
        obtain ⟨major, minor, fields, majorFits, minorFits, -⟩ :=
          fields_of_isCurrentKernelGreaterThan_eq_ok parsed
        exact absurd ⟨major, minor, fields, majorFits, minorFits⟩ invalid

example :
    isCurrentKernelGreaterThan (4, 8) ("5.15.0-1034-azure".toList.map Char.toUInt8) = .ok true :=
  rfl

/-! ### The check in `main` -/

/-- `min_support_kver` of `main`. -/
def minSupportKver : UInt32 × UInt32 := (4, 8)

/-- `main`'s use of the check: an error ends the run, a `false` verdict logs a
warning, and the run goes on otherwise.  Returns the warnings logged. -/
def kernelCheck (release : List UInt8) : Except String (List String) :=
  match isCurrentKernelGreaterThan minSupportKver release with
  | .error message => .error message
  | .ok true => .ok []
  | .ok false =>
      .ok ["Current kernel version is not supported! Minimum supported kernel version is " ++
        toString minSupportKver.1 ++ "." ++ toString minSupportKver.2 ++ "."]

/-- `main` goes on without a warning exactly on a release whose first two
fields are numerals at least `4.8`. -/
theorem kernelCheck_eq_ok_nil_iff (release : List UInt8) :
    kernelCheck release = .ok [] ↔
      ∃ major minor, FirstTwoFields release major minor ∧ major < UInt32.size ∧
        minor < UInt32.size ∧ toLex (4, 8) ≤ toLex (major, minor) := by
  constructor
  · intro silent
    cases parsed : isCurrentKernelGreaterThan minSupportKver release with
    | error message => simp [kernelCheck, parsed] at silent
    | ok verdict =>
        obtain ⟨major, minor, fields, majorFits, minorFits, rfl⟩ :=
          fields_of_isCurrentKernelGreaterThan_eq_ok parsed
        cases supported : tupleGe (UInt32.ofNat major, UInt32.ofNat minor) minSupportKver
        · simp [kernelCheck, parsed, supported] at silent
        · exact ⟨major, minor, fields, majorFits, minorFits,
            (tupleGe_ofNat_iff minSupportKver majorFits minorFits).mp supported⟩
  · rintro ⟨major, minor, fields, majorFits, minorFits, atLeast⟩
    have supported : tupleGe (UInt32.ofNat major, UInt32.ofNat minor) minSupportKver = true :=
      (tupleGe_ofNat_iff minSupportKver majorFits minorFits).mpr atLeast
    simp [kernelCheck, isCurrentKernelGreaterThan_of_fields minSupportKver fields majorFits
      minorFits, supported]

end Tracexec.KernelVersion
