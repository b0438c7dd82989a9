/-
The `str` operations that `print_execve_trace` applies to an envp entry.

A Rust string is a sequence of Unicode scalar values stored as UTF-8.  Here it is
the list of its characters; its bytes are computed from them with
`String.utf8EncodeChar`, so every string of the model is valid UTF-8 by
construction.  `split_at` and range slicing take byte offsets and panic off a
character boundary or past the end: they return `none` there.
-/

import Mathlib.Data.List.Basic

namespace Tracexec.RustStr

/-- `str::as_bytes`. -/
def asBytes (s : List Char) : List UInt8 := s.flatMap String.utf8EncodeChar

/-- `str::split_at`: the byte offset `mid` must fall on a character boundary
within the string, otherwise the call panics. -/
def splitAt : List Char → Nat → Option (List Char × List Char)
  | s, 0 => some ([], s)
  | [], _ + 1 => none
  | c :: s, mid + 1 =>
      if c.utf8Size ≤ mid + 1 then
        (splitAt s (mid + 1 - c.utf8Size)).map fun parts => (c :: parts.1, parts.2)
      else none

/-- `&s[start..]`, which panics under the same conditions as `split_at`. -/
def sliceFrom (s : List Char) (start : Nat) : Option (List Char) :=
  (splitAt s start).map Prod.snd

@[simp] theorem asBytes_nil : asBytes [] = [] := rfl

@[simp] theorem asBytes_cons (c : Char) (s : List Char) :
    asBytes (c :: s) = String.utf8EncodeChar c ++ asBytes s := rfl

@[simp] theorem asBytes_append (s t : List Char) :
    asBytes (s ++ t) = asBytes s ++ asBytes t := List.flatMap_append ..

theorem asBytes_length_cons (c : Char) (s : List Char) :
    (asBytes (c :: s)).length = (asBytes s).length + c.utf8Size := by
  simp [Nat.add_comm]

theorem asBytes_eq_nil_iff (s : List Char) : asBytes s = [] ↔ s = [] := by
  cases s with
  | nil => simp
  | cons c s =>
      have nonempty : (String.utf8EncodeChar c).length ≠ 0 := by
        simp [Nat.pos_iff_ne_zero.mp (Char.utf8Size_pos c)]
      simp [List.length_eq_zero.not.mp nonempty]

@[simp] theorem utf8EncodeChar_eq_char : String.utf8EncodeChar '=' = [61] := by decide

/-! ### The byte of `'='` -/

private theorem le_or_toNat (x m : UInt8) : m.toNat ≤ (x ||| m).toNat :=
  Nat.le_of_testBit fun i present => by
    show (x.toBitVec ||| m.toBitVec).toNat.testBit i = true
    rw [BitVec.toNat_or, Nat.testBit_or, Bool.or_eq_true]
    exact Or.inr present

/-- Every byte with the high bit set differs from `b'='`. -/
private theorem or_high_ne (x m : UInt8) (high : 128 ≤ m.toNat) : (x ||| m) ≠ 61 := by
  intro isEq
  have bound := le_or_toNat x m
  rw [isEq] at bound
  exact absurd (high.trans bound) (by decide)

private theorem eq_of_toUInt8_eq (c : Char) (ascii : c.val ≤ 127)
    (isEq : c.val.toUInt8 = 61) : c = '=' := by
  apply Char.ext
  apply UInt32.toNat.inj
  have byteEq := congrArg UInt8.toNat isEq
  have sameNat : c.val.toNat = c.val.toBitVec.toNat := rfl
  simp [UInt32.le_def, BitVec.le_def] at ascii
  simp [UInt32.toUInt8, Nat.toUInt8, UInt8.toNat, UInt8.ofNat, BitVec.toNat_ofNat] at byteEq
  show c.val.toBitVec.toNat = 61
  omega

/-- In UTF-8 the byte `b'='` only encodes the character `'='`: continuation
bytes and the lead bytes of longer sequences have the high bit set. -/
theorem eq_of_mem_utf8EncodeChar {c : Char} (present : (61 : UInt8) ∈ String.utf8EncodeChar c) :
    c = '=' := by
  simp only [String.utf8EncodeChar] at present
  split_ifs at present with ascii
  · exact eq_of_toUInt8_eq c ascii (List.mem_singleton.mp present).symm
  all_goals simp only [List.mem_cons, List.not_mem_nil, or_false] at present
  · rcases present with byte | byte <;> exact absurd byte.symm (or_high_ne _ _ (by decide))
  · rcases present with byte | byte | byte <;>
      exact absurd byte.symm (or_high_ne _ _ (by decide))
  · rcases present with byte | byte | byte | byte <;>
      exact absurd byte.symm (or_high_ne _ _ (by decide))

theorem not_mem_asBytes {s : List Char} (absent : '=' ∉ s) : (61 : UInt8) ∉ asBytes s := by
  intro present
  obtain ⟨c, member, inChar⟩ := List.mem_flatMap.mp present
  exact absent (eq_of_mem_utf8EncodeChar inChar ▸ member)

/-! ### Splitting at a byte offset -/

/-- Splitting after the bytes of a prefix continues in what follows it. -/
theorem splitAt_append (k rest : List Char) (mid : Nat) :
    splitAt (k ++ rest) ((asBytes k).length + mid) =
      (splitAt rest mid).map fun parts => (k ++ parts.1, parts.2) := by
  induction k with
  | nil =>
      simp only [asBytes_nil, List.length_nil, Nat.zero_add, List.nil_append]
      cases splitAt rest mid <;> rfl
  | cons c k ih =>
      have positive := Char.utf8Size_pos c
      obtain ⟨offset, offsetEq⟩ :
          ∃ offset, (asBytes (c :: k)).length + mid = offset + 1 :=
        ⟨(asBytes k).length + c.utf8Size + mid - 1, by rw [asBytes_length_cons]; omega⟩
      have remaining : offset + 1 - c.utf8Size = (asBytes k).length + mid := by
        rw [asBytes_length_cons] at offsetEq
        omega
      have fits : c.utf8Size ≤ offset + 1 := by
        rw [asBytes_length_cons] at offsetEq
        omega
      rw [offsetEq, List.cons_append, splitAt, if_pos fits, remaining, ih, Option.map_map]
      rfl

theorem splitAt_append_length (k rest : List Char) :
    splitAt (k ++ rest) (asBytes k).length = some (k, rest) := by
  simpa [splitAt] using splitAt_append k rest 0

/-- An offset strictly inside the bytes of a character is not a boundary. -/
theorem splitAt_cons_of_lt (c : Char) (rest : List Char) {mid : Nat}
    (inside : 0 < mid) (short : mid < c.utf8Size) : splitAt (c :: rest) mid = none := by
  obtain ⟨offset, rfl⟩ : ∃ offset, mid = offset + 1 := ⟨mid - 1, by omega⟩
  simp [splitAt, Nat.not_le.mpr short]

theorem sliceFrom_cons_of_utf8Size (c : Char) (rest : List Char) (single : c.utf8Size = 1) :
    sliceFrom (c :: rest) 1 = some rest := by
  simp [sliceFrom, splitAt, single]

@[simp] theorem sliceFrom_nil_one : sliceFrom [] 1 = none := rfl

end Tracexec.RustStr
