/-
The key/value split of one envp entry in `print_execve_trace` (printer.rs).

The entry's bytes are searched for the first `b'='`.  When there is none, the
separator is taken to be the end of the entry and a warning is logged; when the
first `b'='` is the entry's first byte, a second search runs over the bytes
after it.  The entry is split at the separator, and the separator is dropped by
slicing the tail from byte one.

Every entry falls under one of the results below.  An entry that does not start
with `=` and has a separator splits into its key and value.  An entry with no
`=` after its first byte panics at `&tail[1..]`, after its warning promised an
empty value.  An entry that starts with `=` is split one byte before its second
`=`, because the second search counts positions from byte one.
-/

import Tracexec.RustStr

namespace Tracexec.Printer

open RustStr

/-- The two warnings the split logs. -/
inductive Warning
  | invalidEntry (item : List Char)
  | invalidEntryStartingWithEq (item : List Char)
  deriving DecidableEq, Repr

def Warning.message : Warning → String
  | .invalidEntry item =>
      "Invalid envp entry: " ++ (String.mk item).quote ++ ", assuming value to empty string!"
  | .invalidEntryStartingWithEq item =>
      "Invalid envp entry staring with '=': " ++ (String.mk item).quote ++
        ", assuming value to empty string!"

/-- `position(|&x| x == b'=')` with its `unwrap_or_else` fallback: the byte
length `len` of the entry, after logging `warning`. -/
def positionOrLen (warning : Warning) (bytes : List UInt8) (len : Nat) :
    List Warning × Nat :=
  match bytes.findIdx? (· == 61) with
  | some loc => ([], loc)
  | none => ([warning], len)

/-- `sep_loc`, with the warnings logged while computing it. -/
def separatorLocation (item : List Char) : List Warning × Nat :=
  let first := positionOrLen (.invalidEntry item) (asBytes item) (asBytes item).length
  if first.2 = 0 then
    let next := positionOrLen (.invalidEntryStartingWithEq item) ((asBytes item).drop 1)
      (asBytes item).length
    (first.1 ++ next.1, next.2)
  else first

/-- The warnings logged and the pair `(k, v)`, or `none` where the code panics. -/
def splitEnvpEntry (item : List Char) : List Warning × Option (List Char × List Char) :=
  let sepLoc := separatorLocation item
  (sepLoc.1, (splitAt item sepLoc.2).bind fun parts =>
    (sliceFrom parts.2 1).map fun value => (parts.1, value))

theorem positionOrLen_of_some {warning : Warning} {bytes : List UInt8} {len loc : Nat}
    (found : bytes.findIdx? (· == 61) = some loc) :
    positionOrLen warning bytes len = ([], loc) := by
  simp [positionOrLen, found]

/-- The first `b'='` of `k ++ "=" ++ v` is the one after `k` when `k` has none. -/
theorem findIdx?_asBytes_separator {k : List Char} (v : List Char) (noEq : '=' ∉ k) :
    (asBytes (k ++ '=' :: v)).findIdx? (· == 61) = some (asBytes k).length := by
  have beforeNone : (asBytes k).findIdx? (· == (61 : UInt8)) = none := by
    rw [List.findIdx?_eq_none_iff]
    intro byte member
    simpa [beq_iff_eq] using ne_of_mem_of_not_mem member (not_mem_asBytes noEq)
  rw [asBytes_append, asBytes_cons, List.findIdx?_append, beforeNone]
  simp

/-! ### Entries of the form `k=v` -/

/-- An entry whose key is non-empty and free of `=` splits into that key and
the rest after the separator, with no warning. -/
theorem splitEnvpEntry_of_key {k : List Char} (v : List Char) (nonEmpty : k ≠ [])
    (noEq : '=' ∉ k) : splitEnvpEntry (k ++ '=' :: v) = ([], some (k, v)) := by
  have located : separatorLocation (k ++ '=' :: v) = ([], (asBytes k).length) := by
    have notZero : (asBytes k).length ≠ 0 := by
      simpa [List.length_eq_zero, asBytes_eq_nil_iff] using nonEmpty
    simp only [separatorLocation, positionOrLen_of_some (findIdx?_asBytes_separator v noEq),
      notZero, if_false]
  simp [splitEnvpEntry, located, splitAt_append_length,
    sliceFrom_cons_of_utf8Size '=' v rfl]

/-! ### Entries with no `=` after their first byte -/

theorem splitEnvpEntry_FOO_panics :
    splitEnvpEntry "FOO".toList = ([.invalidEntry "FOO".toList], none) := by
  decide

/-! ### Entries that start with `=` -/

/-- For an entry starting with `=`, the second search runs over the bytes from
index one, and its result is used as an index into the whole entry. -/
theorem separatorLocation_leading_eq (k v : List Char) (noEq : '=' ∉ k) :
    separatorLocation ('=' :: (k ++ '=' :: v)) = ([], (asBytes k).length) := by
  have firstAtZero :
      (asBytes ('=' :: (k ++ '=' :: v))).findIdx? (· == 61) = some 0 := by
    simp
  have nextAt : ((asBytes ('=' :: (k ++ '=' :: v))).drop 1).findIdx? (· == 61) =
      some (asBytes k).length := by
    simpa using findIdx?_asBytes_separator v noEq
  simp only [separatorLocation, positionOrLen_of_some firstAtZero,
    positionOrLen_of_some nextAt, if_true, List.nil_append]

/-- An entry `=kc=v`, with `kc` free of `=` and `c` a one-byte character, is
split one byte before its second `=`: the key loses `c` and the value keeps the
second `=`. -/
theorem splitEnvpEntry_leading_eq {k : List Char} {c : Char} (v : List Char)
    (noEq : '=' ∉ k ++ [c]) (single : c.utf8Size = 1) :
    splitEnvpEntry ('=' :: (k ++ c :: '=' :: v)) = ([], some ('=' :: k, '=' :: v)) := by
  have located := separatorLocation_leading_eq (k ++ [c]) v noEq
  have sameOffset : (asBytes (k ++ [c])).length = (asBytes ('=' :: k)).length := by
    simp [single, Nat.add_comm]
  have split := splitAt_append_length ('=' :: k) (c :: '=' :: v)
  simp only [List.append_assoc, List.singleton_append, sameOffset] at located
  simp only [List.cons_append] at split
  simp only [splitEnvpEntry, located, split]
  simp [sliceFrom_cons_of_utf8Size c _ single]

theorem splitEnvpEntry_leading_eq_example :
    '=' ∉ "A".toList ++ ['B'] ∧ 'B'.utf8Size = 1 ∧
      splitEnvpEntry ('=' :: ("A".toList ++ 'B' :: '=' :: "v".toList)) =
        ([], some ('=' :: "A".toList, '=' :: "v".toList)) :=
  ⟨by decide, by decide, splitEnvpEntry_leading_eq _ (by decide) (by decide)⟩

theorem splitEnvpEntry_eqAeqB_splits_early :
    splitEnvpEntry "=A=B".toList = ([], some ("=".toList, "=B".toList)) := by
  decide

/-- When the character before the second `=` takes more than one byte, the
early split offset falls inside it and `split_at` panics. -/
theorem splitEnvpEntry_leading_eq_of_multibyte {k : List Char} {c : Char} (v : List Char)
    (noEq : '=' ∉ k ++ [c]) (multibyte : 1 < c.utf8Size) :
    (splitEnvpEntry ('=' :: (k ++ c :: '=' :: v))).2 = none := by
  have located := separatorLocation_leading_eq (k ++ [c]) v noEq
  have offset : (asBytes (k ++ [c])).length =
      (asBytes ('=' :: k)).length + (c.utf8Size - 1) := by
    simp
    omega
  have split := splitAt_append ('=' :: k) (c :: '=' :: v) (c.utf8Size - 1)
  rw [splitAt_cons_of_lt c _ (by omega) (by omega)] at split
  simp only [List.append_assoc, List.singleton_append, offset] at located
  simp only [List.cons_append, Option.map_none'] at split
  simp only [splitEnvpEntry, located, split, Option.none_bind]

theorem splitEnvpEntry_leading_eq_of_multibyte_example :
    '=' ∉ "A".toList ++ ['é'] ∧ 1 < 'é'.utf8Size ∧
      (splitEnvpEntry ('=' :: ("A".toList ++ 'é' :: '=' :: "v".toList))).2 = none :=
  ⟨by decide, by decide, splitEnvpEntry_leading_eq_of_multibyte _ (by decide) (by decide)⟩

end Tracexec.Printer
