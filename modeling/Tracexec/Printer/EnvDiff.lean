/-
The environment diff of `print_execve_trace` (printer.rs).

The baseline is a `HashMap<String, String>`: its entries in iteration order,
with unique keys.  The loop over `exec_data.envp` looks each key up in a
working copy of the baseline, prints `M` for a changed value and removes the
key, and prints `+` for a key the copy lacks; the loop over what is left of the
copy prints `-`.

For an envp of well-formed `k=v` entries with distinct keys the diff reports
exactly the modified, added and removed variables, applying the report to the
baseline gives the traced environment, and reordering the envp only reorders
the report.  The loop invariant behind all three: after a prefix of the envp
the working copy is the baseline without that prefix's keys.
-/

import Tracexec.Printer.EnvpEntry

namespace Tracexec.Printer

/-- A `HashMap<String, String>`: its entries in iteration order, keys unique. -/
@[ext] structure EnvMap where
  entries : List (List Char × List Char)
  keysNodup : (entries.map Prod.fst).Nodup

/-- A key is missing from an association list exactly when no entry has it. -/
theorem lookup_eq_none_iff_not_mem (entries : List (List Char × List Char)) (key : List Char) :
    entries.lookup key = none ↔ key ∉ entries.map Prod.fst := by
  simp only [List.lookup_eq_none_iff, bne_iff_ne, List.mem_map, not_exists, not_and]
  exact forall₂_congr fun _ _ => ne_comm

namespace EnvMap

def get (env : EnvMap) (key : List Char) : Option (List Char) :=
  env.entries.lookup key

def remove (env : EnvMap) (key : List Char) : EnvMap where
  entries := env.entries.filter fun entry => entry.1 ≠ key
  keysNodup := ((List.filter_sublist _).map Prod.fst).nodup env.keysNodup

/-- `HashMap::insert`: the new value replaces any old one for the key. -/
def insert (env : EnvMap) (key value : List Char) : EnvMap where
  entries := (key, value) :: (env.remove key).entries
  keysNodup := by
    refine List.nodup_cons.mpr ⟨?_, (env.remove key).keysNodup⟩
    simp [remove]

/-- The entries whose keys are not among `keys`, in iteration order. -/
def withoutKeys (env : EnvMap) (keys : List (List Char)) : EnvMap where
  entries := env.entries.filter fun entry => entry.1 ∉ keys
  keysNodup := ((List.filter_sublist _).map Prod.fst).nodup env.keysNodup

private theorem lookup_filter_self (entries : List (List Char × List Char))
    (key : List Char) : (entries.filter fun entry => entry.1 ≠ key).lookup key = none := by
  simp only [List.lookup_eq_none_iff, List.mem_filter, decide_eq_true_eq]
  intro entry ⟨_, different⟩
  simpa using (Ne.symm different)

private theorem lookup_filter_of_ne (entries : List (List Char × List Char))
    {key other : List Char} (different : other ≠ key) :
    (entries.filter fun entry => entry.1 ≠ key).lookup other = entries.lookup other := by
  induction entries with
  | nil => rfl
  | cons entry rest ih =>
      obtain ⟨first, second⟩ := entry
      by_cases same : first = key
      · subst same
        have notFirst : (other == first) = false := by simpa using different
        rw [List.filter_cons_of_neg (by simp), ih, List.lookup_cons, notFirst]
      · rw [List.filter_cons_of_pos (by simpa using same), List.lookup_cons, List.lookup_cons,
          ih]

@[simp] theorem get_remove_self (env : EnvMap) (key : List Char) :
    (env.remove key).get key = none :=
  lookup_filter_self env.entries key

theorem get_remove_of_ne (env : EnvMap) {key other : List Char} (different : other ≠ key) :
    (env.remove key).get other = env.get other :=
  lookup_filter_of_ne env.entries different

@[simp] theorem get_insert_self (env : EnvMap) (key value : List Char) :
    (env.insert key value).get key = some value := by
  simp [get, insert]

theorem get_insert_of_ne (env : EnvMap) {key other : List Char} (value : List Char)
    (different : other ≠ key) : (env.insert key value).get other = env.get other := by
  have notKey : (other == key) = false := by simpa using different
  simp only [get, insert, List.lookup_cons, notKey]
  exact get_remove_of_ne env different

theorem get_eq_none_iff (env : EnvMap) (key : List Char) :
    env.get key = none ↔ ∀ entry ∈ env.entries, entry.1 ≠ key := by
  simp only [get, List.lookup_eq_none_iff, bne_iff_ne]
  exact forall₂_congr fun _ _ => ne_comm

theorem remove_of_get_none {env : EnvMap} {key : List Char} (absent : env.get key = none) :
    env.remove key = env := by
  ext1
  exact List.filter_eq_self.mpr fun entry member => by
    simpa using (get_eq_none_iff env key).mp absent entry member

@[simp] theorem withoutKeys_nil (env : EnvMap) : env.withoutKeys [] = env := by
  ext1
  simp [withoutKeys]

theorem withoutKeys_remove (env : EnvMap) (key : List Char) (keys : List (List Char)) :
    (env.remove key).withoutKeys keys = env.withoutKeys (key :: keys) := by
  ext1
  simp only [withoutKeys, remove, List.filter_filter]
  congr 1
  funext entry
  simp [Bool.and_comm]

theorem remove_withoutKeys (env : EnvMap) (key : List Char) (keys : List (List Char)) :
    (env.withoutKeys keys).remove key = env.withoutKeys (key :: keys) := by
  ext1
  simp only [withoutKeys, remove, List.filter_filter]
  congr 1
  funext entry
  simp

theorem get_withoutKeys (env : EnvMap) (keys : List (List Char)) (key : List Char) :
    (env.withoutKeys keys).get key = if key ∈ keys then none else env.get key := by
  induction keys with
  | nil => simp
  | cons first rest ih =>
      rw [← remove_withoutKeys]
      by_cases same : key = first
      · simp [same]
      · rw [get_remove_of_ne _ same, ih]
        simp [same]

end EnvMap

/-- The records printed: `M` with the new value, `+`, and `-` with the old one. -/
inductive DiffRecord
  | modified (key value : List Char)
  | added (key value : List Char)
  | removed (key value : List Char)
  deriving DecidableEq, Repr

/-- One turn of the loop over `exec_data.envp`, after the split: the working
map and the records printed. -/
def diffEntry (env : EnvMap) (key value : List Char) : EnvMap × List DiffRecord :=
  match env.get key with
  | some origValue =>
      (env.remove key, if origValue ≠ value then [.modified key value] else [])
  | none => (env, [.added key value])

/-- The loop over `exec_data.envp`: the working map left and the records
printed, or `none` when the split of an entry panics. -/
def diffEnvp : EnvMap → List (List Char) → Option (EnvMap × List DiffRecord)
  | env, [] => some (env, [])
  | env, item :: rest =>
      match (splitEnvpEntry item).2 with
      | none => none
      | some (key, value) =>
          let step := diffEntry env key value
          (diffEnvp step.1 rest).map fun result => (result.1, step.2 ++ result.2)

/-- The diff block: the loop over the envp, then a `-` record for every entry
left in the working map, in its iteration order. -/
def diffEnv (baseline : EnvMap) (envp : List (List Char)) : Option (List DiffRecord) :=
  (diffEnvp baseline envp).map fun result =>
    result.2 ++ result.1.entries.map fun entry => .removed entry.1 entry.2

/-! ### What the diff should report -/

/-- The envp entry `k=v` of a variable. -/
def renderEntry (entry : List Char × List Char) : List Char := entry.1 ++ '=' :: entry.2

/-- The record due for one traced variable, against `baseline`. -/
def classify (baseline : EnvMap) (entry : List Char × List Char) : Option DiffRecord :=
  match baseline.get entry.1 with
  | some original => if original = entry.2 then none else some (.modified entry.1 entry.2)
  | none => some (.added entry.1 entry.2)

/-- One `M` record for each traced variable whose baseline value differs. -/
def modifiedRecords (baseline : EnvMap) (entries : List (List Char × List Char)) :
    List DiffRecord :=
  (entries.filter fun entry => (baseline.get entry.1).isSome ∧ baseline.get entry.1 ≠ some entry.2).map
    fun entry => .modified entry.1 entry.2

/-- One `+` record for each traced variable missing from the baseline. -/
def addedRecords (baseline : EnvMap) (entries : List (List Char × List Char)) :
    List DiffRecord :=
  (entries.filter fun entry => baseline.get entry.1 = none).map
    fun entry => .added entry.1 entry.2

/-- One `-` record, with the baseline value, for each baseline variable that is
not traced. -/
def removedRecords (baseline : EnvMap) (entries : List (List Char × List Char)) :
    List DiffRecord :=
  (baseline.entries.filter fun entry => entry.1 ∉ entries.map Prod.fst).map
    fun entry => .removed entry.1 entry.2

/-- A report applied to a map: `-` deletes, `+` and `M` set. -/
def DiffRecord.apply (env : EnvMap) : DiffRecord → EnvMap
  | .modified key value => env.insert key value
  | .added key value => env.insert key value
  | .removed key _ => env.remove key

def applyRecords (env : EnvMap) (records : List DiffRecord) : EnvMap :=
  records.foldl DiffRecord.apply env

/-! ### The loop invariant -/

theorem diffEntry_eq (env : EnvMap) (key value : List Char) :
    diffEntry env key value = (env.remove key, (classify env (key, value)).toList) := by
  unfold diffEntry classify
  cases found : env.get key with
  | none => simp [EnvMap.remove_of_get_none found]
  | some original => by_cases same : original = value <;> simp [same]

theorem classify_remove_of_ne (env : EnvMap) {key : List Char} {entry : List Char × List Char}
    (different : entry.1 ≠ key) : classify (env.remove key) entry = classify env entry := by
  simp only [classify, EnvMap.get_remove_of_ne env different]

/-- After the envp of well-formed `k=v` entries with distinct keys, the working
copy is the baseline without the traced keys, and the records printed are the
due ones in envp order. -/
theorem diffEnvp_renderEntry (env : EnvMap) (entries : List (List Char × List Char))
    (wellFormed : ∀ entry ∈ entries, entry.1 ≠ [] ∧ '=' ∉ entry.1)
    (distinct : (entries.map Prod.fst).Nodup) :
    diffEnvp env (entries.map renderEntry) =
      some (env.withoutKeys (entries.map Prod.fst), entries.filterMap (classify env)) := by
  induction entries generalizing env with
  | nil => simp [diffEnvp]
  | cons entry rest ih =>
      obtain ⟨fresh, restDistinct⟩ := List.nodup_cons.mp distinct
      obtain ⟨nonEmpty, noEq⟩ := wellFormed entry (List.mem_cons_self _ _)
      have restClassified :
          rest.filterMap (classify (env.remove entry.1)) = rest.filterMap (classify env) :=
        List.filterMap_congr fun other member =>
          classify_remove_of_ne env fun same => fresh (same ▸ List.mem_map_of_mem _ member)
      have restLoop := ih (env.remove entry.1)
        (fun other member => wellFormed other (List.mem_cons_of_mem _ member)) restDistinct
      rw [restClassified, EnvMap.withoutKeys_remove] at restLoop
      simp only [List.map_cons, diffEnvp, renderEntry, splitEnvpEntry_of_key entry.2 nonEmpty noEq,
        diffEntry_eq, restLoop, Option.map_some', List.filterMap_cons]
      cases classify env entry <;> rfl

theorem diffEnv_renderEntry (baseline : EnvMap) (entries : List (List Char × List Char))
    (wellFormed : ∀ entry ∈ entries, entry.1 ≠ [] ∧ '=' ∉ entry.1)
    (distinct : (entries.map Prod.fst).Nodup) :
    diffEnv baseline (entries.map renderEntry) =
      some (entries.filterMap (classify baseline) ++ removedRecords baseline entries) := by
  simp [diffEnv, diffEnvp_renderEntry baseline entries wellFormed distinct, removedRecords,
    EnvMap.withoutKeys]

/-! ### The report, its effect and its order -/

theorem filterMap_classify_perm (baseline : EnvMap) (entries : List (List Char × List Char)) :
    (entries.filterMap (classify baseline)).Perm
      (modifiedRecords baseline entries ++ addedRecords baseline entries) := by
  induction entries with
  | nil => simp [modifiedRecords, addedRecords]
  | cons entry rest ih =>
      simp only [modifiedRecords, addedRecords] at ih ⊢
      cases found : baseline.get entry.1 with
      | none =>
          simpa [classify, found] using
            (ih.cons (.added entry.1 entry.2)).trans List.perm_middle.symm
      | some original =>
          by_cases same : original = entry.2
          · simpa [classify, found, same] using ih
          · simpa [classify, found, same] using ih.cons (.modified entry.1 entry.2)

theorem applyRecords_append (env : EnvMap) (first second : List DiffRecord) :
    applyRecords env (first ++ second) = applyRecords (applyRecords env first) second :=
  List.foldl_append ..

/-- Applying the record due for one variable, to a map that agrees with the
baseline on it, sets that variable to its traced value. -/
theorem get_applyRecords_classify (baseline env : EnvMap) (entry : List Char × List Char)
    (agrees : env.get entry.1 = baseline.get entry.1) (key : List Char) :
    (applyRecords env (classify baseline entry).toList).get key =
      if key = entry.1 then some entry.2 else env.get key := by
  unfold classify
  cases found : baseline.get entry.1 with
  | none =>
      by_cases same : key = entry.1 <;>
        simp [applyRecords, DiffRecord.apply, same, EnvMap.get_insert_of_ne]
  | some original =>
      by_cases unchanged : original = entry.2 <;> by_cases same : key = entry.1 <;>
        simp [applyRecords, DiffRecord.apply, unchanged, same, agrees, found,
          EnvMap.get_insert_of_ne]

/-- Applying the records due for the traced variables sets each of them and
leaves every other key as it was. -/
theorem get_applyRecords_filterMap (baseline env : EnvMap)
    (entries : List (List Char × List Char)) (distinct : (entries.map Prod.fst).Nodup)
    (agrees : ∀ entry ∈ entries, env.get entry.1 = baseline.get entry.1) (key : List Char) :
    (applyRecords env (entries.filterMap (classify baseline))).get key =
      (entries.lookup key).or (env.get key) := by
  induction entries generalizing env with
  | nil => rfl
  | cons entry rest ih =>
      obtain ⟨fresh, restDistinct⟩ := List.nodup_cons.mp distinct
      have split : (entry :: rest).filterMap (classify baseline) =
          (classify baseline entry).toList ++ rest.filterMap (classify baseline) := by
        cases due : classify baseline entry <;> simp [List.filterMap_cons, due]
      have stepGet := get_applyRecords_classify baseline env entry
        (agrees entry (List.mem_cons_self _ _))
      rw [split, applyRecords_append, ih _ restDistinct, stepGet]
      · obtain ⟨first, second⟩ := entry
        by_cases same : key = first
        · simp [same, (lookup_eq_none_iff_not_mem rest first).mpr fresh]
        · have notFirst : (key == first) = false := by simpa using same
          simp [same, List.lookup_cons, notFirst]
      · intro other member
        have different : other.1 ≠ entry.1 := fun same =>
          fresh (same ▸ List.mem_map_of_mem Prod.fst member)
        rw [stepGet, if_neg different]
        exact agrees other (List.mem_cons_of_mem _ member)

theorem get_applyRecords_removed (env : EnvMap) (pairs : List (List Char × List Char))
    (key : List Char) :
    (applyRecords env (pairs.map fun entry => .removed entry.1 entry.2)).get key =
      if key ∈ pairs.map Prod.fst then none else env.get key := by
  induction pairs generalizing env with
  | nil => rfl
  | cons pair rest ih =>
      simp only [List.map_cons, applyRecords, List.foldl_cons, DiffRecord.apply] at ih ⊢
      rw [ih]
      by_cases same : key = pair.1
      · simp [same]
      · simp only [List.map_cons, List.mem_cons, same, false_or,
          EnvMap.get_remove_of_ne _ same]

/-- For an envp of well-formed `k=v` entries with distinct keys, the diff
reports one `M` for each changed variable, one `+` for each new one, one `-`
for each baseline variable not traced, and nothing else; applied to the
baseline it gives the traced environment; and every reordering of the envp
gives the same records. -/
theorem diffEnv_reports_exactly (baseline : EnvMap) (entries : List (List Char × List Char))
    (wellFormed : ∀ entry ∈ entries, entry.1 ≠ [] ∧ '=' ∉ entry.1)
    (distinct : (entries.map Prod.fst).Nodup) :
    ∃ records, diffEnv baseline (entries.map renderEntry) = some records ∧
      records.Perm (modifiedRecords baseline entries ++ addedRecords baseline entries ++
        removedRecords baseline entries) ∧
      (∀ key, (applyRecords baseline records).get key = entries.lookup key) ∧
      ∀ reordered : List (List Char × List Char), reordered.Perm entries →
        ∃ reorderedRecords, diffEnv baseline (reordered.map renderEntry) = some reorderedRecords ∧
          reorderedRecords.Perm records := by
  refine ⟨_, diffEnv_renderEntry baseline entries wellFormed distinct,
    (filterMap_classify_perm baseline entries).append_right _, fun key => ?_,
    fun reordered permuted => ?_⟩
  · rw [applyRecords_append, removedRecords, get_applyRecords_removed,
      get_applyRecords_filterMap baseline baseline entries distinct (fun _ _ => rfl)]
    have removed : key ∈ (baseline.entries.filter fun entry =>
          entry.1 ∉ entries.map Prod.fst).map Prod.fst ↔
        key ∈ baseline.entries.map Prod.fst ∧ key ∉ entries.map Prod.fst := by
      simp
    cases traced : entries.lookup key with
    | some value =>
        have isTraced : key ∈ entries.map Prod.fst := by
          by_contra untraced
          simp [(lookup_eq_none_iff_not_mem entries key).mpr untraced] at traced
        rw [if_neg fun isRemoved => (removed.mp isRemoved).2 isTraced]
        rfl
    | none =>
        have untraced := (lookup_eq_none_iff_not_mem entries key).mp traced
        by_cases inBaseline : key ∈ baseline.entries.map Prod.fst
        · rw [if_pos (removed.mpr ⟨inBaseline, untraced⟩)]
        · rw [if_neg fun isRemoved => inBaseline (removed.mp isRemoved).1]
          exact (lookup_eq_none_iff_not_mem baseline.entries key).mpr inBaseline
  · have sameKeys := permuted.map Prod.fst
    refine ⟨_, diffEnv_renderEntry baseline reordered
      (fun entry member => wellFormed entry (permuted.subset member))
      (sameKeys.nodup_iff.mpr distinct), ?_⟩
    have sameRemoved : removedRecords baseline reordered = removedRecords baseline entries := by
      simp only [removedRecords, sameKeys.mem_iff]
    rw [sameRemoved]
    exact (permuted.filterMap _).append_right _

/-- The baseline `{A=1, B=2}` of the spec's example. -/
def exampleBaseline : EnvMap :=
  ⟨[("A".toList, "1".toList), ("B".toList, "2".toList)], by decide⟩

theorem diffEnv_reports_exactly_example :
    (∀ entry ∈ [("A".toList, "1".toList), ("C".toList, "3".toList)],
        entry.1 ≠ [] ∧ '=' ∉ entry.1) ∧
      ([("A".toList, "1".toList), ("C".toList, "3".toList)].map Prod.fst).Nodup ∧
      ∃ records, diffEnv exampleBaseline
          ([("A".toList, "1".toList), ("C".toList, "3".toList)].map renderEntry) = some records ∧
        records.Perm (modifiedRecords exampleBaseline
            [("A".toList, "1".toList), ("C".toList, "3".toList)] ++
          addedRecords exampleBaseline [("A".toList, "1".toList), ("C".toList, "3".toList)] ++
          removedRecords exampleBaseline [("A".toList, "1".toList), ("C".toList, "3".toList)]) ∧
        (∀ key, (applyRecords exampleBaseline records).get key =
          [("A".toList, "1".toList), ("C".toList, "3".toList)].lookup key) ∧
        ∀ reordered : List (List Char × List Char),
          reordered.Perm [("A".toList, "1".toList), ("C".toList, "3".toList)] →
          ∃ reorderedRecords,
            diffEnv exampleBaseline (reordered.map renderEntry) = some reorderedRecords ∧
              reorderedRecords.Perm records :=
  ⟨by decide, by decide,
    diffEnv_reports_exactly exampleBaseline _ (by decide) (by decide)⟩

example :
    diffEnv exampleBaseline ["A=1".toList, "C=3".toList] =
      some [.added "C".toList "3".toList, .removed "B".toList "2".toList] := by
  decide

/-! ### Every envp whose entries split

Without the preconditions of `diffEnv_reports_exactly`: keys may repeat, be
empty or start with `=`.  The working copy is then the baseline without the keys seen so far, so an entry
whose key an earlier entry had is reported as added again, whatever the
baseline holds. -/

/-- The pairs the splits of an envp give, skipping the entries whose split
panics. -/
def splitPairs (envp : List (List Char)) : List (List Char × List Char) :=
  envp.filterMap fun item => (splitEnvpEntry item).2

/-- The report of the loop over the envp, by the keys already seen: an entry
with a new key is classified against the baseline, and an entry whose key an
earlier entry had is reported as added. -/
def reportFrom (baseline : EnvMap) : List (List Char) → List (List Char × List Char) →
    List DiffRecord
  | _, [] => []
  | seen, entry :: rest =>
      (if entry.1 ∈ seen then some (DiffRecord.added entry.1 entry.2)
        else classify baseline entry).toList ++ reportFrom baseline (entry.1 :: seen) rest

theorem reportFrom_append (baseline : EnvMap) (seen : List (List Char))
    (first second : List (List Char × List Char)) :
    reportFrom baseline seen (first ++ second) = reportFrom baseline seen first ++
      reportFrom baseline ((first.map Prod.fst).reverse ++ seen) second := by
  induction first generalizing seen with
  | nil => simp [reportFrom]
  | cons entry rest ih => simp [reportFrom, ih]

theorem classify_withoutKeys (baseline : EnvMap) (seen : List (List Char))
    (entry : List Char × List Char) :
    classify (baseline.withoutKeys seen) entry =
      if entry.1 ∈ seen then some (.added entry.1 entry.2) else classify baseline entry := by
  by_cases member : entry.1 ∈ seen <;> simp [classify, EnvMap.get_withoutKeys, member]

/-- The loop invariant for any envp: started on the baseline without the keys
seen, the loop ends on the baseline without every key seen or split, and
reports what `reportFrom` says. -/
theorem diffEnvp_withoutKeys (baseline : EnvMap) (seen : List (List Char))
    (envp : List (List Char)) (splits : ∀ item ∈ envp, (splitEnvpEntry item).2.isSome) :
    diffEnvp (baseline.withoutKeys seen) envp =
      some (baseline.withoutKeys (((splitPairs envp).map Prod.fst).reverse ++ seen),
        reportFrom baseline seen (splitPairs envp)) := by
  induction envp generalizing seen with
  | nil => simp [diffEnvp, splitPairs, reportFrom]
  | cons item rest ih =>
      obtain ⟨⟨key, value⟩, split⟩ := Option.isSome_iff_exists.mp
        (splits item (List.mem_cons_self _ _))
      have restLoop := ih (key :: seen) fun other member => splits other
        (List.mem_cons_of_mem _ member)
      simp only [diffEnvp, split, diffEntry_eq, EnvMap.remove_withoutKeys, restLoop,
        classify_withoutKeys, splitPairs, List.filterMap_cons, reportFrom]
      simp [splitPairs]

/-- For every envp whose entries all split, the diff is the report by keys
seen, followed by a `-` record for each baseline variable whose key no entry
has, in the baseline's iteration order. -/
theorem diffEnv_of_splits (baseline : EnvMap) (envp : List (List Char))
    (splits : ∀ item ∈ envp, (splitEnvpEntry item).2.isSome) :
    diffEnv baseline envp = some (reportFrom baseline [] (splitPairs envp) ++
      removedRecords baseline (splitPairs envp)) := by
  have loop := diffEnvp_withoutKeys baseline [] envp splits
  rw [EnvMap.withoutKeys_nil, List.append_nil] at loop
  simp only [diffEnv, loop, Option.map_some', removedRecords, EnvMap.withoutKeys]
  congr 4
  funext entry
  simp

theorem diffEnv_of_splits_example :
    (∀ item ∈ ["A=1".toList, "A=2".toList, "C=3".toList], (splitEnvpEntry item).2.isSome) ∧
      diffEnv exampleBaseline ["A=1".toList, "A=2".toList, "C=3".toList] =
        some (reportFrom exampleBaseline []
            (splitPairs ["A=1".toList, "A=2".toList, "C=3".toList]) ++
          removedRecords exampleBaseline
            (splitPairs ["A=1".toList, "A=2".toList, "C=3".toList])) :=
  ⟨by decide, diffEnv_of_splits exampleBaseline _ (by decide)⟩

/-- An envp entry whose key an earlier entry already had is reported as added,
with its own value, even when the baseline holds that key with that value: its
record comes right after the records of the entries before it. -/
theorem diffEnv_added_of_repeated (baseline : EnvMap) (before after : List (List Char))
    {item key value : List Char}
    (splits : ∀ other ∈ before ++ item :: after, (splitEnvpEntry other).2.isSome)
    (itemSplit : (splitEnvpEntry item).2 = some (key, value))
    (repeated : key ∈ (splitPairs before).map Prod.fst) :
    ∃ rest, diffEnv baseline (before ++ item :: after) =
      some (reportFrom baseline [] (splitPairs before) ++ DiffRecord.added key value :: rest) := by
  have loop := diffEnvp_withoutKeys baseline [] _ splits
  rw [EnvMap.withoutKeys_nil] at loop
  have pairs : splitPairs (before ++ item :: after) =
      splitPairs before ++ (key, value) :: splitPairs after := by
    simp [splitPairs, List.filterMap_append, itemSplit]
  rw [diffEnv, loop, pairs, reportFrom_append]
  simp [reportFrom, repeated]

theorem diffEnv_added_of_repeated_example :
    (∀ other ∈ ["A=1".toList] ++ "A=1".toList :: [], (splitEnvpEntry other).2.isSome) ∧
      (splitEnvpEntry "A=1".toList).2 = some ("A".toList, "1".toList) ∧
      "A".toList ∈ (splitPairs ["A=1".toList]).map Prod.fst ∧
      exampleBaseline.get "A".toList = some "1".toList ∧
      ∃ rest, diffEnv exampleBaseline (["A=1".toList] ++ "A=1".toList :: []) =
        some (reportFrom exampleBaseline [] (splitPairs ["A=1".toList]) ++
          DiffRecord.added "A".toList "1".toList :: rest) :=
  ⟨by decide, by decide, by decide, by decide,
    diffEnv_added_of_repeated exampleBaseline _ _ (by decide) (by decide) (by decide)⟩

/-! ### Replaying the diff

What the records say, whatever the envp: replayed on the baseline they give the
traced environment, each key with the value of its last entry. -/

/-- The records of one entry of `reportFrom`: its key takes its value, every
other key keeps the one it had. -/
theorem get_applyRecords_seen (baseline env : EnvMap) (seen : List (List Char))
    (entry : List Char × List Char)
    (agrees : entry.1 ∉ seen → env.get entry.1 = baseline.get entry.1) (key : List Char) :
    (applyRecords env (if entry.1 ∈ seen then some (DiffRecord.added entry.1 entry.2)
        else classify baseline entry).toList).get key =
      if key = entry.1 then some entry.2 else env.get key := by
  by_cases member : entry.1 ∈ seen
  · rw [if_pos member]
    by_cases same : key = entry.1 <;>
      simp [applyRecords, DiffRecord.apply, same, EnvMap.get_insert_of_ne]
  · rw [if_neg member]
    exact get_applyRecords_classify baseline env entry (agrees member) key

/-- Replaying `reportFrom` on a map that agrees with the baseline off the keys
seen gives each key of the pairs its last value, and every other key the value
it had. -/
theorem get_applyRecords_reportFrom (baseline env : EnvMap) (seen : List (List Char))
    (pairs : List (List Char × List Char))
    (agrees : ∀ key, key ∉ seen → env.get key = baseline.get key) (key : List Char) :
    (applyRecords env (reportFrom baseline seen pairs)).get key =
      (pairs.reverse.lookup key).or (env.get key) := by
  induction pairs generalizing env seen with
  | nil => rfl
  | cons entry rest ih =>
      obtain ⟨first, second⟩ := entry
      have step := get_applyRecords_seen baseline env seen (first, second) (agrees first)
      rw [reportFrom, applyRecords_append, ih _ (first :: seen), step, List.reverse_cons,
        List.lookup_append]
      · by_cases same : key = first
        · simp [same, Option.or_assoc]
        · have notFirst : (key == first) = false := by simpa using same
          simp [same, List.lookup_cons, notFirst]
      · intro other fresh
        have different : other ≠ first := fun same => fresh (same ▸ List.mem_cons_self _ _)
        rw [step, if_neg different]
        exact agrees other fun member => fresh (List.mem_cons_of_mem _ member)

/-- For every envp whose entries all split, replaying the diff's records on the
baseline gives every key the value of its last entry in the envp, and no value
to a key no entry has. -/
theorem applyRecords_diffEnv_of_splits (baseline : EnvMap) (envp : List (List Char))
    (splits : ∀ item ∈ envp, (splitEnvpEntry item).2.isSome) :
    ∃ records, diffEnv baseline envp = some records ∧
      ∀ key, (applyRecords baseline records).get key = (splitPairs envp).reverse.lookup key := by
  have loop := diffEnvp_withoutKeys baseline [] envp splits
  rw [EnvMap.withoutKeys_nil, List.append_nil] at loop
  refine ⟨_, by rw [diffEnv, loop]; rfl, fun key => ?_⟩
  rw [applyRecords_append, get_applyRecords_removed,
    get_applyRecords_reportFrom baseline baseline [] _ (fun _ _ => rfl)]
  have working := EnvMap.get_withoutKeys baseline ((splitPairs envp).map Prod.fst).reverse key
  have reversed : (splitPairs envp).reverse.lookup key = none ↔
      key ∉ (splitPairs envp).map Prod.fst := by
    rw [lookup_eq_none_iff_not_mem, List.map_reverse, List.mem_reverse]
  by_cases seen : key ∈ (splitPairs envp).map Prod.fst
  · rw [if_pos (List.mem_reverse.mpr seen)] at working
    obtain ⟨value, found⟩ := Option.ne_none_iff_exists'.mp (reversed.not.mpr (not_not.mpr seen))
    rw [if_neg ((lookup_eq_none_iff_not_mem _ key).mp working), found]
    rfl
  · rw [if_neg (mt List.mem_reverse.mp seen)] at working
    rw [reversed.mpr seen]
    split_ifs with kept
    · rfl
    · exact (((lookup_eq_none_iff_not_mem _ key).mpr kept).symm.trans working).symm

theorem applyRecords_diffEnv_of_splits_example :
    (∀ item ∈ ["A=1".toList, "A=2".toList, "C=3".toList], (splitEnvpEntry item).2.isSome) ∧
      ∃ records, diffEnv exampleBaseline ["A=1".toList, "A=2".toList, "C=3".toList] =
          some records ∧
        ∀ key, (applyRecords exampleBaseline records).get key =
          (splitPairs ["A=1".toList, "A=2".toList, "C=3".toList]).reverse.lookup key :=
  ⟨by decide, applyRecords_diffEnv_of_splits exampleBaseline _ (by decide)⟩

end Tracexec.Printer
