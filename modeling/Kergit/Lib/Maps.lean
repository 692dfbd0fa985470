import Mathlib.Data.List.AList

/-!
Finite maps as the program's hash maps are read here: association lists whose
keys are distinct by construction.  Iteration order is the list's, and nothing
below depends on it.
-/

namespace Kergit.Lib

/-- A finite map from `K` to `V`. -/
abbrev Map (K V : Type*) := AList (fun _ : K => V)

namespace Map

variable {K V : Type*} [DecidableEq K]

section

variable (m : Map K V)

@[grind =] theorem lookup_insert_if (k a : K) (v : V) :
    (m.insert k v).lookup a = if a = k then some v else m.lookup a := by
  by_cases same : a = k
  · subst same; simp
  · simp [same]

@[grind =] theorem lookup_erase_if (k a : K) :
    (m.erase k).lookup a = if a = k then none else m.lookup a := by
  by_cases same : a = k
  · subst same; simp
  · simp [same]

theorem mem_iff_lookup (k : K) : k ∈ m ↔ ∃ v, m.lookup k = some v := by
  rw [← AList.lookup_isSome, Option.isSome_iff_exists]

theorem erase_absent (k : K) (absent : m.lookup k = none) : m.erase k = m := by
  refine AList.ext (List.kerase_of_notMem_keys ?_)
  exact AList.lookup_eq_none.mp absent

/-- The entry of a key, and the rest. -/
theorem entries_perm_of_lookup (k : K) (v : V) (found : m.lookup k = some v) :
    m.entries.Perm (⟨k, v⟩ :: (m.erase k).entries) := by
  have listed : k ∈ m.entries.keys := AList.mem_keys.mp ((mem_iff_lookup m k).mpr ⟨v, found⟩)
  obtain ⟨w, front, back, -, whole, rest⟩ := List.exists_of_kerase listed
  have here : (⟨k, w⟩ : Sigma fun _ : K => V) ∈ m.entries := by rw [whole]; simp
  have same : m.lookup k = some w := AList.mem_lookup_iff.mpr here
  obtain rfl : v = w := Option.some.inj (found.symm.trans same)
  change m.entries.Perm (⟨k, v⟩ :: m.entries.kerase k)
  rw [rest, whole]
  exact List.perm_middle

/-- `m.empty()`. -/
def isEmpty : Bool := m.entries.isEmpty

theorem isEmpty_iff : isEmpty m = true ↔ ∀ k, m.lookup k = none := by
  constructor
  · intro empty k
    rw [AList.lookup_eq_none, AList.mem_keys, AList.keys, List.isEmpty_iff.mp empty]
    exact List.not_mem_nil
  · intro absent
    rw [isEmpty]
    cases shape : m.entries with
    | nil => rfl
    | cons entry rest =>
      have missing := absent entry.1
      rw [AList.lookup_eq_none, AList.mem_keys, AList.keys, shape] at missing
      simp at missing

omit [DecidableEq K] in
theorem eq_empty_of_isEmpty (empty : isEmpty m = true) : m = ∅ :=
  AList.ext (List.isEmpty_iff.mp empty)

theorem isEmpty_eq_false_iff : isEmpty m = false ↔ ∃ k, k ∈ m := by
  rw [← Bool.not_eq_true, isEmpty_iff, not_forall]
  refine exists_congr fun k => ?_
  rw [mem_iff_lookup, ← Option.ne_none_iff_exists']

/-- The entries that pass a test. -/
def filter (keep : K → V → Bool) : Map K V where
  entries := m.entries.filter fun entry => keep entry.1 entry.2
  nodupKeys := m.nodupKeys.sublist List.filter_sublist

@[grind =] theorem lookup_filter (keep : K → V → Bool) (k : K) :
    (filter m keep).lookup k = (m.lookup k).filter (keep k) := by
  ext v
  rw [Option.filter_eq_some_iff, ← Option.mem_def, ← Option.mem_def, AList.mem_lookup_iff,
    AList.mem_lookup_iff]
  exact List.mem_filter

end

/-- The map of a list of rows; a later row overwrites an earlier one. -/
def gather (rows : List (K × V)) : Map K V := rows.foldl (fun m row => m.insert row.1 row.2) ∅

/-- Where no two rows disagree on a key, the map holds the rows. -/
theorem lookup_gather (rows : List (K × V)) (k : K) (v : V)
    (agree : ∀ k v v', (k, v) ∈ rows → (k, v') ∈ rows → v = v') :
    (gather rows).lookup k = some v ↔ (k, v) ∈ rows := by
  have general : ∀ m : Map K V, (rows.foldl (fun m row => m.insert row.1 row.2) m).lookup k = some v ↔
      (k, v) ∈ rows ∨ (∀ v', (k, v') ∉ rows) ∧ m.lookup k = some v := by
    induction rows with
    | nil => simp
    | cons row rest ih =>
      grind
  rw [gather, general]
  simp

section Nested

variable {L : Type*}

section

variable (m : Map K (Map L V))

/-- The inner map of a map of maps; a missing one reads as empty. -/
def inner (k : K) : Map L V := (m.lookup k).getD ∅

/-- Store an inner map, dropping its entry once it is empty. -/
def setInner (k : K) (rows : Map L V) : Map K (Map L V) :=
  if isEmpty rows then m.erase k else m.insert k rows

theorem inner_setInner (k a : K) (rows : Map L V) :
    inner (setInner m k rows) a = if a = k then rows else inner m a := by
  simp only [inner, setInner]
  by_cases empty : isEmpty rows = true
  · rw [if_pos empty, lookup_erase_if]
    split
    · exact (eq_empty_of_isEmpty _ empty).symm
    · rfl
  · rw [if_neg empty, lookup_insert_if]
    split <;> rfl

@[grind =] theorem inner_insert (k a : K) (rows : Map L V) :
    inner (m.insert k rows) a = if a = k then rows else inner m a := by
  simp only [inner, lookup_insert_if]
  split <;> rfl

@[grind =] theorem inner_erase (k a : K) :
    inner (m.erase k) a = if a = k then ∅ else inner m a := by
  simp only [inner, lookup_erase_if]
  split <;> rfl

/-- No inner map is kept empty. -/
def NoEmptyRows : Prop :=
  ∀ k rows, m.lookup k = some rows → isEmpty rows = false

end

theorem NoEmptyRows.setInner (kept : NoEmptyRows m) (k : K)
    (rows : Map L V) : NoEmptyRows (setInner m k rows) := by
  intro a found
  simp only [Map.setInner]
  split
  · rw [lookup_erase_if]
    split
    · simp
    · exact kept a found
  · rename_i nonempty
    rw [lookup_insert_if]
    split
    · rintro ⟨⟩
      exact Bool.not_eq_true _ ▸ nonempty
    · exact kept a found

end Nested

section Rows

/-- The list kept at a key; a missing one reads as empty. -/
def row (m : Map K (List V)) (k : K) : List V := (m.lookup k).getD []

/-- Store a list, dropping its entry once it is empty. -/
def setRow (m : Map K (List V)) (k : K) (values : List V) : Map K (List V) :=
  if values.isEmpty then m.erase k else m.insert k values

/-- No list is kept empty. -/
def NoEmptyLists (m : Map K (List V)) : Prop := ∀ k, m.lookup k ≠ some []

@[simp] theorem row_empty (k : K) : row (∅ : Map K (List V)) k = [] := rfl

section

variable (m : Map K (List V))

@[grind =] theorem row_insert (k a : K) (values : List V) :
    row (m.insert k values) a = if a = k then values else row m a := by
  simp only [row, lookup_insert_if]
  split <;> rfl

@[grind =] theorem row_erase (k a : K) : row (m.erase k) a = if a = k then [] else row m a := by
  simp only [row, lookup_erase_if]
  split <;> rfl

theorem row_setRow (k a : K) (values : List V) :
    row (setRow m k values) a = if a = k then values else row m a := by
  rw [setRow]
  split
  · rename_i empty
    rw [row_erase, List.isEmpty_iff.mp empty]
  · rw [row_insert]

theorem mem_iff_row (kept : NoEmptyLists m) (k : K) : k ∈ m ↔ ∃ v, v ∈ row m k := by
  rw [mem_iff_lookup]
  constructor
  · rintro ⟨values, found⟩
    have nonempty : values ≠ [] := fun empty => kept k (empty ▸ found)
    obtain ⟨v, rest, rfl⟩ := List.exists_cons_of_ne_nil nonempty
    exact ⟨v, by rw [row, found]; exact List.mem_cons_self⟩
  · rintro ⟨v, listed⟩
    cases found : m.lookup k with
    | none => simp [row, found] at listed
    | some values => exact ⟨values, rfl⟩

end

theorem NoEmptyLists.insert (kept : NoEmptyLists m) {k : K}
    (nonempty : values ≠ []) : NoEmptyLists (m.insert k values) := by
  intro a
  rw [lookup_insert_if]
  split
  · exact fun same => nonempty (Option.some.inj same)
  · exact kept a

theorem NoEmptyLists.erase {m : Map K (List V)} (kept : NoEmptyLists m) (k : K) :
    NoEmptyLists (m.erase k) := by
  intro a
  rw [lookup_erase_if]
  split
  · simp
  · exact kept a

theorem NoEmptyLists.setRow {m : Map K (List V)} (kept : NoEmptyLists m) (k : K)
    (values : List V) : NoEmptyLists (setRow m k values) := by
  rw [Map.setRow]
  split
  · exact kept.erase k
  · rename_i nonempty
    exact kept.insert fun empty => nonempty (List.isEmpty_iff.mpr empty)

variable [DecidableEq V]

/-- Take one value out of the list at a key. -/
def dropFrom (m : Map K (List V)) (k : K) (v : V) : Map K (List V) :=
  match m.lookup k with
  | none => m
  | some values => setRow m k (values.erase v)

@[grind =] theorem row_dropFrom (m : Map K (List V)) (k a : K) (v : V) :
    row (dropFrom m k v) a = if a = k then (row m k).erase v else row m a := by
  unfold dropFrom
  cases found : m.lookup k with
  | none =>
    have nothing : row m k = [] := by rw [row, found, Option.getD_none]
    grind
  | some values =>
    have kept : row m k = values := by rw [row, found, Option.getD_some]
    rw [row_setRow, kept]

theorem NoEmptyLists.dropFrom (kept : NoEmptyLists m) (k : K) (v : V) :
    NoEmptyLists (dropFrom m k v) := by
  rw [Map.dropFrom]
  split
  · exact kept
  · exact kept.setRow k _

/-- Take one value out of the lists at several keys. -/
theorem row_foldl_dropFrom (keys : List K) (m : Map K (List V)) (distinct : keys.Nodup) (a : K)
    (v : V) : row (keys.foldl (fun m k => dropFrom m k v) m) a =
      if a ∈ keys then (row m a).erase v else row m a := by
  induction keys generalizing m with
  | nil => simp
  | cons k rest ih =>
    obtain ⟨absent, distinct'⟩ := List.nodup_cons.mp distinct
    rw [List.foldl_cons, ih _ distinct', row_dropFrom]
    by_cases here : a = k
    · subst here
      simp [absent]
    · simp [here]

theorem NoEmptyLists.foldl_dropFrom (keys : List K) (kept : NoEmptyLists m)
    (v : V) : NoEmptyLists (keys.foldl (fun m k => Map.dropFrom m k v) m) := by
  induction keys generalizing m with
  | nil => exact kept
  | cons k rest ih => exact ih (kept.dropFrom k v)

end Rows

end Map

end Kergit.Lib
