import Mathlib.Data.List.Count
import Mathlib.Data.List.Perm.Basic
import Kergit.Lib.Maps

/-!
Values behind reference counts, written through a table and read as snapshots.

A `Heap` holds cells with their use counts, as `std::shared_ptr` keeps them.  A `Table` owns
one cell per key and hands out references to readers, who keep what they got for as long as
they like.  To change a value the table looks at the cell's count: alone on it, it writes in
place; otherwise it moves its slot to a copy (`Heap.own`).

A reader remembers what it saw when it got its reference.  `Table.Sound` says that the
counts are right and that every reader still sees that value.  All operations keep it, and
what they do to the table is said by `get` alone, so that a user of the table never thinks
of cells.

`swapErase` takes an element out of a vector by moving the last one into its place.
-/

namespace Kergit.Lib

/-! ## Cells -/

namespace CopyOnWrite

structure Heap (β : Type) where
  cells : Nat → β
  count : Nat → Nat := fun _ => 0
  next : Nat := 0

namespace Heap

variable {β : Type} (h : Heap β) (a : Nat) (v : β)

/-- A new cell, with one reference to it. -/
def alloc : Nat × Heap β :=
  (h.next, {
    cells := fun c => if c = h.next then v else h.cells c
    count := fun c => if c = h.next then 1 else h.count c
    next := h.next + 1 })

def write : Heap β := { h with cells := fun c => if c = a then v else h.cells c }

def retain : Heap β := { h with count := fun c => if c = a then h.count c + 1 else h.count c }

def release : Heap β := { h with count := fun c => if c = a then h.count c - 1 else h.count c }

/-- A cell of one's own with the contents of `a`, given a reference to `a`. -/
def own : Nat × Heap β :=
  if 1 < h.count a then
    ((h.alloc (h.cells a)).1, (h.alloc (h.cells a)).2.release a)
  else (a, h)

/-- The counts are those of the references, and all of them lead to a cell. -/
structure Counted (h : Heap β) (refs : List Nat) : Prop where
  count_eq : ∀ c, h.count c = refs.count c
  allocated : ∀ c ∈ refs, c < h.next

variable {h a v} {refs refs' : List Nat}

theorem Counted.perm (counted : h.Counted refs) (same : refs.Perm refs') : h.Counted refs' where
  count_eq c := (counted.count_eq c).trans (same.count_eq c)
  allocated c listed := counted.allocated c (same.mem_iff.mpr listed)

theorem Counted.alloc (counted : h.Counted refs) (v : β) :
    (h.alloc v).2.Counted ((h.alloc v).1 :: refs) where
  count_eq c := by
    simp only [Heap.alloc]
    by_cases fresh : c = h.next
    · have unused : h.next ∉ refs := fun listed => Nat.lt_irrefl _ (counted.allocated _ listed)
      rw [if_pos fresh, fresh, List.count_cons_self, List.count_eq_zero.mpr unused]
    · rw [if_neg fresh, List.count_cons_of_ne (Ne.symm fresh)]
      exact counted.count_eq c
  allocated c listed := by
    simp only [Heap.alloc] at listed ⊢
    rcases List.mem_cons.mp listed with rfl | before
    · omega
    · have := counted.allocated c before
      omega

theorem Counted.retain (counted : h.Counted refs) (known : a < h.next) :
    (h.retain a).Counted (a :: refs) where
  count_eq c := by
    simp only [Heap.retain]
    by_cases here : c = a
    · rw [if_pos here, here, List.count_cons_self, counted.count_eq]
    · rw [if_neg here, List.count_cons_of_ne (Ne.symm here), counted.count_eq]
  allocated c listed := by
    rcases List.mem_cons.mp listed with rfl | before
    · exact known
    · exact counted.allocated c before

theorem Counted.release (counted : h.Counted (a :: refs)) : (h.release a).Counted refs where
  count_eq c := by
    simp only [Heap.release]
    by_cases here : c = a
    · rw [if_pos here, counted.count_eq, here, List.count_cons_self, Nat.add_sub_cancel]
    · rw [if_neg here, counted.count_eq, List.count_cons_of_ne (Ne.symm here)]
  allocated c listed := counted.allocated c (List.mem_cons_of_mem a listed)

theorem Counted.write (counted : h.Counted refs) : (h.write a v).Counted refs where
  count_eq := counted.count_eq
  allocated := counted.allocated

/-- What `own` gives is nobody else's, holds what `a` held, and moves no other cell. -/
theorem Counted.own (counted : h.Counted (a :: refs)) :
    (h.own a).2.Counted ((h.own a).1 :: refs) ∧ (h.own a).1 ∉ refs ∧
      (h.own a).2.cells (h.own a).1 = h.cells a ∧
      ∀ c ∈ refs, (h.own a).2.cells c = h.cells c := by
  unfold Heap.own
  split
  · have unused : h.next ∉ refs := fun listed =>
      Nat.lt_irrefl _ (counted.allocated _ (List.mem_cons_of_mem a listed))
    refine ⟨?_, unused, if_pos rfl, fun c listed => if_neg ?_⟩
    · exact ((counted.alloc (h.cells a)).perm (.swap a h.next refs)).release
    · rintro rfl
      exact unused listed
  · have once := counted.count_eq a
    grind

end Heap

/-! ## Tables -/

/-- A reference handed out, with the value its holder found behind it. -/
structure Reader (β : Type) where
  cell : Nat
  seen : β

structure Table (K β : Type) where
  heap : Heap β
  slots : Map K Nat := ∅
  readers : List (Reader β) := []

namespace Table

variable {K β : Type} [DecidableEq K] (t : Table K β) (k : K)

def empty [Inhabited β] : Table K β := { heap := { cells := fun _ => default } }

/-- The value at a key. -/
def get : Option β := (t.slots.lookup k).map t.heap.cells

/-- A fresh value at a key. -/
def create (v : β) : Table K β :=
  { t with
    heap := (t.heap.alloc v).2
    slots := t.slots.insert k (t.heap.alloc v).1 }

/-- Change the value at a key, on a copy if a reader holds the present one. -/
def update (f : β → β) : Table K β :=
  match t.slots.lookup k with
  | none => t
  | some a =>
    let own := t.heap.own a
    { t with
      heap := own.2.write own.1 (f (own.2.cells own.1))
      slots := t.slots.insert k own.1 }

def remove : Table K β :=
  match t.slots.lookup k with
  | none => t
  | some a => { t with heap := t.heap.release a, slots := t.slots.erase k }

/-- Hand out a reference to the value at a key. -/
def hold : Table K β :=
  match t.slots.lookup k with
  | none => t
  | some a =>
    { t with heap := t.heap.retain a, readers := ⟨a, t.heap.cells a⟩ :: t.readers }

/-- The reader at a place lets its reference go. -/
def letGo (place : Nat) : Table K β :=
  match t.readers[place]? with
  | none => t
  | some reader =>
    { t with heap := t.heap.release reader.cell, readers := t.readers.eraseIdx place }

/-- All references: those of the table and those of the readers. -/
def refs : List Nat := t.slots.entries.map (·.2) ++ t.readers.map (·.cell)

/-- The counts are right, and readers see what they saw. -/
structure Sound (t : Table K β) : Prop where
  counted : t.heap.Counted t.refs
  held : ∀ reader ∈ t.readers, t.heap.cells reader.cell = reader.seen

variable {t k} {f : β → β} {v : β} {a : Nat}

theorem refs_perm (found : t.slots.lookup k = some a) :
    t.refs.Perm (a :: ((t.slots.erase k).entries.map (·.2) ++ t.readers.map (·.cell))) := by
  have entries := Map.entries_perm_of_lookup t.slots k a found
  exact (entries.map _).append_right _

theorem refs_insert_perm (slots : Map K Nat) (readers : List (Reader β)) (heap : Heap β) :
    (Table.mk heap (slots.insert k a) readers).refs =
      a :: ((slots.erase k).entries.map (·.2) ++ readers.map (·.cell)) := rfl

omit [DecidableEq K] in
theorem mem_refs_reader {reader : Reader β} (listed : reader ∈ t.readers) (slots : Map K Nat) :
    reader.cell ∈ slots.entries.map (·.2) ++ t.readers.map (·.cell) :=
  List.mem_append_right _ (List.mem_map_of_mem listed)

/-- Another key's cell is one of the other references. -/
theorem mem_refs_slot {other : K} {b : Nat} (differ : other ≠ k)
    (found : t.slots.lookup other = some b) :
    b ∈ (t.slots.erase k).entries.map (·.2) ++ t.readers.map (·.cell) := by
  have kept : (t.slots.erase k).lookup other = some b := by
    rw [Map.lookup_erase_if, if_neg differ]
    exact found
  have listed := AList.mem_lookup_iff.mp (Option.mem_def.mpr kept)
  exact List.mem_append_left _ (List.mem_map_of_mem (f := (·.2)) listed)

theorem get_of_kept {heap : Heap β} {slots : Map K Nat} {readers : List (Reader β)}
    (same : slots.lookup other = t.slots.lookup other)
    (cells : ∀ b, t.slots.lookup other = some b → heap.cells b = t.heap.cells b) :
    (Table.mk heap slots readers).get other = t.get other := by
  simp only [get, same]
  cases found : t.slots.lookup other with
  | none => rfl
  | some b => exact congrArg some (cells b found)

theorem get_eq_none : t.get k = none ↔ t.slots.lookup k = none := Option.map_eq_none_iff

omit [DecidableEq K] in
theorem sound_empty [Inhabited β] : (empty : Table K β).Sound where
  counted := ⟨fun _ => rfl, nofun⟩
  held := nofun

section

variable (sound : t.Sound)

include sound

theorem Sound.create (absent : t.get k = none) (v : β) :
    (t.create k v).Sound ∧
      ∀ other, (t.create k v).get other = if other = k then some v else t.get other := by
  have unslotted : t.slots.lookup k = none := get_eq_none.mp absent
  have erased : t.slots.erase k = t.slots := Map.erase_absent _ _ unslotted
  have old : ∀ c ∈ t.refs, (t.heap.alloc v).2.cells c = t.heap.cells c := fun c listed =>
    if_neg fun fresh => Nat.lt_irrefl _ (fresh ▸ sound.counted.allocated c listed)
  refine ⟨⟨?_, fun reader listed => ?_⟩, fun other => ?_⟩
  · rw [Table.create, refs_insert_perm, erased]
    exact sound.counted.alloc v
  · exact (old _ (mem_refs_reader listed _)).trans (sound.held reader listed)
  · by_cases here : other = k
    · rw [if_pos here, get, Table.create, Map.lookup_insert_if, if_pos here]
      exact congrArg some (if_pos rfl)
    · rw [if_neg here]
      refine get_of_kept (by rw [Map.lookup_insert_if, if_neg here]) fun b found => old b ?_
      have listed := mem_refs_slot here found
      rwa [erased] at listed

theorem Sound.update (k : K) (f : β → β) :
    (t.update k f).Sound ∧
      ∀ other, (t.update k f).get other = if other = k then (t.get k).map f else t.get other := by
  unfold Table.update
  cases found : t.slots.lookup k with
  | none =>
    refine ⟨sound, fun other => ?_⟩
    by_cases here : other = k
    · rw [if_pos here, here, get_eq_none.mpr found]
      rfl
    · exact (if_neg here).symm
  | some a =>
    obtain ⟨counted, mine, copied, kept⟩ := (sound.counted.perm (refs_perm found)).own
    -- A cell with another reference to it is not the one written.
    have untouched : ∀ c ∈ (t.slots.erase k).entries.map (·.2) ++ t.readers.map (·.cell),
        ((t.heap.own a).2.write (t.heap.own a).1
          (f ((t.heap.own a).2.cells (t.heap.own a).1))).cells c = t.heap.cells c := by
      intro c listed
      have differ : c ≠ (t.heap.own a).1 := fun same => mine (same ▸ listed)
      exact (if_neg differ).trans (kept c listed)
    refine ⟨⟨counted.write, fun reader listed => ?_⟩, fun other => ?_⟩
    · exact (untouched _ (mem_refs_reader listed _)).trans (sound.held reader listed)
    · by_cases here : other = k
      · rw [if_pos here, get, Map.lookup_insert_if, if_pos here, get, found]
        change some (if _ = _ then _ else _) = some (f (t.heap.cells a))
        rw [if_pos rfl, copied]
      · rw [if_neg here]
        exact get_of_kept (by rw [Map.lookup_insert_if, if_neg here])
          fun b slot => untouched b (mem_refs_slot here slot)

theorem Sound.remove (k : K) :
    (t.remove k).Sound ∧
      ∀ other, (t.remove k).get other = if other = k then none else t.get other := by
  unfold Table.remove
  cases found : t.slots.lookup k with
  | none =>
    refine ⟨sound, fun other => ?_⟩
    by_cases here : other = k
    · rw [if_pos here, here, get_eq_none.mpr found]
    · exact (if_neg here).symm
  | some a =>
    refine ⟨⟨(sound.counted.perm (refs_perm found)).release, sound.held⟩, fun other => ?_⟩
    by_cases here : other = k
    · rw [if_pos here, get, Map.lookup_erase_if, if_pos here]
      rfl
    · rw [if_neg here]
      exact get_of_kept (by rw [Map.lookup_erase_if, if_neg here]) fun _ _ => rfl

theorem Sound.hold (k : K) : (t.hold k).Sound ∧ ∀ other, (t.hold k).get other = t.get other := by
  unfold Table.hold
  cases found : t.slots.lookup k with
  | none => exact ⟨sound, fun _ => rfl⟩
  | some a =>
    refine ⟨⟨?_, fun reader listed => ?_⟩, fun _ => rfl⟩
    · have known : a < t.heap.next :=
        sound.counted.allocated a ((refs_perm found).mem_iff.mpr List.mem_cons_self)
      exact (sound.counted.retain known).perm List.perm_middle.symm
    · rcases List.mem_cons.mp listed with rfl | before
      · rfl
      · exact sound.held reader before

theorem Sound.letGo (place : Nat) :
    (t.letGo place).Sound ∧ ∀ other, (t.letGo place).get other = t.get other := by
  unfold Table.letGo
  cases found : t.readers[place]? with
  | none => exact ⟨sound, fun _ => rfl⟩
  | some reader =>
    obtain ⟨bound, rfl⟩ := List.getElem?_eq_some_iff.mp found
    have apart : t.refs.Perm (t.readers[place].cell ::
        (t.slots.entries.map (·.2) ++ (t.readers.eraseIdx place).map (·.cell))) := by
      have readers := (List.getElem_cons_eraseIdx_perm bound).symm.map Reader.cell
      exact (readers.append_left _).trans List.perm_middle
    refine ⟨⟨(sound.counted.perm apart).release, fun reader listed => ?_⟩, fun _ => rfl⟩
    exact sound.held reader (List.mem_of_mem_eraseIdx listed)

end

end Table

end CopyOnWrite

/-! ## Vectors without order -/

section SwapErase

variable {α : Type} [DecidableEq α]

/-- Take the first `x` out by moving the last element into its place. -/
def swapErase (vec : List α) (x : α) : List α :=
  match vec.getLast? with
  | none => vec
  | some last => if x ∈ vec then (vec.set (vec.idxOf x) last).dropLast else vec

theorem swapErase_perm (vec : List α) (x : α) : (swapErase vec x).Perm (vec.erase x) := by
  by_cases listed : x ∈ vec
  · obtain ⟨front, back, absent, whole, erased⟩ := List.exists_erase_eq listed
    have place : vec.idxOf x = front.length := by
      rw [whole, List.idxOf_append_of_notMem absent, List.idxOf_cons_self, Nat.add_zero]
    have moved : ∀ last, vec.getLast? = some last →
        swapErase vec x = (front ++ last :: back).dropLast := by
      intro last ends
      unfold swapErase
      rw [ends]
      dsimp only
      rw [if_pos listed, place, whole, List.set_append_right _ _ le_rfl, Nat.sub_self,
        List.set_cons_zero]
    rw [erased]
    rcases back.eq_nil_or_concat with rfl | ⟨middle, last, rfl⟩
    · rw [moved x (by rw [whole, List.getLast?_concat]), List.dropLast_concat, List.append_nil]
    · rw [List.concat_eq_append] at *
      have ends : vec.getLast? = some last := by
        rw [whole, ← List.cons_append, ← List.append_assoc, List.getLast?_concat]
      rw [moved last ends, ← List.cons_append, ← List.append_assoc, List.dropLast_concat]
      apply List.Perm.append_left
      exact (List.perm_append_singleton last middle).symm
  · rw [List.erase_of_not_mem listed]
    unfold swapErase
    split
    · rfl
    · rw [if_neg listed]

end SwapErase

end Kergit.Lib
