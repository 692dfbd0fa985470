import Kergit.Lib.Maps
import Kergit.Lib.Staged
import Mathlib.Logic.Function.Basic

/-!
The pool of database connections.

A caller takes a slot under the lock and makes the slot's connection outside it; the
index is changed, with the slot, in a second critical section.  In between the slot is
off the free list, so that nobody else comes near it.

- `Inv`: every slot is free once or leased once, and the index is the inverse of the slots.
- `connections_conserved`: it holds whatever the callers do and however they interleave.
-/

namespace Kergit

open Lib

/-- Where a caller is.  `slot` is its local `index`; of a lease only the connection is kept,
and the slot is here for the record. -/
inductive Caller where
  | idle
  | acquiring (slot : Nat)
  | holding (slot conn : Nat)
  | refreshing (slot conn : Nat)

namespace Caller

@[grind]
def slot : Caller → Option Nat
  | idle => none
  | acquiring slot | holding slot _ | refreshing slot _ => some slot

@[grind]
def conn : Caller → Option Nat
  | idle | acquiring _ => none
  | holding _ conn | refreshing _ conn => some conn

theorem slot_of_conn {c : Caller} {conn : Nat} (is : c.conn = some conn) :
    ∃ slot, c.slot = some slot := by
  cases c with
  | idle | acquiring slot => nomatch is
  | holding slot conn | refreshing slot conn => exact ⟨slot, rfl⟩

end Caller

-- `ConnectionPool`; a connection is its address, and the back of the free slots
-- stands first.
structure ConnectionPool where
  size : Nat
  slots : Nat → Option Nat
  freeSlots : List Nat
  connIndex : Map Nat Nat
  callers : Nat → Caller

/-- What a caller does next, and what comes of it. -/
inductive PoolInput where
  | acquire (t : Nat)
  | found (t : Nat)
  | opened (t fresh : Nat)
  | failed (t : Nat)
  | refresh (t : Nat)
  | release (t : Nat)

namespace ConnectionPool

variable (p : ConnectionPool)

def goto (t : Nat) (c : Caller) : ConnectionPool :=
  { p with callers := Function.update p.callers t c }

def pushFree (slot : Nat) : ConnectionPool := { p with freeSlots := slot :: p.freeSlots }

def swapIn (slot fresh : Nat) : ConnectionPool :=
  { p with
    slots := Function.update p.slots slot (some fresh)
    connIndex := ((p.slots slot).elim p.connIndex fun old => p.connIndex.erase old).insert fresh slot }

/-- The address of a new connection is not one in use. -/
def Unused (conn : Nat) : Prop := ∀ slot < p.size, p.slots slot ≠ some conn

instance (conn : Nat) : Decidable (p.Unused conn) :=
  inferInstanceAs (Decidable (∀ slot < p.size, p.slots slot ≠ some conn))

-- `ConnectionPool::acquire`, `refresh`, `release`, one critical section or one opening
-- of a connection at a time; a caller that times out or throws leaves things as they are.
def step : PoolInput → ConnectionPool
  | .acquire t =>
    match p.callers t, p.freeSlots with
    | .idle, slot :: rest => { p with freeSlots := rest }.goto t (.acquiring slot)
    | _, _ => p
  | .found t =>
    match p.callers t with
    | .acquiring slot => (p.slots slot).elim p fun conn => p.goto t (.holding slot conn)
    | _ => p
  | .opened t fresh =>
    if p.Unused fresh then
      match p.callers t with
      | .acquiring slot | .refreshing slot _ => (p.swapIn slot fresh).goto t (.holding slot fresh)
      | _ => p
    else p
  | .failed t =>
    match p.callers t with
    | .acquiring slot => (p.pushFree slot).goto t .idle
    | .refreshing slot conn => p.goto t (.holding slot conn)
    | _ => p
  | .refresh t =>
    match p.callers t with
    | .holding _ conn => (p.connIndex.lookup conn).elim p fun slot => p.goto t (.refreshing slot conn)
    | _ => p
  | .release t =>
    match p.callers t with
    | .holding _ conn => (p.connIndex.lookup conn).elim p fun slot => (p.pushFree slot).goto t .idle
    | _ => p

variable (size : Nat)

/-- Before any connection is opened. -/
def closed : ConnectionPool where
  size
  slots _ := none
  freeSlots := List.range size
  connIndex := ∅
  callers _ := .idle

-- the constructor, one connection that could be opened.
def warmUp (entry : Nat × Nat) : ConnectionPool :=
  if p.Unused entry.1 ∧ entry.2 < p.size then p.swapIn entry.2 entry.1 else p

-- the constructor, with the connections that could be opened.
def start (warm : List Nat) : ConnectionPool := run warmUp (closed size) warm.zipIdx

/-- Every slot is free once or leased once; the index is the inverse of the slots; a lease is of
the slot's own connection. -/
structure Inv : Prop where
  once : p.freeSlots.Nodup
  bounded : ∀ slot ∈ p.freeSlots, slot < p.size
  leased : ∀ t slot, (p.callers t).slot = some slot → slot < p.size ∧ slot ∉ p.freeSlots
  alone : ∀ t t' slot, (p.callers t).slot = some slot → (p.callers t').slot = some slot → t = t'
  complete : ∀ slot < p.size, slot ∈ p.freeSlots ∨ ∃ t, (p.callers t).slot = some slot
  indexed : ∀ conn slot, p.connIndex.lookup conn = some slot ↔
    slot < p.size ∧ p.slots slot = some conn
  held : ∀ t slot conn, (p.callers t).slot = some slot → (p.callers t).conn = some conn →
    p.slots slot = some conn

variable {p} {t slot conn fresh : Nat} {c : Caller}

theorem callers_goto : (p.goto t c).callers t = c := Function.update_self ..

/-- The index knows the connection of a lease. -/
theorem Inv.lookup_held (inv : p.Inv) (here : (p.callers t).slot = some slot)
    (holds : (p.callers t).conn = some conn) : p.connIndex.lookup conn = some slot :=
  (inv.indexed conn slot).mpr ⟨(inv.leased t slot here).1, inv.held t slot conn here holds⟩

theorem Inv.lookup_holding (inv : p.Inv) (is : p.callers t = .holding slot conn) :
    p.connIndex.lookup conn = some slot :=
  inv.lookup_held (congrArg Caller.slot is) (congrArg Caller.conn is)

/-! ## What a caller's own steps do -/

theorem step_acquire (idle : p.callers t = .idle) (free : p.freeSlots = slot :: rest) :
    p.step (.acquire t) = { p with freeSlots := rest }.goto t (.acquiring slot) := by
  simp only [step, idle, free]

theorem step_found (is : p.callers t = .acquiring slot) (found : p.slots slot = some conn) :
    p.step (.found t) = p.goto t (.holding slot conn) := by
  simp only [step, is, found, Option.elim_some]

theorem step_opened (unused : p.Unused fresh)
    (is : p.callers t = .acquiring slot ∨ p.callers t = .refreshing slot conn) :
    p.step (.opened t fresh) = (p.swapIn slot fresh).goto t (.holding slot fresh) := by
  rcases is with is | is <;> simp only [step, if_pos unused, is]

theorem step_unopened (is : p.callers t = .acquiring slot) :
    p.step (.failed t) = (p.pushFree slot).goto t .idle := by
  simp only [step, is]

theorem step_unrefreshed (is : p.callers t = .refreshing slot conn) :
    p.step (.failed t) = p.goto t (.holding slot conn) := by
  simp only [step, is]

theorem Inv.step_refresh (inv : p.Inv) (is : p.callers t = .holding slot conn) :
    p.step (.refresh t) = p.goto t (.refreshing slot conn) := by
  simp only [ConnectionPool.step, is, inv.lookup_holding is, Option.elim_some]

theorem Inv.step_release (inv : p.Inv) (is : p.callers t = .holding slot conn) :
    p.step (.release t) = (p.pushFree slot).goto t .idle := by
  simp only [ConnectionPool.step, is, inv.lookup_holding is, Option.elim_some]

/-- A caller that stays at its slot. -/
theorem Inv.stays (inv : p.Inv) (here : (p.callers t).slot = some slot) (stays : c.slot = some slot)
    (holds : ∀ conn, c.conn = some conn → p.slots slot = some conn) : (p.goto t c).Inv := by
  obtain ⟨once, bounded, leased, alone, complete, indexed, held⟩ := inv
  constructor <;> simp only [goto, Function.update_apply]
  case once => exact once
  case bounded => exact bounded
  case leased => grind
  case alone => grind
  case complete => grind
  case indexed => exact indexed
  case held => grind

/-- A caller that gives its slot back. -/
theorem Inv.leaves (inv : p.Inv) (here : (p.callers t).slot = some slot) :
    ((p.pushFree slot).goto t .idle).Inv := by
  obtain ⟨once, bounded, leased, alone, complete, indexed, held⟩ := inv
  constructor <;> simp only [goto, pushFree, Function.update_apply]
  case once => exact List.nodup_cons.mpr ⟨(leased t slot here).2, once⟩
  case bounded => grind
  case leased => grind
  case alone => grind
  case complete => grind
  case indexed => exact indexed
  case held => grind

/-- A caller that takes the first free slot. -/
theorem Inv.takes (inv : p.Inv) (free : p.freeSlots = slot :: rest)
    (idle : p.callers t = .idle) : ({ p with freeSlots := rest }.goto t (.acquiring slot)).Inv := by
  obtain ⟨once, bounded, leased, alone, complete, indexed, held⟩ := inv
  constructor <;> simp only [goto, Function.update_apply]
  case once => exact (List.nodup_cons.mp (free ▸ once)).2
  case bounded => grind
  case leased => grind
  case alone => grind
  case complete => grind
  case indexed => exact indexed
  case held => grind

theorem indexed_swapIn (indexed : ∀ conn slot, p.connIndex.lookup conn = some slot ↔
      slot < p.size ∧ p.slots slot = some conn) (bound : slot < p.size) (unused : p.Unused fresh)
    (conn other : Nat) : (p.swapIn slot fresh).connIndex.lookup conn = some other ↔
      other < p.size ∧ (p.swapIn slot fresh).slots other = some conn := by
  unfold Unused at unused
  simp only [swapIn, Function.update_apply]
  have mine := indexed conn slot
  cases is : p.slots slot with
  | none => grind
  | some old =>
    simp
    grind

/-- A caller that puts a new connection in. -/
theorem Inv.replaces (inv : p.Inv) (here : (p.callers t).slot = some slot)
    (unused : p.Unused fresh) : ((p.swapIn slot fresh).goto t (.holding slot fresh)).Inv := by
  have indexed := indexed_swapIn inv.indexed (inv.leased t slot here).1 unused
  obtain ⟨once, bounded, leased, alone, complete, -, held⟩ := inv
  constructor <;> simp only [goto, swapIn, Function.update_apply]
  case once => exact once
  case bounded => exact bounded
  case leased => grind
  case alone => grind
  case complete => grind
  case indexed => simpa only [swapIn, Function.update_apply] using indexed
  case held => grind

theorem Inv.step (inv : p.Inv) (input : PoolInput) : (p.step input).Inv := by
  unfold ConnectionPool.step
  cases input with
  | acquire t =>
    dsimp only
    split
    · rename_i idle free
      exact inv.takes free idle
    · exact inv
  | found t =>
    dsimp only
    split
    · rename_i slot is
      cases open_ : p.slots slot with
      | none => exact inv
      | some conn =>
        exact inv.stays (congrArg Caller.slot is) rfl fun _ held => open_.trans held
    · exact inv
  | opened t fresh =>
    dsimp only
    split
    · rename_i unused
      split
      · rename_i slot is
        exact inv.replaces (congrArg Caller.slot is) unused
      · rename_i slot conn is
        exact inv.replaces (congrArg Caller.slot is) unused
      · exact inv
    · exact inv
  | failed t =>
    dsimp only
    split
    · rename_i slot is
      exact inv.leaves (congrArg Caller.slot is)
    · rename_i slot conn is
      refine inv.stays (congrArg Caller.slot is) rfl fun _ held => ?_
      grind [inv.held t slot]
    · exact inv
  | refresh t =>
    dsimp only
    split
    · rename_i slot conn is
      rw [inv.lookup_holding is]
      refine inv.stays (congrArg Caller.slot is) rfl fun _ held => ?_
      grind [inv.held t slot]
    · exact inv
  | release t =>
    dsimp only
    split
    · rename_i slot conn is
      rw [inv.lookup_holding is]
      exact inv.leaves (congrArg Caller.slot is)
    · exact inv

theorem inv_closed : (closed size).Inv where
  once := List.nodup_range
  bounded _ := List.mem_range.mp
  leased _ _ := nofun
  alone _ _ _ := nofun
  complete _ bound := .inl (List.mem_range.mpr bound)
  indexed _ _ := ⟨nofun, fun is => absurd is.2 nofun⟩
  held _ _ _ := nofun

theorem inv_start (warm : List Nat) : (start size warm).Inv := by
  let Idle (p : ConnectionPool) : Prop := p.Inv ∧ ∀ t, p.callers t = .idle
  have kept : Idle (start size warm) := by
    refine run_invariant ?_ ⟨inv_closed size, fun _ => rfl⟩
    rintro p entry ⟨inv, idle⟩
    unfold warmUp
    split
    · rename_i fits
      refine ⟨{ inv with indexed := indexed_swapIn inv.indexed fits.2 fits.1, held := ?_ }, idle⟩
      intro t slot conn here
      exact absurd here (by simp [swapIn, idle t, Caller.slot])
    · exact ⟨inv, idle⟩
  exact kept.1

/-- **No connection is lost, shared or unknown**, whatever the callers do and however they
interleave. -/
theorem connections_conserved (size : Nat) (warm : List Nat) (inputs : List PoolInput) :
    let p := run step (start size warm) inputs
    p.Inv ∧
      (∀ t t' conn, (p.callers t).conn = some conn → (p.callers t').conn = some conn → t = t') ∧
      ∀ t slot conn, p.callers t = .holding slot conn → p.connIndex.lookup conn = some slot := by
  have inv : (run step (start size warm) inputs).Inv :=
    run_invariant (fun _ input inv => inv.step input) (inv_start size warm)
  refine ⟨inv, fun t t' conn first second => ?_, fun t slot conn is => ?_⟩
  · obtain ⟨slot, here⟩ := Caller.slot_of_conn first
    obtain ⟨slot', there⟩ := Caller.slot_of_conn second
    have same := (inv.lookup_held here first).symm.trans (inv.lookup_held there second)
    exact inv.alone t t' slot here (there.trans same.symm)
  · exact inv.lookup_holding is

end ConnectionPool

end Kergit
