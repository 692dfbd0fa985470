import Kergit.Lib.Maps

/-!
A key-value store whose entries expire, reached over a link that may be down.

`Store K V` is the store's content.  An entry may carry a deadline and is live
strictly before it; an expired entry is as good as absent whether or not the
store has dropped it yet.  `Link` is what the client sees during one
interaction: the store's clock, and which commands get through.  A write that
does not get through is dropped without a word, and a read that does not get
through finds nothing.
-/

namespace Kergit.Lib

structure Entry (V : Type*) where
  value : V
  deadline : Option Nat
deriving DecidableEq, Repr

def Entry.alive {V : Type*} (entry : Entry V) (now : Nat) : Bool :=
  match entry.deadline with
  | none => true
  | some deadline => decide (now < deadline)

abbrev Store (K V : Type*) := Map K (Entry V)

namespace Store

variable {K V : Type*} [DecidableEq K]

/-- The value a reader sees at time `now`. -/
def live (m : Store K V) (now : Nat) (k : K) : Option V :=
  (m.lookup k).bind fun entry => if entry.alive now then some entry.value else none

/-- What is left of an entry's lifetime at time `now`, if it has one. -/
def lifetime (m : Store K V) (now : Nat) (k : K) : Option Nat :=
  (m.lookup k).bind fun entry =>
    entry.deadline.bind fun deadline => if now < deadline then some (deadline - now) else none

def put (m : Store K V) (k : K) (v : V) (deadline : Option Nat) : Store K V :=
  m.insert k ⟨v, deadline⟩

variable {m : Store K V} {now ttl : Nat} {k a : K} {v : V}

theorem live_eq_some : m.live now k = some v ↔
    ∃ entry, m.lookup k = some entry ∧ entry.alive now = true ∧ entry.value = v := by
  unfold live
  cases found : m.lookup k with
  | none | some entry => simp

theorem live_earlier (live : m.live later k = some v) (before : now ≤ later) :
    m.live now k = some v := by
  obtain ⟨entry, found, alive, is⟩ := live_eq_some.mp live
  refine live_eq_some.mpr ⟨entry, found, ?_, is⟩
  unfold Entry.alive at alive ⊢
  split at alive
  · rfl
  · simp only [decide_eq_true_eq] at alive ⊢
    omega

theorem lookup_put_self (deadline : Option Nat) :
    (m.put k v deadline).lookup k = some ⟨v, deadline⟩ := by
  rw [put, Map.lookup_insert_if, if_pos rfl]

theorem live_put (deadline : Option Nat) : (m.put k v deadline).live now a =
    if a = k then (if Entry.alive ⟨v, deadline⟩ now then some v else none) else m.live now a := by
  simp only [live, put, Map.lookup_insert_if]
  split <;> rfl

theorem live_erase : live (m.erase k) now a = if a = k then none else m.live now a := by
  simp only [live, Map.lookup_erase_if]
  split <;> rfl

end Store

/-- The commands of the store's protocol that the client uses. -/
inductive Command where
  | get
  | setex
  | setnx
  | expire
  | ttl
  | del
deriving DecidableEq, Repr

/-- The store as one interaction finds it: its clock, and which commands on
which keys get through. -/
structure Link where
  now : Nat
  up : Command → String → Bool

namespace Link

variable {K V : Type*} [DecidableEq K]

/-- A link over which every command gets through. -/
def Up (link : Link) : Prop := ∀ command key, link.up command key = true

variable (link : Link) (name : K → String) (m : Store K V) (k : K)

def get : Option V := if link.up .get (name k) then m.live link.now k else none

def setex (ttl : Nat) (v : V) : Store K V :=
  if link.up .setex (name k) then m.put k v (some (link.now + ttl)) else m

def del : Store K V := if link.up .del (name k) then m.erase k else m

def ttl : Option Nat := if link.up .ttl (name k) then m.lifetime link.now k else none

/-- Write unless a live entry is there, then set the deadline.  Says whether it
wrote; `none` when either command was lost, and then the entry may be left
without a deadline. -/
def setnxex (ttl : Nat) (v : V) : Option Bool × Store K V :=
  if link.up .setnx (name k) then
    match m.live link.now k with
    | some _ => (some false, m)
    | none =>
      if link.up .expire (name k) then (some true, m.put k v (some (link.now + ttl)))
      else (none, m.put k v none)
  else (none, m)

variable {link name m k}

theorem get_up (up : link.Up) : link.get name m k = m.live link.now k := by
  simp [get, up .get (name k)]

theorem setex_up (up : link.Up) (ttl : Nat) (v : V) :
    link.setex name m k ttl v = m.put k v (some (link.now + ttl)) := by
  simp [setex, up .setex (name k)]

theorem del_up (up : link.Up) : link.del name m k = m.erase k := by
  simp [del, up .del (name k)]

theorem ttl_up (up : link.Up) : link.ttl name m k = m.lifetime link.now k := by
  simp [ttl, up .ttl (name k)]

end Link

end Kergit.Lib
