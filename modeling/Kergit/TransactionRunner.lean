import Kergit.ConnectionPool

/-!
The transaction runner, over its pool.

A run leases a connection, tries its transaction, and gives the connection back.  A transaction
whose connection breaks is tried again, on a new connection of the same lease, unless it is a write
that has come to its commit.  What the run does to the pool are steps of `ConnectionPool`.
-/

namespace Kergit

open Lib

open ConnectionPool (callers_goto)

/-- How a repository's write ends for its caller: an exception leaves the rows as they were, or
comes after the commit. -/
inductive WriteEnd where
  | returned
  | refused
  | inDoubt
deriving DecidableEq, Repr

namespace TransactionRunner

/-- What becomes of one attempt: it is committed; the connection breaks, before the commit or in
it; or another exception is thrown, before the commit or by it.  `fn` may not have been invoked
before the commit is. -/
inductive Attempt (α ε : Type) where
  | done (a : α)
  | broken (invoked : Bool)
  | brokenCommit (applied : Bool)
  | thrown (e : ε) (invoked : Bool)
  | thrownCommit (e : ε) (applied : Bool)

inductive RunError (ε : Type) where
  | transient
  | failure (e : ε)

namespace Attempt

variable {α ε : Type}

/-- Whether `fn` is invoked. -/
def invoked : Attempt α ε → Bool
  | done _ | brokenCommit _ | thrownCommit _ _ => true
  | broken invoked | thrown _ invoked => invoked

/-- Whether its effects are applied. -/
def applied : Attempt α ε → Bool
  | done _ => true
  | brokenCommit applied | thrownCommit _ applied => applied
  | broken _ | thrown _ _ => false

/-- The exception, if it is none of the connection. -/
def raised : Attempt α ε → Option ε
  | thrown e _ | thrownCommit e _ => some e
  | _ => none

/-- What is surfaced if there is no other attempt. -/
def result : Attempt α ε → Except (RunError ε) α
  | done a => .ok a
  | broken _ | brokenCommit _ => .error .transient
  | thrown e _ | thrownCommit e _ => .error (.failure e)

/-- A connection broke, and `safe_to_retry`. -/
def safeToRetry (idempotent : Bool) : Attempt α ε → Bool
  | broken _ => true
  | brokenCommit _ => idempotent
  | _ => false

theorem applied_of_ok {a : Attempt α ε} (is : a.result = .ok value) : a.applied = true := by
  cases a <;> first | rfl | cases is

theorem result_of_raised {a : Attempt α ε} (is : a.raised = some e) :
    a.result = .error (.failure e) := by
  cases a <;> cases is <;> rfl

/-- A break that is tried again is a break, and of a write one that applied nothing. -/
theorem of_safe {a : Attempt α ε} (safe : a.safeToRetry idempotent = true) :
    a.result = .error .transient ∧ a.raised = none ∧ (idempotent = false → a.applied = false) := by
  cases a with
  | broken invoked => exact ⟨rfl, rfl, fun _ => rfl⟩
  | brokenCommit applied =>
    refine ⟨rfl, rfl, fun write => ?_⟩
    rw [write] at safe
    cases safe
  | done | thrown | thrownCommit => cases safe

end Attempt

/-- What the run comes upon: whether the slot's connection is alive and whether another can be
opened, what becomes of the attempts and of the reconnects, and the addresses of new connections. -/
structure Script (α ε : Type) where
  alive : Bool
  opens : Bool
  attempt : Nat → Attempt α ε
  reconnects : Nat → Bool
  address : ConnectionPool → Nat
  unused : ∀ p : ConnectionPool, p.Unused (address p)

/-- What is surfaced, the attempts that were made, and the pool. -/
structure Outcome (α ε : Type) where
  result : Except (RunError ε) α
  made : List (Attempt α ε)
  pool : ConnectionPool

variable {α ε : Type} (idempotent : Bool) (script : Script α ε) (t : Nat) (p : ConnectionPool)

-- `ConnectionPool::lease`, by the caller `t`, in the pool as its wait for a free slot leaves it;
-- where it throws the caller is idle again.
def Script.lease : ConnectionPool :=
  let p := p.step (.acquire t)
  match p.callers t with
  | .acquiring slot =>
    if script.alive ∧ (p.slots slot).isSome then p.step (.found t)
    else if script.opens then p.step (.opened t (script.address p))
    else p.step (.failed t)
  | _ => p

-- `ConnectionLease::reconnect`.
def Script.reconnect (attempt : Nat) : ConnectionPool :=
  let p := p.step (.refresh t)
  if script.reconnects attempt then p.step (.opened t (script.address p)) else p.step (.failed t)

-- `TransactionRunner::run`, the loop, with the number of retries left.
def attempts : Nat → Nat → ConnectionPool → Outcome α ε
  | 0, attempt, p => ⟨(script.attempt attempt).result, [script.attempt attempt], p⟩
  | left + 1, attempt, p =>
    if (script.attempt attempt).safeToRetry idempotent then
      let p := script.reconnect t p attempt
      if script.reconnects attempt then
        let rest := attempts left (attempt + 1) p
        { rest with made := script.attempt attempt :: rest.made }
      else ⟨.error .transient, [script.attempt attempt], p⟩
    else ⟨(script.attempt attempt).result, [script.attempt attempt], p⟩

-- `TransactionRunner::run`; `kMaxAttempts` is two, and `~ConnectionLease` gives the
-- connection back whichever way the loop is left.
def run : Outcome α ε :=
  let p := script.lease t p
  match p.callers t with
  | .holding _ _ =>
    let out := attempts idempotent script t 1 1 p
    { out with pool := out.pool.step (.release t) }
  | _ => ⟨.error .transient, [], p⟩

/-! ## The connection -/

/-- The caller has a connection of the slot, and the other free slots are these. -/
structure Leased (t slot : Nat) (rest : List Nat) (p : ConnectionPool) : Prop where
  inv : p.Inv
  holds : ∃ conn, p.callers t = .holding slot conn
  free : p.freeSlots = rest

variable {idempotent script t p}

theorem leased_opened (conn : Nat) (inv : p.Inv) (unused : p.Unused fresh)
    (is : p.callers t = .acquiring slot ∨ p.callers t = .refreshing slot conn) :
    Leased t slot p.freeSlots (p.step (.opened t fresh)) := by
  refine ⟨inv.step _, ⟨fresh, ?_⟩, ?_⟩ <;> rw [ConnectionPool.step_opened unused is]
  · exact callers_goto
  · rfl

/-- A lease is of the first free slot; a caller that gets none finds none, or leaves it free. -/
theorem lease_cases (script : Script α ε) (inv : p.Inv) (idle : p.callers t = .idle) :
    (∃ slot rest, p.freeSlots = slot :: rest ∧ Leased t slot rest (script.lease t p)) ∨
      (script.lease t p).Inv ∧ (script.lease t p).callers t = .idle ∧
        (script.lease t p).freeSlots = p.freeSlots ∧ (p.freeSlots = [] ∨ script.opens = false) := by
  cases free : p.freeSlots with
  | nil =>
    have none : script.lease t p = p := by
      simp [Script.lease, ConnectionPool.step, idle, free]
    rw [none]
    exact .inr ⟨inv, idle, free, .inl rfl⟩
  | cons slot rest =>
    have taken := ConnectionPool.step_acquire idle free
    have acquiring : (p.step (.acquire t)).callers t = .acquiring slot := by
      rw [taken, callers_goto]
    have left : (p.step (.acquire t)).freeSlots = rest := by
      rw [taken]
      rfl
    have kept := inv.step (.acquire t)
    simp only [Script.lease, acquiring]
    generalize p.step (.acquire t) = q at acquiring left kept
    split
    · rename_i alive
      obtain ⟨conn, found⟩ := Option.isSome_iff_exists.mp alive.2
      refine .inl ⟨slot, rest, rfl, kept.step _, ⟨conn, ?_⟩, ?_⟩ <;>
        rw [ConnectionPool.step_found acquiring found]
      · exact callers_goto
      · exact left
    · split
      · refine .inl ⟨slot, rest, rfl, ?_⟩
        rw [← left]
        exact leased_opened 0 kept (script.unused q) (.inl acquiring)
      · rename_i shut
        refine .inr ⟨kept.step _, ?_, ?_, .inr (Bool.eq_false_iff.mpr shut)⟩ <;>
          rw [ConnectionPool.step_unopened acquiring]
        · exact callers_goto
        · exact congrArg (slot :: ·) left

/-- A reconnect, whichever way it ends, leaves the lease where it was. -/
theorem Leased.reconnect (leased : Leased t slot rest p) (attempt : Nat) :
    Leased t slot rest (script.reconnect t p attempt) := by
  obtain ⟨inv, ⟨conn, is⟩, free⟩ := leased
  have refreshing : (p.step (.refresh t)).callers t = .refreshing slot conn := by
    rw [inv.step_refresh is, callers_goto]
  have same : (p.step (.refresh t)).freeSlots = rest := by
    rw [inv.step_refresh is]
    exact free
  have kept := inv.step (.refresh t)
  unfold Script.reconnect
  dsimp only
  split
  · rw [← same]
    exact leased_opened conn kept (script.unused _) (.inr refreshing)
  · refine ⟨kept.step _, ⟨conn, ?_⟩, ?_⟩ <;> rw [ConnectionPool.step_unrefreshed refreshing]
    · exact callers_goto
    · exact same

theorem Leased.attempts (leased : Leased t slot rest p) (left attempt : Nat) :
    Leased t slot rest (attempts idempotent script t left attempt p).pool := by
  induction left generalizing attempt p with
  | zero => exact leased
  | succ left ih =>
    unfold TransactionRunner.attempts
    dsimp only
    split
    · split
      · exact ih (leased.reconnect attempt) (attempt + 1)
      · exact leased.reconnect attempt
    · exact leased

/-! ## The attempts -/

/-- All attempts but the last are breaks that are safe to try again, and the last is surfaced. -/
structure Surfaces (idempotent : Bool) (script : Script α ε) (left attempt : Nat)
    (out : Outcome α ε) : Prop where
  last : ∃ retried a, out.made = retried ++ [a] ∧ out.result = a.result ∧
    ∀ b ∈ retried, b.safeToRetry idempotent = true
  made : out.made <+: (List.range' attempt (left + 1)).map script.attempt

theorem attempts_surfaces (script : Script α ε) (left attempt : Nat) (p : ConnectionPool) :
    Surfaces idempotent script left attempt (attempts idempotent script t left attempt p) := by
  induction left generalizing attempt p with
  | zero => exact ⟨⟨[], _, rfl, rfl, by simp⟩, List.prefix_rfl⟩
  | succ left ih =>
    have first : [script.attempt attempt] <+:
        (List.range' attempt (left + 1 + 1)).map script.attempt := by
      rw [List.range'_succ, List.map_cons]
      exact List.prefix_append [_] _
    unfold attempts
    dsimp only
    split
    · rename_i safe
      split
      · obtain ⟨⟨retried, a, made, result, breaks⟩, within⟩ :=
          ih (attempt + 1) (script.reconnect t p attempt)
        refine ⟨⟨script.attempt attempt :: retried, a, ?_, result, ?_⟩, ?_⟩
        · rw [made]
          rfl
        · exact List.forall_mem_cons.mpr ⟨safe, breaks⟩
        · rw [List.range'_succ, List.map_cons]
          exact (List.prefix_cons_inj _).mpr within
      · exact ⟨⟨[], _, rfl, (Attempt.of_safe safe).1.symm, by simp⟩, first⟩
    · exact ⟨⟨[], _, rfl, rfl, by simp⟩, first⟩

/-- What the attempts come to. -/
theorem Surfaces.tally {out : Outcome α ε} (surfaces : Surfaces idempotent script left attempt out) :
    out.made.countP Attempt.invoked ≤ left + 1 ∧
      (∀ a ∈ out.made, ∀ e, a.raised = some e → out.result = .error (.failure e)) ∧
      (idempotent = false → out.made.countP Attempt.applied ≤ 1 ∧
        ∀ value, out.result = .ok value → out.made.countP Attempt.applied = 1) := by
  obtain ⟨⟨retried, a, made, result, breaks⟩, within⟩ := surfaces
  refine ⟨?_, fun b listed e raised => ?_, fun write => ?_⟩
  · have short := within.length_le
    rw [List.length_map, List.length_range'] at short
    exact le_trans List.countP_le_length short
  · rw [made, List.mem_append, List.mem_singleton] at listed
    rcases listed with before | rfl
    · rw [(Attempt.of_safe (breaks b before)).2.1] at raised
      cases raised
    · rw [result]
      exact Attempt.result_of_raised raised
  · have none : retried.countP Attempt.applied = 0 := by
      rw [List.countP_eq_zero]
      intro b before
      simp [(Attempt.of_safe (breaks b before)).2.2 write]
    have count : out.made.countP Attempt.applied = [a].countP Attempt.applied := by
      rw [made, List.countP_append, none, Nat.zero_add]
    rw [count, result]
    refine ⟨List.countP_le_length, fun value is => ?_⟩
    rw [List.countP_singleton, if_pos (Attempt.applied_of_ok is)]

/-- **A run gives its connection back and says what happened.**  The pool has the free slots it
had.  `fn` is tried if a connection is leased, and once more after a break that is safe to retry, if
the reconnect succeeds; the last attempt is surfaced.  A write is applied at most once, and returns
only if it was. -/
theorem run_conserves (script : Script α ε) (inv : p.Inv) (idle : p.callers t = .idle) :
    let out := run idempotent script t p
    (out.pool.Inv ∧ out.pool.callers t = .idle ∧ out.pool.freeSlots = p.freeSlots) ∧
    (out.made <+: [script.attempt 1, script.attempt 2] ∧
      (script.opens = true → (out.made = [] ↔ p.freeSlots = [])) ∧
      (out.made ≠ [] → (out.made.length = 2 ↔
        (script.attempt 1).safeToRetry idempotent = true ∧ script.reconnects 1 = true))) ∧
    out.result = out.made.getLast?.elim (.error .transient) Attempt.result ∧
    (∀ a ∈ out.made, ∀ e, a.raised = some e → out.result = .error (.failure e)) ∧
    out.made.countP Attempt.invoked ≤ 2 ∧
    (idempotent = false → out.made.countP Attempt.applied ≤ 1 ∧
      ∀ value, out.result = .ok value → out.made.countP Attempt.applied = 1) := by
  intro out
  rcases lease_cases script inv idle with ⟨slot, rest, free, leased⟩ | ⟨inv', idle', free, want⟩
  · obtain ⟨conn, is⟩ := leased.holds
    let tried := attempts idempotent script t 1 1 (script.lease t p)
    have ran : out = { tried with pool := tried.pool.step (.release t) } := by
      simp only [out, run, is, tried]
    have after : Leased t slot rest tried.pool := leased.attempts 1 1
    obtain ⟨conn', is'⟩ := after.holds
    have released := after.inv.step_release is'
    have surfaces : Surfaces idempotent script 1 1 tried := attempts_surfaces script 1 1 _
    obtain ⟨invoked, raised, applied⟩ := surfaces.tally
    obtain ⟨retried, a, made, result, -⟩ := surfaces.last
    rw [ran]
    dsimp only
    refine ⟨⟨after.inv.step _, ?_, ?_⟩, ⟨surfaces.made, ?_, fun _ => ?_⟩, ?_, raised, invoked,
      applied⟩
    · rw [released, callers_goto]
    · rw [released, free, ← after.free]
      rfl
    · simp [made, free]
    · simp only [tried, attempts]
      split
      · split <;> simp [*]
      · simp [*]
    · rw [made, List.getLast?_concat, result]
      rfl
  · have none : out = ⟨.error .transient, [], script.lease t p⟩ := by
      simp only [out, run, idle']
    rw [none]
    refine ⟨⟨inv', idle', free⟩, ⟨List.nil_prefix, ?_, by simp⟩, rfl, by simp, by simp, by simp⟩
    intro opens
    rcases want with empty | shut
    · exact iff_of_true rfl empty
    · rw [opens] at shut
      cases shut

namespace Reconnected

/-- One slot and no connection yet. -/
def pool : ConnectionPool := .start 1 []

/-- An address above all that are in use. -/
def address (p : ConnectionPool) : Nat :=
  ((List.range p.size).map fun slot => (p.slots slot).getD 0).max?.getD 0 + 1

theorem unused_address (p : ConnectionPool) : p.Unused (address p) := by
  intro slot below is
  have listed : (p.slots slot).getD 0 ∈ (List.range p.size).map fun slot => (p.slots slot).getD 0 :=
    List.mem_map_of_mem (List.mem_range.mpr below)
  have least := List.le_max?_getD_of_mem (k := 0) listed
  rw [is, Option.getD_some, address] at least
  omega

/-- The connection breaks in the transaction, and the second attempt is committed. -/
def breaking : Script String Unit where
  alive := true
  opens := true
  attempt n := if n = 1 then .broken true else .done "row"
  reconnects _ := true
  address := address
  unused := unused_address

theorem run_conserves_reconnected :
    let out := run false breaking 0 pool
    out.result = .ok "row" ∧ out.pool.freeSlots = [0] ∧ out.pool.callers 0 = .idle ∧
      out.made.countP Attempt.applied = 1 := by
  intro out
  obtain ⟨⟨-, idle, freed⟩, -, result, -, -, applied⟩ :
      (out.pool.Inv ∧ out.pool.callers 0 = .idle ∧ out.pool.freeSlots = pool.freeSlots) ∧ _ :=
    run_conserves breaking (ConnectionPool.inv_start 1 []) rfl
  have returned : out.result = .ok "row" := result.trans rfl
  exact ⟨returned, freed, idle, (applied rfl).2 "row" returned⟩

end Reconnected

end TransactionRunner

end Kergit
