import Kergit.Lib.Staged
import Mathlib.Data.List.Range

/-!
The numbers of a channel's messages, with many transactions at once.

The trigger of an insert takes the number from the channel's counter row.  The row is
locked until the transaction ends; a transaction that finds it locked waits, the first
two inserts of a channel among them, and goes on with the version that is left.
-/

namespace Kergit

open Lib

/-- A channel's counter row and its messages: the committed version of the row, the version of
the transaction that has it locked, and the messages in the order of their commits. -/
structure ChannelCounter where
  nextSeq : Option Nat := none
  locked : Option (Nat × Nat) := none
  messages : List (Nat × Nat) := []

/-- What a transaction does next. -/
inductive TxnInput where
  | insert (txn : Nat)
  | commit (txn : Nat)
  | abort (txn : Nat)

namespace ChannelCounter

variable (s : ChannelCounter)

-- `assign_channel_message_seq`, `next_seq` as the upsert returns it.
def upserted : Nat := s.nextSeq.elim 2 (· + 1)

-- `MessageRepository::sendMessage`, `insertMessage`; the insert of a transaction that
-- has to wait is made again when the row is free.
def step : TxnInput → ChannelCounter
  | .insert txn => if s.locked = none then { s with locked := some (txn, s.upserted) } else s
  | .commit txn =>
    match s.locked with
    | some (owner, next) =>
      if txn = owner then
        { nextSeq := some next, locked := none, messages := s.messages ++ [(txn, next - 1)] }
      else s
    | none => s
  | .abort txn => if s.locked.map Prod.fst = some txn then { s with locked := none } else s

structure Inv : Prop where
  numbers : s.messages.map Prod.snd = List.range' 1 s.messages.length
  counter : s.upserted = s.messages.length + 2
  version : ∀ owner next, s.locked = some (owner, next) → next = s.upserted

variable {s}

theorem Inv.step (inv : s.Inv) (input : TxnInput) : (s.step input).Inv := by
  unfold ChannelCounter.step
  cases input with
  | insert txn =>
    dsimp only
    split
    · refine { inv with version := ?_ }
      rintro owner next ⟨⟩
      rfl
    · exact inv
  | commit txn =>
    dsimp only
    split
    · rename_i owner next locked
      have is : next = s.messages.length + 2 := (inv.version owner next locked).trans inv.counter
      split
      · refine ⟨?_, ?_, nofun⟩
        · rw [List.map_append, inv.numbers, List.length_append, List.length_singleton,
            List.range'_concat, is]
          simp [Nat.add_comm]
        · simp [upserted, is]
      · exact inv
    · exact inv
  | abort txn =>
    dsimp only
    split
    · exact { inv with version := nofun }
    · exact inv

/-- **The committed messages of a channel are numbered from one, in the order of their
commits**, whichever transactions commit or abort; a commit of the one that has the row adds its
message. -/
theorem numbers_gapless (inputs : List TxnInput) :
    let s := run step {} inputs
    s.messages.map Prod.snd = List.range' 1 s.messages.length ∧
      ∀ txn, s.locked.map Prod.fst = some txn →
        (s.step (.commit txn)).messages = s.messages ++ [(txn, s.messages.length + 1)] := by
  intro s
  have start : ({} : ChannelCounter).Inv := ⟨rfl, rfl, nofun⟩
  have inv : s.Inv := run_invariant (fun _ input inv => inv.step input) start
  refine ⟨inv.numbers, fun txn owns => ?_⟩
  obtain ⟨⟨_, next⟩, locked, rfl⟩ := Option.map_eq_some_iff.mp owns
  simp [step, locked, (inv.version _ _ locked).trans inv.counter]

end ChannelCounter

end Kergit
