import Mathlib.Algebra.GroupWithZero.Nat
import Mathlib.Data.List.Basic

/-!
The identifiers of `domains/ids/Ids.h` and the two domain records the voice code
reads.  Every id is a wrapped string; the default-constructed id holds the empty
string, and several paths test for it.
-/

namespace Kergit

structure HubId where
  value : String := ""
deriving DecidableEq, Repr

structure ChannelId where
  value : String := ""
deriving DecidableEq, Repr

structure UserId where
  value : String := ""
deriving DecidableEq, Repr

structure ConnId where
  value : String := ""
deriving DecidableEq, Repr

structure NetStackId where
  value : String := ""
deriving DecidableEq, Repr

structure GlobalConnId where
  netstackId : NetStackId
  connId : ConnId
deriving DecidableEq, Repr

inductive ChannelType where
  | chat
  | voice
deriving DecidableEq, Repr

structure Channel where
  id : ChannelId
  hubId : HubId
  type : ChannelType
  name : String := ""
deriving DecidableEq, Repr

/-- A text parameter goes to the database as a C string. -/
def textParam (text : String) : String :=
  String.ofList (text.toList.takeWhile fun c => c ≠ Char.ofNat 0)

end Kergit
