import V2vBft.Wire.Bytes

namespace V2vBft.Pbft

open Wire

inductive RequestType
  | newTxns
  | prePrepare
  | prepare
  | commit
  deriving DecidableEq, Repr

-- Request.data as a serialized BatchUserRequest; a parse that fails keeps the user requests read before the failure
inductive BatchData
  | malformed (raw : Bytes) (parsed : List Bytes)
  | batch (userRequests : List Bytes)
  deriving DecidableEq, Repr

def BatchData.userRequests : BatchData → List Bytes
  | .malformed _ parsed => parsed
  | .batch payloads => payloads

-- the one payload ResdbOmnetPreVerify reads
def BatchData.checkedPayload : BatchData → Option Bytes
  | .batch (payload :: _) => some payload
  | _ => none

structure Request where
  type : RequestType
  seq : ℕ
  currentView : ℕ
  senderId : ℤ
  hash : Bytes
  data : BatchData
  isRecovery : Bool
  forceRecovery : Bool
  deriving DecidableEq, Repr

end V2vBft.Pbft
