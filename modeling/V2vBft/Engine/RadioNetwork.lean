import V2vBft.Engine.ConsensusRelay
import V2vBft.Engine.Manager
import V2vBft.Engine.Network

/-! Honest replicas behind their radios, on a channel where anyone may send any frame. -/

namespace V2vBft.Engine

open Wire Pbft Bridge App

-- inbox is the queue of packets that the workers of ServiceNetwork take from, log that of Recovery
structure RadioVehicle where
  node : ViewReplica
  relay : RelayState
  inbox : List Bytes
  log : List ConsensusMessage

-- bytes that a replica has signed, for a frame of some type or (none) in another role
structure PacketSignature where
  signer : ℤ
  role : Option FrameType
  bytes : Bytes
  deriving DecidableEq, Repr

-- produced holds every request that the engine of a replica has sent, by the replica that sent it
structure RadioNetwork where
  vehicle : ℤ → RadioVehicle
  produced : List (ℤ × Request)
  signed : List PacketSignature

-- parseOther and serializeOther stand for the protobuf envelope of the messages that are no Request of the engine
structure RadioParties where
  membership : Membership
  radio : RelayConfig
  parseOther : Bytes → Option ConsensusMessage
  serializeOther : ConsensusMessage → Bytes

def RadioParties.parse (P : RadioParties) (raw : Bytes) : Option ConsensusMessage :=
  match P.radio.parsePacket raw with
  | some request => some (.request request)
  | none => P.parseOther raw

def RadioParties.serialize (P : RadioParties) : ConsensusMessage → Bytes
  | .request request => P.radio.serializePacket request
  | message => P.serializeOther message

-- PBFT ids count from 1, radio ids from 0
def RadioParties.config (P : RadioParties) (id : ℤ) : RelayConfig := { P.radio with replicaId := id - 1 }

def RadioParties.honest (P : RadioParties) : Finset ℤ := P.membership.honest

def RadioNetwork.initial (P : RadioParties) (primaryId : ℤ) : RadioNetwork where
  vehicle id := ⟨.initial (P.membership.config id) primaryId, .empty, [], []⟩
  produced := []
  signed := []

-- answer sends a TYPE_RECOVERY_DATA_RESP with messages of the log, each with the number and view of its request
inductive RadioAction
  | receive (frame : RadioFrame) (currentEpoch : ℕ) (departed : Bool)
  | process (env : BridgeEnv) (index : ℕ)
  | node (ev : ViewEvent)
  | submit (request : Request)
  | flush (due complete : List RelayKey) (currentEpoch : ℕ) (inactive : Bool)
  | answer (picks : List (ℕ × ℕ × ℕ))
  | signOther (bytes : Bytes)

structure RadioEvent where
  id : ℤ
  action : RadioAction

def ViewEvent.isCommit : ViewEvent → Bool
  | .commit _ _ => true
  | _ => false

def RadioVehicle.taken (P : RadioParties) (v : RadioVehicle) (index : ℕ) : Option ConsensusMessage :=
  v.inbox[index]?.bind P.parse

def RadioEvent.viewEvent (P : RadioParties) (n : RadioNetwork) (e : RadioEvent) : Option ViewEvent :=
  match e.action with
  | .process env index => ((n.vehicle e.id).taken P index).map (.commit env)
  | .node ev => if ev.isCommit then none else some ev
  | _ => none

def ConsensusMessage.isLogged : ConsensusMessage → Bool
  | .request r => decide (r.type ≠ .newTxns)
  | .view (.newView _ _ _) => true
  | _ => false

def ConsensusMessage.logged : ConsensusMessage → ConsensusMessage
  | .request r => .request { r with isRecovery := true }
  | .view (.newView senderId _ data) => .view (.newView senderId true data)
  | message => message

def answerFrom (log : List ConsensusMessage) : List (ℕ × ℕ × ℕ) → RecoveryResponse
  | [] => .nil
  | (index, seq, currentView) :: picks =>
    match log[index]? with
    | none => answerFrom log picks
    | some message => .cons seq currentView message.logged (answerFrom log picks)

def ViewOutput.requests (out : ViewOutput) : List Request := out.engine.flatMap Output.sent

-- broadcasts come back over the loopback, a transaction forwarded to the primary does not
def ViewOutput.broadcast (out : ViewOutput) : List ConsensusMessage :=
  (out.requests.filter isConsensusRelayEligible).map .request ++ out.sent.map .view ++
    out.redo.flatMap RedoRequest.broadcast

def ViewOutput.outgoing (out : ViewOutput) : List ConsensusMessage :=
  (out.requests.filter fun r => !isConsensusRelayEligible r).map .request ++ out.broadcast

def RadioNetwork.transmit (P : RadioParties) (n : RadioNetwork) (id : ℤ) (v : RadioVehicle) (out : ViewOutput) :
    RadioNetwork where
  vehicle := Function.update n.vehicle id { v with inbox := v.inbox ++ out.broadcast.map P.serialize }
  produced := out.requests.map (Prod.mk id) ++ n.produced
  signed := out.outgoing.map (fun message => ⟨id, some .resdbConsensus, P.serialize message⟩) ++ n.signed

def RadioVehicle.afterTake (P : RadioParties) (v : RadioVehicle) : RadioAction → RadioVehicle
  | .process _ index =>
    { v with
      inbox := v.inbox.eraseIdx index
      log := v.log ++ (v.taken P index).toList.filter ConsensusMessage.isLogged }
  | _ => v

def radioStep (P : RadioParties) (n : RadioNetwork) (e : RadioEvent) : RadioNetwork :=
  let v := (n.vehicle e.id).afterTake P e.action
  match e.viewEvent P n with
  | some ev =>
    let r := viewStep (P.membership.config e.id) v.node ev
    n.transmit P e.id { v with node := r.2 } r.1
  | none =>
    match e.action with
    | .receive frame currentEpoch departed =>
      let r := handleFrame (P.config e.id) v.relay frame currentEpoch departed
      { n with vehicle := Function.update n.vehicle e.id { v with relay := r.2, inbox := v.inbox ++ r.1.toList } }
    | .submit request =>
      if request.type = .newTxns then
        { n with
          vehicle := Function.update n.vehicle e.id { v with inbox := v.inbox ++ [P.radio.serializePacket request] } }
      else n
    | .flush due complete currentEpoch inactive =>
      let r := flushDueConsensusRelays (P.config e.id) v.relay due complete currentEpoch inactive
      { n with
        vehicle := Function.update n.vehicle e.id { v with relay := r.2 }
        signed := r.1.map (fun bytes => ⟨e.id, some .consensusRelay, bytes⟩) ++ n.signed }
    | .answer picks =>
      { n with signed := ⟨e.id, some .resdbConsensus, P.serialize (.recoveryDataResp (answerFrom v.log picks))⟩ :: n.signed }
    | .signOther bytes => { n with signed := ⟨e.id, none, bytes⟩ :: n.signed }
    | .process _ _ | .node _ => { n with vehicle := Function.update n.vehicle e.id v }

def RadioAction.outgoing (v : RadioVehicle) : RadioAction → List ConsensusMessage
  | .submit request => [.request request]
  | .answer picks => [.recoveryDataResp (answerFrom v.log picks)]
  | _ => []

def RadioEvent.outgoing (P : RadioParties) (n : RadioNetwork) (e : RadioEvent) : List ConsensusMessage :=
  match e.viewEvent P n with
  | some ev => (viewStep (P.membership.config e.id) (n.vehicle e.id).node ev).1.outgoing
  | none => e.action.outgoing (n.vehicle e.id)

def RadioParties.holds (P : RadioParties) (id : ℤ) (pubKey : Bytes) : Prop :=
  P.radio.registeredKey (id - 1) = some pubKey

instance (P : RadioParties) (id : ℤ) (pubKey : Bytes) : Decidable (P.holds id pubKey) :=
  inferInstanceAs (Decidable (_ = _))

def RadioNetwork.hasSigned (n : RadioNetwork) (id : ℤ) (bytes : Bytes) : Prop :=
  ∃ σ ∈ n.signed, σ.signer = id ∧ σ.bytes = bytes

instance (n : RadioNetwork) (id : ℤ) (bytes : Bytes) : Decidable (n.hasSigned id bytes) :=
  inferInstanceAs (Decidable (∃ σ ∈ n.signed, σ.signer = id ∧ σ.bytes = bytes))

-- only honest replicas are stepped, and a signature under an honest key is over bytes its holder has signed
def radioUnforgeable (P : RadioParties) (n : RadioNetwork) (e : RadioEvent) : Prop :=
  e.id ∈ P.honest ∧
    match e.action with
    | .receive frame _ _ =>
      P.radio.verifyBytes frame.pubKey frame.resdbBytes frame.sig = true →
        ∀ h ∈ P.honest, P.holds h frame.pubKey → n.hasSigned h frame.resdbBytes
    | _ => True

-- the envelope parses back to the message that was serialized
def wireFaithful (P : RadioParties) (n : RadioNetwork) (e : RadioEvent) : Prop :=
  ∀ message ∈ e.outgoing P n, P.parse (P.serialize message) = some message

def isVoteOf (P : RadioParties) (r : Request) : Prop := r.type ≠ .newTxns ∧ r.senderId ∈ P.honest

instance (P : RadioParties) (r : Request) : Decidable (isVoteOf P r) := inferInstanceAs (Decidable (_ ∧ _))

-- a recovery sets the two flags, and a recovered proposal loses the second one when it is let in
def Copies (m r : Request) : Prop := { m with isRecovery := r.isRecovery, forceRecovery := r.forceRecovery } = r

instance (m r : Request) : Decidable (Copies m r) := inferInstanceAs (Decidable (_ = _))

def RadioNetwork.signedFor (n : RadioNetwork) (id : ℤ) (type : FrameType) (bytes : Bytes) : Prop :=
  n.hasSigned id bytes → ⟨id, some type, bytes⟩ ∈ n.signed

instance (n : RadioNetwork) (id : ℤ) (type : FrameType) (bytes : Bytes) : Decidable (n.signedFor id type bytes) :=
  inferInstanceAs (Decidable (_ → _))

-- the sender named in the request has signed it as a packet of its own
def RadioNetwork.sentAs (P : RadioParties) (n : RadioNetwork) (r : Request) : Prop :=
  ∃ σ ∈ n.signed, σ.signer = r.senderId ∧ σ.role = some .resdbConsensus ∧
    ∃ m ∈ P.radio.parsePacket σ.bytes, Copies m r

instance (P : RadioParties) (n : RadioNetwork) (r : Request) : Decidable (n.sentAs P r) :=
  inferInstanceAs (Decidable (∃ σ ∈ n.signed, σ.signer = r.senderId ∧ σ.role = some .resdbConsensus ∧
    ∃ m ∈ P.radio.parsePacket σ.bytes, Copies m r))

def RadioParties.requestsIn (P : RadioParties) (raw : Bytes) : List Request :=
  (P.parse raw).toList.flatMap ConsensusMessage.requests

def RadioParties.brings (P : RadioParties) (frame : RadioFrame) : List Request :=
  match frame.type with
  | .resdbConsensus => P.requestsIn frame.resdbBytes
  | .consensusRelay => (gossipParse frame.resdbBytes).toList.flatMap fun x => P.requestsIn x.2

-- a frame is under the key of an honest replica, with a signature made for its type, or each vote of an honest sender
-- that it brings is one that the sender has sent
def senderKeyed (P : RadioParties) (n : RadioNetwork) (e : RadioEvent) : Prop :=
  match e.action with
  | .receive frame _ _ =>
    P.radio.verifyBytes frame.pubKey frame.resdbBytes frame.sig = true →
      (∃ h ∈ P.honest, P.holds h frame.pubKey ∧ n.signedFor h frame.type frame.resdbBytes) ∨
        ∀ r ∈ P.brings frame, isVoteOf P r → n.sentAs P r
  | _ => True

section Decidability

variable (P : RadioParties) (n : RadioNetwork)

instance : (e : RadioEvent) → Decidable (radioUnforgeable P n e)
  | ⟨id, .receive frame _ _⟩ =>
    inferInstanceAs (Decidable (id ∈ P.membership.honest ∧
      (P.radio.verifyBytes frame.pubKey frame.resdbBytes frame.sig = true →
        ∀ h ∈ P.membership.honest, P.holds h frame.pubKey → n.hasSigned h frame.resdbBytes)))
  | ⟨id, .process _ _⟩ | ⟨id, .node _⟩ | ⟨id, .submit _⟩ | ⟨id, .flush _ _ _ _⟩ | ⟨id, .answer _⟩ | ⟨id, .signOther _⟩ =>
    inferInstanceAs (Decidable (id ∈ P.membership.honest ∧ True))

instance (e : RadioEvent) : Decidable (wireFaithful P n e) :=
  inferInstanceAs (Decidable (∀ message ∈ e.outgoing P n, P.parse (P.serialize message) = some message))

instance : (e : RadioEvent) → Decidable (senderKeyed P n e)
  | ⟨_, .receive frame _ _⟩ =>
    inferInstanceAs (Decidable (P.radio.verifyBytes frame.pubKey frame.resdbBytes frame.sig = true →
      (∃ h ∈ P.membership.honest, P.holds h frame.pubKey ∧ n.signedFor h frame.type frame.resdbBytes) ∨
        ∀ r ∈ P.brings frame, isVoteOf P r → n.sentAs P r))
  | ⟨_, .process _ _⟩ | ⟨_, .node _⟩ | ⟨_, .submit _⟩ | ⟨_, .flush _ _ _ _⟩ | ⟨_, .answer _⟩ | ⟨_, .signOther _⟩ =>
    inferInstanceAs (Decidable True)

end Decidability

end V2vBft.Engine
