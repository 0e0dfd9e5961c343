import V2vBft.App.Gossip
import V2vBft.App.WitnessCert
import V2vBft.Engine.Replica

/-! The receive paths of signed PBFT packets: frames of type 8 and their relays of type 11. -/

namespace V2vBft.Engine

open Wire Pbft App

-- the key is a string in the source, its fields joined by colons
structure RelayKey where
  type : RequestType
  currentView : ℕ
  seq : ℕ
  senderId : ℤ
  hash : Bytes
  deriving DecidableEq, Repr

structure PendingConsensusRelay where
  key : RelayKey
  raw : Bytes
  relayEpoch : ℕ
  deriving DecidableEq, Repr

structure RelayState where
  seen : List RelayKey
  carriers : List (RelayKey × ℤ)
  pending : List PendingConsensusRelay
  deriving DecidableEq, Repr

def RelayState.empty : RelayState := ⟨[], [], []⟩

-- parsePacket and serializePacket stand for the protobuf envelope, replica ids count from 0
structure RelayConfig where
  replicaId : ℤ
  totalVehicles : ℤ
  toleratedFaults : ℤ
  carrierCap : ℤ
  gossipEnabled : Bool
  registeredKey : ℤ → Option Bytes
  verifyBytes : Verifier
  sha256Hex : Bytes → Bytes
  parsePacket : Bytes → Option Request
  serializePacket : Request → Bytes

inductive FrameType
  | resdbConsensus
  | consensusRelay
  deriving DecidableEq, Repr

structure RadioFrame where
  type : FrameType
  fromReplicaId : ℤ
  toReplicaId : ℤ
  pubKey : Bytes
  sig : Bytes
  resdbBytes : Bytes
  deriving DecidableEq, Repr

def isConsensusRelayEligible (request : Request) : Bool := decide (request.type ≠ .newTxns)

def consensusRelayKey (cfg : RelayConfig) (raw : Bytes) (request : Request) : RelayKey :=
  ⟨request.type, request.currentView, request.seq, request.senderId, cfg.sha256Hex raw⟩

def consensusRelayCarrierThreshold (cfg : RelayConfig) : ℤ :=
  let f := if 0 ≤ cfg.toleratedFaults then cfg.toleratedFaults else max 0 ((cfg.totalVehicles - 1).tdiv 3)
  max 1 (min cfg.carrierCap (f + 1))

def RelayState.carrierCount (st : RelayState) (key : RelayKey) : ℤ :=
  st.carriers.countP fun c => decide (c.1 = key)

def RelayState.isPending (st : RelayState) (key : RelayKey) : Bool := st.pending.any fun p => decide (p.key = key)

def scheduleConsensusRelay (cfg : RelayConfig) (st : RelayState) (key : RelayKey) (raw : Bytes) (request : Request)
    (relayEpoch : ℕ) : RelayState :=
  if st.isPending key then st
  else if decide (0 < request.senderId) && decide (request.senderId - 1 = cfg.replicaId) then st
  else if consensusRelayCarrierThreshold cfg ≤ st.carrierCount key then st
  else { st with pending := st.pending ++ [⟨key, raw, relayEpoch⟩] }

def maybeRelayResdbConsensusBytes (cfg : RelayConfig) (st : RelayState) (departed : Bool) (raw : Bytes)
    (relayEpoch : ℕ) : RelayState :=
  if !cfg.gossipEnabled || departed || decide (raw = []) then st
  else
    match cfg.parsePacket raw with
    | none => st
    | some request =>
      if !isConsensusRelayEligible request then st
      else if consensusRelayKey cfg raw request ∈ st.seen then st
      else
        scheduleConsensusRelay cfg { st with seen := consensusRelayKey cfg raw request :: st.seen }
          (consensusRelayKey cfg raw request) raw request relayEpoch

def consensusRelayCarrierIsAuthenticated (cfg : RelayConfig) (carrier : ℤ) (pubKey : Bytes) : Bool :=
  decide (0 ≤ carrier) && decide (carrier < cfg.totalVehicles) && decide (cfg.registeredKey carrier = some pubKey)

def observeConsensusRelayCarrier (cfg : RelayConfig) (st : RelayState) (key : RelayKey) (carrier : ℤ) : RelayState :=
  if carrier < 0 ∨ (key, carrier) ∈ st.carriers then st
  else
    let st := { st with carriers := (key, carrier) :: st.carriers }
    if st.carrierCount key < consensusRelayCarrierThreshold cfg then st
    else { st with pending := st.pending.filter fun p => decide (p.key ≠ key) }

def handleResdbConsensusMessage (cfg : RelayConfig) (st : RelayState) (frame : RadioFrame) (currentEpoch : ℕ)
    (departed : Bool) : Option Bytes × RelayState :=
  if frame.toReplicaId ≠ -1 ∧ frame.toReplicaId ≠ cfg.replicaId then (none, st)
  else if frame.resdbBytes = [] then (none, st)
  else if !cfg.verifyBytes frame.pubKey frame.resdbBytes frame.sig then (none, st)
  else (some frame.resdbBytes, maybeRelayResdbConsensusBytes cfg st departed frame.resdbBytes currentEpoch)

def handleResdbConsensusRelay (cfg : RelayConfig) (st : RelayState) (frame : RadioFrame) (currentEpoch : ℕ)
    (departed : Bool) : Option Bytes × RelayState :=
  if frame.resdbBytes = [] then (none, st)
  else if !consensusRelayCarrierIsAuthenticated cfg frame.fromReplicaId frame.pubKey ||
      !cfg.verifyBytes frame.pubKey frame.resdbBytes frame.sig then (none, st)
  else
    match gossipParse frame.resdbBytes with
    | none => (none, st)
    | some (epoch, raw) =>
      if signed32 epoch < signed32 currentEpoch then (none, st)
      else
        match cfg.parsePacket raw with
        | none => (none, st)
        | some request =>
          if !isConsensusRelayEligible request then (none, st)
          else
            let st := observeConsensusRelayCarrier cfg st (consensusRelayKey cfg raw request) frame.fromReplicaId
            if consensusRelayKey cfg raw request ∈ st.seen then (none, st)
            else (some raw, maybeRelayResdbConsensusBytes cfg st departed raw epoch)

def handleFrame (cfg : RelayConfig) (st : RelayState) (frame : RadioFrame) (currentEpoch : ℕ) (departed : Bool) :
    Option Bytes × RelayState :=
  match frame.type with
  | .resdbConsensus => handleResdbConsensusMessage cfg st frame currentEpoch departed
  | .consensusRelay => handleResdbConsensusRelay cfg st frame currentEpoch departed

-- `due` are the relays whose time has come, `complete` those whose phase has its quorum here
def flushDueConsensusRelays (cfg : RelayConfig) (st : RelayState) (due complete : List RelayKey) (currentEpoch : ℕ)
    (inactive : Bool) : List Bytes × RelayState :=
  let fired := st.pending.filter fun p => decide (p.key ∈ due)
  let sent := fired.filter fun p =>
    decide (st.carrierCount p.key < consensusRelayCarrierThreshold cfg) && !inactive &&
      decide (currentEpoch ≤ p.relayEpoch) && decide (p.key ∉ complete)
  (sent.map fun p => gossipSerialize p.relayEpoch p.raw,
    { st with pending := st.pending.filter fun p => decide (p.key ∉ due) })

variable {cfg : RelayConfig} {st : RelayState} {raw : Bytes}

lemma scheduleConsensusRelay_pending {key : RelayKey} {request : Request} {relayEpoch : ℕ} :
    ∀ p ∈ (scheduleConsensusRelay cfg st key raw request relayEpoch).pending,
      p ∈ st.pending ∨ p = ⟨key, raw, relayEpoch⟩ := by
  intro p hp
  rw [scheduleConsensusRelay] at hp
  split at hp
  next => exact Or.inl hp
  next =>
    split at hp
    next => exact Or.inl hp
    next =>
      split at hp
      next => exact Or.inl hp
      next => exact (List.mem_append.mp hp).imp_right fun h => List.mem_singleton.mp h

lemma maybeRelay_pending {departed : Bool} {relayEpoch : ℕ} :
    ∀ p ∈ (maybeRelayResdbConsensusBytes cfg st departed raw relayEpoch).pending,
      p ∈ st.pending ∨ p.raw = raw ∧ p.relayEpoch = relayEpoch ∧ raw ≠ [] := by
  intro p hp
  rw [maybeRelayResdbConsensusBytes] at hp
  split at hp
  next => exact Or.inl hp
  next hopen =>
    have hne : raw ≠ [] := by
      rintro rfl
      exact hopen (by simp)
    split at hp
    next => exact Or.inl hp
    next request _ =>
      split at hp
      next => exact Or.inl hp
      next =>
        split at hp
        next => exact Or.inl hp
        next =>
          rcases scheduleConsensusRelay_pending p hp with hold | rfl
          · exact Or.inl hold
          · exact Or.inr ⟨rfl, rfl, hne⟩

lemma observe_pending {key : RelayKey} {carrier : ℤ} :
    ∀ p ∈ (observeConsensusRelayCarrier cfg st key carrier).pending, p ∈ st.pending := by
  intro p hp
  rw [observeConsensusRelayCarrier] at hp
  split at hp
  next => exact hp
  next =>
    dsimp only at hp
    split at hp
    next => exact hp
    next => exact (List.mem_filter.mp hp).1

inductive Brings (cfg : RelayConfig) (frame : RadioFrame) (raw : Bytes) : Prop
  | packet (htype : frame.type = .resdbConsensus)
      (hverify : cfg.verifyBytes frame.pubKey frame.resdbBytes frame.sig = true) (hraw : frame.resdbBytes = raw)
  | relay (epoch : ℕ) (htype : frame.type = .consensusRelay)
      (hverify : cfg.verifyBytes frame.pubKey frame.resdbBytes frame.sig = true)
      (hcarrier : cfg.registeredKey frame.fromReplicaId = some frame.pubKey)
      (hparse : gossipParse frame.resdbBytes = some (epoch, raw))

structure FrameStep (cfg : RelayConfig) (st : RelayState) (frame : RadioFrame) (r : Option Bytes × RelayState) :
    Prop where
  delivered : ∀ raw, r.1 = some raw → Brings cfg frame raw
  pending : ∀ p ∈ r.2.pending, p ∈ st.pending ∨
    Brings cfg frame p.raw ∧ p.raw ≠ []

lemma FrameStep.dropped {frame : RadioFrame} {st' : RelayState} (h : ∀ p ∈ st'.pending, p ∈ st.pending) :
    FrameStep cfg st frame (none, st') :=
  ⟨fun _ hr => absurd hr (by simp), fun p hp => Or.inl (h p hp)⟩

lemma handleFrame_step (cfg : RelayConfig) (st : RelayState) (frame : RadioFrame) (currentEpoch : ℕ) (departed : Bool) :
    FrameStep cfg st frame (handleFrame cfg st frame currentEpoch departed) := by
  rw [handleFrame]
  cases htype : frame.type with
  | resdbConsensus =>
    dsimp only
    rw [handleResdbConsensusMessage]
    split
    next => exact .dropped fun _ hp => hp
    next =>
      split
      next => exact .dropped fun _ hp => hp
      next =>
        split
        next => exact .dropped fun _ hp => hp
        next hverify =>
          have hbrings : Brings cfg frame frame.resdbBytes := .packet htype (by simpa using hverify) rfl
          refine ⟨fun raw hr => ?_, fun p hp => ?_⟩
          · rw [← Option.some.inj hr]
            exact hbrings
          · rcases maybeRelay_pending p hp with hold | ⟨hraw, -, hne⟩
            · exact Or.inl hold
            · rw [hraw]
              exact Or.inr ⟨hbrings, hne⟩
  | consensusRelay =>
    dsimp only
    rw [handleResdbConsensusRelay]
    split
    next => exact .dropped fun _ hp => hp
    next =>
      split
      next => exact .dropped fun _ hp => hp
      next hauth =>
        simp only [consensusRelayCarrierIsAuthenticated, Bool.or_eq_true, Bool.not_eq_true', not_or,
          Bool.not_eq_false, Bool.and_eq_true, decide_eq_true_eq] at hauth
        split
        next => exact .dropped fun _ hp => hp
        next epoch raw hparse =>
          have hbrings : Brings cfg frame raw := .relay epoch htype hauth.2 hauth.1.2 hparse
          split
          next => exact .dropped fun _ hp => hp
          next =>
            split
            next => exact .dropped fun _ hp => hp
            next request _ =>
              split
              next => exact .dropped fun _ hp => hp
              next =>
                dsimp only
                split
                next => exact .dropped observe_pending
                next =>
                  refine ⟨fun raw' hr => ?_, fun p hp => ?_⟩
                  · rw [← Option.some.inj hr]
                    exact hbrings
                  · rcases maybeRelay_pending p hp with hold | ⟨hraw, -, hne⟩
                    · exact Or.inl (observe_pending p hold)
                    · rw [hraw]
                      exact Or.inr ⟨hbrings, hne⟩

end V2vBft.Engine
