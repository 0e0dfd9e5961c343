import V2vBft.App.GossipVotes

namespace V2vBft.App

open Wire

structure GossipConfig where
  gossipEnabled : Bool
  gossipMaxRetries : ℤ
  cancelCertRetryMax : ℤ

inductive GossipKind
  | decision
  | cancelCommit
  deriving DecidableEq, Repr

structure GossipFrame where
  kind : GossipKind
  epoch : ℕ
  bytes : Bytes
  deriving DecidableEq, Repr

def GossipFrame.inner (frame : GossipFrame) : Bytes := gossipSerialize frame.epoch frame.bytes

structure Gossiping where
  app : AppState
  gossipEpoch : ℕ
  gossipOrderBytes : Bytes
  gossipRetryCount : ℕ
  gossipScheduled : Bool
  cancelGossipEpoch : ℕ
  cancelGossipBytes : Bytes
  cancelGossipRetryCount : ℕ
  cancelGossipScheduled : Bool
  deriving DecidableEq, Repr

def Gossiping.initial : Gossiping := ⟨.initial, 0, [], 0, false, 0, [], 0, false⟩

def decisionGossipPropagationConfirmed (cfg : AppConfig) (s : Gossiping) : Bool :=
  decide (s.gossipOrderBytes ≠ []) &&
    decide (anchoredFaults cfg.toleratedFaults cfg.totalVehicles + 1 ≤
      s.app.orderGossip.count s.gossipEpoch s.gossipOrderBytes)

def cancelGossipPropagationConfirmed (cfg : AppConfig) (s : Gossiping) : Bool :=
  decide (s.cancelGossipBytes ≠ []) &&
    decide (anchoredFaults cfg.toleratedFaults cfg.totalVehicles + 1 ≤
      s.app.cancelGossip.count s.cancelGossipEpoch s.cancelGossipBytes)

def stopGossip (s : Gossiping) : Gossiping := { s with gossipScheduled := false, gossipOrderBytes := [] }

def scheduleNextGossip (g : GossipConfig) (s : Gossiping) : Gossiping :=
  if !g.gossipEnabled || decide (s.gossipOrderBytes = []) then s
  else if decide (0 < g.gossipMaxRetries) && decide (g.gossipMaxRetries ≤ s.gossipRetryCount) then stopGossip s
  else { s with gossipScheduled := true }

def AppState.gossipHalted (s : AppState) (epoch : ℕ) : Bool :=
  s.isEpochTombstoned epoch || (s.cancelConsensusPending && decide (epoch = s.cancelledEpoch))

def triggerGossip (g : GossipConfig) (s : Gossiping) (epoch : ℕ) (orderBytes : Bytes) :
    Gossiping × List GossipFrame :=
  if orderBytes = [] then (s, [])
  else if s.app.gossipHalted epoch then (s, [])
  else
    (scheduleNextGossip g
      { s with
        gossipScheduled := false
        gossipEpoch := epoch
        gossipOrderBytes := orderBytes
        gossipRetryCount := 1 },
      [⟨.decision, epoch, orderBytes⟩])

def gossipTimer (cfg : AppConfig) (g : GossipConfig) (s : Gossiping) : Gossiping × List GossipFrame :=
  if s.gossipScheduled then
    let s := { s with gossipScheduled := false }
    if s.gossipOrderBytes = [] then (s, [])
    else if s.app.gossipHalted s.gossipEpoch then (stopGossip s, [])
    else if decisionGossipPropagationConfirmed cfg s then (stopGossip s, [])
    else
      (scheduleNextGossip g { s with gossipRetryCount := s.gossipRetryCount + 1 },
        [⟨.decision, s.gossipEpoch, s.gossipOrderBytes⟩])
  else (s, [])

def triggerCancelCommitGossip (cfg : AppConfig) (s : Gossiping) (cancelledEpoch : ℕ) (attestation : Bytes) :
    Gossiping × List GossipFrame :=
  if attestation = [] then (s, [])
  else
    let s :=
      { s with
        cancelGossipScheduled := false
        cancelGossipEpoch := cancelledEpoch
        cancelGossipBytes := attestation
        cancelGossipRetryCount := 1 }
    (if cancelGossipPropagationConfirmed cfg s then s
      else { s with cancelGossipScheduled := true },
      [⟨.cancelCommit, cancelledEpoch, attestation⟩])

def stopCancelGossip (s : Gossiping) : Gossiping := { s with cancelGossipScheduled := false, cancelGossipBytes := [] }

def cancelGossipTimer (cfg : AppConfig) (g : GossipConfig) (s : Gossiping) : Gossiping × List GossipFrame :=
  if s.cancelGossipScheduled then
    let s := { s with cancelGossipScheduled := false }
    if s.cancelGossipBytes = [] then (s, [])
    else if cancelGossipPropagationConfirmed cfg s then (stopCancelGossip s, [])
    else
      let sent : List GossipFrame := [⟨.cancelCommit, s.cancelGossipEpoch, s.cancelGossipBytes⟩]
      let last := decide (0 < g.cancelCertRetryMax) && decide (g.cancelCertRetryMax ≤ s.cancelGossipRetryCount + 1)
      let s := { s with cancelGossipRetryCount := s.cancelGossipRetryCount + 1 }
      if last then (stopCancelGossip s, sent) else ({ s with cancelGossipScheduled := true }, sent)
  else (s, [])

def broadcastCancelCommitAttestation (cfg : AppConfig) (g : GossipConfig) (s : Gossiping) (dec : Bytes) :
    Gossiping × List GossipFrame :=
  if g.gossipEnabled then
    triggerCancelCommitGossip cfg s (CancelDecisionHdr.read dec).cancelledEpoch (dec.take CancelDecisionHdr.size)
  else (s, [])

structure GossipEffects where
  applied : Option OrderDecision
  adopted : Option (ℕ × Bytes)
  cancelAdopted : Option (ℕ × Bytes)
  sent : List GossipFrame
  deriving DecidableEq, Repr

inductive GossipEvent
  | app (ev : AppEvent)
  | gossipTimer
  | cancelGossipTimer
  deriving DecidableEq, Repr

-- a certificate that halts the replica anew also stops its decision gossip
def haltsAnew (s : AppState) (halted : List ℕ) : Bool :=
  halted.any fun epoch => !(s.cancelActive && decide (s.cancelledEpoch = epoch))

def gossipAfter (cfg : AppConfig) (g : GossipConfig) (s : AppState) (fx : Effects) (s' : Gossiping) :
    AppEvent → Gossiping × List GossipFrame
  | .processOrder _ _ _ =>
    match s.pendingOrders with
    | [] => (s', [])
    | dec :: _ =>
      if isCancelDecision dec then broadcastCancelCommitAttestation cfg g s' dec
      else
        match fx.applied with
        | none => (s', [])
        | some order =>
          if (ownBatch cfg order).isSome && g.gossipEnabled && decide (s'.gossipOrderBytes = []) then
            triggerGossip g s' order.epoch dec
          else (s', [])
  | .decisionGossip senderId inner completed =>
    if (adoptedOrder cfg s senderId inner completed).isSome then (stopGossip s', []) else (s', [])
  | .cancelCommitGossip senderId inner _ =>
    match adoptedAttestation cfg s senderId inner with
    | none => (s', [])
    | some attestation =>
      triggerCancelCommitGossip cfg s' (CancelDecisionHdr.read attestation).cancelledEpoch attestation
  | .cancelCert _ _ | .cancelCertFormed _ _ | .clearancePoll _ _ _ =>
    if haltsAnew s fx.halted then (stopGossip s', []) else (s', [])
  | _ => (s', [])

def cancelAdoptedBy (cfg : AppConfig) (s : AppState) : AppEvent → Option (ℕ × Bytes)
  | .cancelCommitGossip senderId inner _ =>
    (adoptedAttestation cfg s senderId inner).map fun attestation =>
      ((CancelDecisionHdr.read attestation).cancelledEpoch, attestation)
  | _ => none

def gossipStep (cfg : AppConfig) (g : GossipConfig) (s : Gossiping) : GossipEvent → Gossiping × GossipEffects
  | .app ev =>
    let next := appStep cfg s.app ev
    let after := gossipAfter cfg g s.app next.2 { s with app := next.1 } ev
    (after.1, ⟨next.2.applied, adoptedBy cfg s.app ev, cancelAdoptedBy cfg s.app ev, after.2⟩)
  | .gossipTimer => ((gossipTimer cfg g s).1, ⟨none, none, none, (gossipTimer cfg g s).2⟩)
  | .cancelGossipTimer => ((cancelGossipTimer cfg g s).1, ⟨none, none, none, (cancelGossipTimer cfg g s).2⟩)

def gossipNext (cfg : AppConfig) (g : GossipConfig) (s : Gossiping) (ev : GossipEvent) : Gossiping :=
  (gossipStep cfg g s ev).1

end V2vBft.App
