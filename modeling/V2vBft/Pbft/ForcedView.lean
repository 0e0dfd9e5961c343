import V2vBft.Pbft.Request

/-! The forced views of `omnet_forced_view.h` and their registry. -/

namespace V2vBft.Pbft

open Wire

-- none: invalid_argument is thrown
def bftQuorumSize (n : ℕ) (f : ℤ) : Option ℕ :=
  if n = 0 then some 0
  else if f < 0 ∨ f > ((n : ℤ) - 1) / 3 then none
  else some (max (((n : ℤ) + f + 2) / 2).toNat 1)

lemma bftQuorumSize_isSome {n : ℕ} {f : ℤ} (hf : 0 ≤ f) (hn : 3 * f + 1 ≤ n) : (bftQuorumSize n f).isSome = true := by
  rw [bftQuorumSize, if_neg (by omega), if_neg (by omega)]
  rfl

structure OmnetForcedView where
  epoch : ℕ
  seq : ℕ
  requestHash : Bytes
  primaryOmnet : ℤ
  activeOmnetIds : List ℤ
  fOverride : Bool
  f : ℤ
  quorum : ℕ
  deriving DecidableEq, Repr

def resdbSenderToOmnet (senderId : ℤ) : ℤ := if senderId ≤ 0 then -1 else senderId - 1

def OmnetForcedView.isActiveOmnet (view : OmnetForcedView) (replicaId : ℤ) : Bool :=
  decide (replicaId ∈ view.activeOmnetIds)

def OmnetForcedView.isActiveResdbSender (view : OmnetForcedView) (senderId : ℤ) : Bool :=
  view.isActiveOmnet (resdbSenderToOmnet senderId)

-- on a sorted vector std::unique keeps one of each id
def OmnetForcedView.normalize (view : OmnetForcedView) : Option OmnetForcedView :=
  let ids := (view.activeOmnetIds.insertionSort (· ≤ ·)).dedup
  let f := if view.fOverride then view.f else if 0 < ids.length then ((ids.length : ℤ) - 1) / 3 else 0
  (bftQuorumSize ids.length f).map fun quorum =>
    { view with activeOmnetIds := ids, f := f, quorum := quorum }

-- views keeps the map's order by epoch, the only part of the key that FindForRequest does not fix
structure Registry where
  views : List OmnetForcedView
  pendingByHash : List OmnetForcedView
  latest : Option OmnetForcedView
  deriving DecidableEq, Repr

def Registry.empty : Registry := ⟨[], [], none⟩

def OmnetForcedView.sameKey (a b : OmnetForcedView) : Bool :=
  decide (a.epoch = b.epoch) && decide (a.seq = b.seq) && decide (a.requestHash = b.requestHash)

def Registry.putView (reg : Registry) (view : OmnetForcedView) : List OmnetForcedView :=
  (reg.views.filter fun v => !v.sameKey view).orderedInsert (fun a b => a.epoch ≤ b.epoch) view

def Registry.putPending (reg : Registry) (view : OmnetForcedView) : List OmnetForcedView :=
  view :: reg.pendingByHash.filter fun v => !decide (v.requestHash = view.requestHash)

def Registry.installPending (reg : Registry) (view : OmnetForcedView) : Option Registry :=
  view.normalize.map fun normalized =>
    { reg with pendingByHash := reg.putPending normalized, latest := some normalized }

-- none: the install is refused, or Normalize throws
def Registry.installForRequest (reg : Registry) (request : Request) (view : OmnetForcedView) : Option Registry :=
  if request.hash = [] then none
  else
    match view.normalize with
    | none => none
    | some n =>
      let normalized := { n with seq := request.seq, requestHash := request.hash }
      match reg.views.find? fun v => v.sameKey normalized with
      | some old =>
        if old.activeOmnetIds ≠ normalized.activeOmnetIds then none
        else some ⟨reg.putView normalized, reg.putPending normalized, some normalized⟩
      | none => some ⟨reg.putView normalized, reg.putPending normalized, some normalized⟩

def OmnetForcedView.matches (view : OmnetForcedView) (request : Request) : Bool :=
  decide (view.seq = request.seq) && decide (view.requestHash = request.hash)

def Registry.findForRequest (reg : Registry) (request : Request) : Option OmnetForcedView × Registry :=
  if request.hash = [] then (none, reg)
  else
    match reg.views.find? fun v => v.matches request with
    | some view => (some view, reg)
    | none =>
      match reg.pendingByHash.find? fun v => decide (v.requestHash = request.hash) with
      | none => (none, reg)
      | some pending =>
        if request.seq ≠ 0 then
          let view := { pending with seq := request.seq }
          (some view, { reg with views := reg.putView view, latest := some view })
        else (some pending, reg)

def Registry.hasAny (reg : Registry) : Bool := reg.latest.isSome

structure SystemInfo where
  primaryId : ℤ
  currentView : ℕ
  deriving DecidableEq, Repr

-- the static replicas have the ids from 1 on; the subtraction is unsigned
def newPrimary (replicas viewNumber : ℕ) : ℤ := ((viewNumber + uint64Max) % (uint64Max + 1) % replicas : ℕ) + 1

def SystemInfo.setPrimary (info : SystemInfo) (primary : ℤ) (version : ℕ) : SystemInfo :=
  if version > info.currentView then ⟨primary, version⟩ else info

structure ConsensusState where
  registry : Registry
  info : SystemInfo
  deriving DecidableEq, Repr

def ConsensusState.adopt (s : ConsensusState) (registry : Registry) (view : OmnetForcedView) : ConsensusState :=
  { registry := registry
    info := if view.primaryOmnet ≥ 0 then { s.info with primaryId := view.primaryOmnet + 1 } else s.info }

def ConsensusState.installOmnetForcedViewForRequest (s : ConsensusState) (request : Request)
    (view : OmnetForcedView) : Option ConsensusState :=
  (s.registry.installForRequest request view).map fun reg => s.adopt reg view

def ConsensusState.installOmnetPendingForcedView (s : ConsensusState) (view : OmnetForcedView) :
    Option ConsensusState :=
  (s.registry.installPending view).map fun reg => s.adopt reg view

end V2vBft.Pbft
