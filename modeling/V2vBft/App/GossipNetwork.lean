import V2vBft.App.GossipFacts
import V2vBft.App.HaltInvariant

/-! Honest replicas that adopt ORDERs and CANCELs from gossip over a network run by Byzantine key holders. -/

namespace V2vBft.App

open Wire Library.GuardedRun

structure SignedFrame where
  senderId : ℤ
  pubKey : Bytes
  sig : Bytes
  inner : Bytes
  deriving DecidableEq, Repr

structure GossipParties where
  members : Finset ℤ
  honest : Finset ℤ
  app : ℤ → AppConfig
  gossip : ℤ → GossipConfig
  publicKey : ℤ → Bytes
  byzantine_card : ∀ id ∈ honest,
    ((members \ honest).card : ℤ) ≤ anchoredFaults (app id).toleratedFaults (app id).totalVehicles

-- bytes that an honest replica has signed, for gossip of some kind or (none) in another role
structure Signature where
  signer : ℤ
  role : Option GossipKind
  bytes : Bytes
  deriving DecidableEq, Repr

structure Holding where
  holder : ℤ
  kind : GossipKind
  epoch : ℕ
  bytes : Bytes
  deriving DecidableEq, Repr

structure GossipNetwork where
  replica : ℤ → Gossiping
  signed : List Signature
  held : List Holding

def GossipNetwork.initial : GossipNetwork := ⟨fun _ => .initial, [], []⟩

inductive NetAction
  | internal (ev : GossipEvent)
  | receive (kind : GossipKind) (frame : SignedFrame) (completed recallable : Bool)
  | signOther (bytes : Bytes)
  deriving DecidableEq, Repr

structure NetEvent where
  id : ℤ
  action : NetAction
  deriving DecidableEq, Repr

def GossipEvent.isReception : GossipEvent → Bool
  | .app (.decisionGossip _ _ _) | .app (.cancelCommitGossip _ _ _) => true
  | _ => false

def receivedEvent (kind : GossipKind) (frame : SignedFrame) (completed recallable : Bool) : AppEvent :=
  match kind with
  | .decision => .decisionGossip frame.senderId frame.inner completed
  | .cancelCommit => .cancelCommitGossip frame.senderId frame.inner recallable

def NetAction.localEvent (cfg : AppConfig) : NetAction → Option GossipEvent
  | .internal ev => if ev.isReception then none else some ev
  | .receive kind frame completed recallable =>
    if cfg.verifyBytes frame.pubKey frame.inner frame.sig then
      some (.app (receivedEvent kind frame completed recallable))
    else none
  | .signOther _ => none

def NetAction.otherSignatures (id : ℤ) : NetAction → List Signature
  | .signOther bytes => [⟨id, none, bytes⟩]
  | _ => []

def committedBy (id : ℤ) (s : AppState) : GossipEvent → List Holding
  | .app (.orderDecided dec) => (orderEpoch dec).toList.map fun epoch => ⟨id, .decision, epoch, dec⟩
  | .app (.processOrder _ _ _) =>
    match s.pendingOrders with
    | [] => []
    | dec :: _ =>
      if isCancelDecision dec then
        [⟨id, .cancelCommit, (CancelDecisionHdr.read dec).cancelledEpoch, dec.take CancelDecisionHdr.size⟩]
      else []
  | _ => []

def GossipEffects.adoptions (fx : GossipEffects) : GossipKind → Option (ℕ × Bytes)
  | .decision => fx.adopted
  | .cancelCommit => fx.cancelAdopted

def adoptedHoldings (id : ℤ) (fx : GossipEffects) : List Holding :=
  (fx.adopted.toList.map fun a => ⟨id, .decision, a.1, a.2⟩) ++
    fx.cancelAdopted.toList.map fun a => ⟨id, .cancelCommit, a.1, a.2⟩

def netStep (P : GossipParties) (n : GossipNetwork) (e : NetEvent) : GossipNetwork :=
  match e.action.localEvent (P.app e.id) with
  | none => { n with signed := e.action.otherSignatures e.id ++ n.signed }
  | some ev =>
    let next := gossipStep (P.app e.id) (P.gossip e.id) (n.replica e.id) ev
    { replica := Function.update n.replica e.id next.1
      signed := (next.2.sent.map fun frame => ⟨e.id, some frame.kind, frame.inner⟩) ++ n.signed
      held := committedBy e.id (n.replica e.id).app ev ++ adoptedHoldings e.id next.2 ++ n.held }

def adopts (P : GossipParties) (n : GossipNetwork) (e : NetEvent) (kind : GossipKind) : Option (ℕ × Bytes) :=
  (e.action.localEvent (P.app e.id)).bind fun ev =>
    (gossipStep (P.app e.id) (P.gossip e.id) (n.replica e.id) ev).2.adoptions kind

-- only honest replicas are stepped, and a signature under an honest key is over bytes its holder has signed
def unforgeable (P : GossipParties) (n : GossipNetwork) (e : NetEvent) : Prop :=
  e.id ∈ P.honest ∧
    match e.action with
    | .receive _ frame _ _ =>
      (P.app e.id).verifyBytes frame.pubKey frame.inner frame.sig = true → ∀ h ∈ P.honest,
        frame.pubKey = P.publicKey h → ∃ σ ∈ n.signed, σ.signer = h ∧ σ.bytes = frame.inner
    | _ => True

-- the key in a frame is the one registered for the sender named in it, and an honest sender's signature
-- was made for gossip of that kind
def senderBound (P : GossipParties) (n : GossipNetwork) (e : NetEvent) : Prop :=
  match e.action with
  | .receive kind frame _ _ =>
    (P.app e.id).verifyBytes frame.pubKey frame.inner frame.sig = true →
      frame.senderId ∈ P.members ∧ frame.pubKey = P.publicKey frame.senderId ∧
        (frame.senderId ∈ P.honest → (∃ σ ∈ n.signed, σ.signer = frame.senderId ∧ σ.bytes = frame.inner) →
          ⟨frame.senderId, some kind, frame.inner⟩ ∈ n.signed)
  | _ => True

variable {P : GossipParties} {n : GossipNetwork} {e : NetEvent} {id : ℤ} {kind : GossipKind} {epoch : ℕ} {bytes : Bytes}

instance (n : GossipNetwork) : (e : NetEvent) → Decidable (unforgeable P n e)
  | ⟨id, .receive _ frame _ _⟩ =>
    inferInstanceAs (Decidable (id ∈ P.honest ∧
      ((P.app id).verifyBytes frame.pubKey frame.inner frame.sig = true → ∀ h ∈ P.honest,
        frame.pubKey = P.publicKey h → ∃ σ ∈ n.signed, σ.signer = h ∧ σ.bytes = frame.inner)))
  | ⟨id, .internal _⟩ => inferInstanceAs (Decidable (id ∈ P.honest ∧ True))
  | ⟨id, .signOther _⟩ => inferInstanceAs (Decidable (id ∈ P.honest ∧ True))

instance (n : GossipNetwork) : (e : NetEvent) → Decidable (senderBound P n e)
  | ⟨id, .receive kind frame _ _⟩ =>
    inferInstanceAs (Decidable ((P.app id).verifyBytes frame.pubKey frame.inner frame.sig = true →
      frame.senderId ∈ P.members ∧ frame.pubKey = P.publicKey frame.senderId ∧
        (frame.senderId ∈ P.honest → (∃ σ ∈ n.signed, σ.signer = frame.senderId ∧ σ.bytes = frame.inner) →
          ⟨frame.senderId, some kind, frame.inner⟩ ∈ n.signed)))
  | ⟨_, .internal _⟩ => inferInstanceAs (Decidable True)
  | ⟨_, .signOther _⟩ => inferInstanceAs (Decidable True)

structure Holds (n : GossipNetwork) (id : ℤ) (kind : GossipKind) (epoch : ℕ) (bytes : Bytes) : Prop where
  held : ⟨id, kind, epoch, bytes⟩ ∈ n.held
  epoch_lt : epoch < 4294967296
  bytes_ne : bytes ≠ []
  named : kind = .decision → orderEpoch bytes = some epoch

def Vouched (P : GossipParties) (n : GossipNetwork) (kind : GossipKind) (vote : (ℕ × ℤ) × Bytes) : Prop :=
  vote.1.2 ∈ P.members ∧ (vote.1.2 ∈ P.honest → Holds n vote.1.2 kind vote.1.1 vote.2)

structure ReplicaInv (P : GossipParties) (n : GossipNetwork) (id : ℤ) (s : Gossiping) : Prop where
  queue : ∀ dec ∈ s.app.pendingOrders, ∀ epoch, orderEpoch dec = some epoch → Holds n id .decision epoch dec
  orderVotes : ∀ vote ∈ s.app.orderGossip.entries, Vouched P n .decision vote
  cancelVotes : ∀ vote ∈ s.app.cancelGossip.entries, Vouched P n .cancelCommit vote
  orderDistinct : s.app.orderGossip.Distinct
  cancelDistinct : s.app.cancelGossip.Distinct
  repeats : s.gossipOrderBytes ≠ [] → Holds n id .decision s.gossipEpoch s.gossipOrderBytes
  cancelRepeats : s.cancelGossipBytes ≠ [] → Holds n id .cancelCommit s.cancelGossipEpoch s.cancelGossipBytes

structure NetInv (P : GossipParties) (n : GossipNetwork) : Prop where
  replica : ∀ id ∈ P.honest, ReplicaInv P n id (n.replica id)
  signed : ∀ σ ∈ n.signed, σ.signer ∈ P.honest → ∀ kind, σ.role = some kind →
    ∃ epoch bytes, σ.bytes = gossipSerialize epoch bytes ∧ Holds n σ.signer kind epoch bytes

lemma netInv_initial : NetInv P .initial where
  replica := fun _ _ =>
    { queue := fun _ h => absurd h List.not_mem_nil
      orderVotes := fun _ h => absurd h List.not_mem_nil
      cancelVotes := fun _ h => absurd h List.not_mem_nil
      orderDistinct := List.nodup_nil
      cancelDistinct := List.nodup_nil
      repeats := fun h => absurd rfl h
      cancelRepeats := fun h => absurd rfl h }
  signed := fun _ h => absurd h List.not_mem_nil

lemma Holds.mono {n' : GossipNetwork} (h : Holds n id kind epoch bytes) (hsub : n.held ⊆ n'.held) :
    Holds n' id kind epoch bytes := ⟨hsub h.held, h.epoch_lt, h.bytes_ne, h.named⟩

lemma ReplicaInv.mono {n' : GossipNetwork} {s : Gossiping} (h : ReplicaInv P n id s) (hsub : n.held ⊆ n'.held) :
    ReplicaInv P n' id s where
  queue := fun dec hdec epoch hepoch => (h.queue dec hdec epoch hepoch).mono hsub
  orderVotes := fun vote hvote => ⟨(h.orderVotes vote hvote).1, fun hh => ((h.orderVotes vote hvote).2 hh).mono hsub⟩
  cancelVotes := fun vote hvote => ⟨(h.cancelVotes vote hvote).1, fun hh => ((h.cancelVotes vote hvote).2 hh).mono hsub⟩
  orderDistinct := h.orderDistinct
  cancelDistinct := h.cancelDistinct
  repeats := fun hne => (h.repeats hne).mono hsub
  cancelRepeats := fun hne => (h.cancelRepeats hne).mono hsub

lemma localEvent_reception {cfg : AppConfig} {a : NetAction} {ev : AppEvent}
    (h : a.localEvent cfg = some (.app ev)) (hreception : (GossipEvent.app ev).isReception = true) :
    ∃ kind frame completed recallable, a = .receive kind frame completed recallable ∧
      cfg.verifyBytes frame.pubKey frame.inner frame.sig = true ∧ receivedEvent kind frame completed recallable = ev := by
  cases a with
  | signOther bytes => exact absurd h (by simp [NetAction.localEvent])
  | internal inside =>
    rw [NetAction.localEvent] at h
    split at h
    next => exact absurd h (by simp)
    next hnot =>
      rw [Option.some.inj h] at hnot
      exact absurd hreception hnot
  | receive kind frame completed recallable =>
    rw [NetAction.localEvent] at h
    split at h
    next hverify =>
      rw [Option.some.injEq, GossipEvent.app.injEq] at h
      exact ⟨kind, frame, completed, recallable, rfl, hverify, h⟩
    next => exact absurd h (by simp)

lemma localEvent_decision {cfg : AppConfig} {a : NetAction} {senderId : ℤ} {inner : Bytes} {completed : Bool}
    (h : a.localEvent cfg = some (.app (.decisionGossip senderId inner completed))) :
    ∃ frame recallable, a = .receive .decision frame completed recallable ∧
      cfg.verifyBytes frame.pubKey frame.inner frame.sig = true ∧ senderId = frame.senderId ∧ inner = frame.inner := by
  obtain ⟨kind, frame, done, recallable, rfl, hverify, hev⟩ := localEvent_reception h rfl
  cases kind with
  | decision =>
    simp only [receivedEvent, AppEvent.decisionGossip.injEq] at hev
    obtain ⟨rfl, rfl, rfl⟩ := hev
    exact ⟨frame, recallable, rfl, hverify, rfl, rfl⟩
  | cancelCommit => exact absurd hev (by simp [receivedEvent])

lemma localEvent_cancel {cfg : AppConfig} {a : NetAction} {senderId : ℤ} {inner : Bytes} {recallable : Bool}
    (h : a.localEvent cfg = some (.app (.cancelCommitGossip senderId inner recallable))) :
    ∃ frame completed, a = .receive .cancelCommit frame completed recallable ∧
      cfg.verifyBytes frame.pubKey frame.inner frame.sig = true ∧ senderId = frame.senderId ∧ inner = frame.inner := by
  obtain ⟨kind, frame, completed, done, rfl, hverify, hev⟩ := localEvent_reception h rfl
  cases kind with
  | decision => exact absurd hev (by simp [receivedEvent])
  | cancelCommit =>
    simp only [receivedEvent, AppEvent.cancelCommitGossip.injEq] at hev
    obtain ⟨rfl, rfl, rfl⟩ := hev
    exact ⟨frame, completed, rfl, hverify, rfl, rfl⟩

lemma NetInv.vouched {frame : SignedFrame} {completed recallable : Bool} (h : NetInv P n)
    (haction : e.action = .receive kind frame completed recallable)
    (hverify : (P.app e.id).verifyBytes frame.pubKey frame.inner frame.sig = true) (hauth : unforgeable P n e)
    (hok : senderBound P n e) (hparse : gossipParse frame.inner = some (epoch, bytes)) :
    Vouched P n kind ((epoch, frame.senderId), bytes) := by
  rw [senderBound, haction] at hok
  obtain ⟨hmember, hkey, hrole⟩ := hok hverify
  refine ⟨hmember, fun hhonest => ?_⟩
  have hforge := hauth.2
  rw [haction] at hforge
  obtain ⟨e', b', hser, hholds⟩ := h.signed _ (hrole hhonest (hforge hverify _ hhonest hkey)) hhonest kind rfl
  have hparse' : gossipParse frame.inner = some (e', b') := by
    rw [show frame.inner = gossipSerialize e' b' from hser]
    exact gossipParse_serialize hholds.epoch_lt hholds.bytes_ne
  obtain ⟨rfl, rfl⟩ := Prod.mk.inj (Option.some.inj (hparse.symm.trans hparse'))
  exact hholds

lemma holds_of_votes {acc : GossipAccumulator} {senderId : ℤ} (hid : e.id ∈ P.honest) (hdistinct : acc.Distinct)
    (hvotes : ∀ vote ∈ acc.entries, Vouched P n kind vote) (hnew : Vouched P n kind ((epoch, senderId), bytes))
    (hcount : (acc.add senderId epoch bytes
      (anchoredFaults (P.app e.id).toleratedFaults (P.app e.id).totalVehicles + 1)).1 = true) :
    ∃ holder ∈ P.honest, Holds n holder kind epoch bytes := by
  have hall : ∀ vote ∈ (acc.record senderId epoch bytes).entries, Vouched P n kind vote := by
    intro vote hvote
    rcases mem_record hvote with rfl | hold
    · exact hnew
    · exact hvotes vote hold
  obtain ⟨holder, hhonest, hentry⟩ := exists_honest_vote (record_distinct hdistinct senderId epoch bytes)
    (fun vote hvote => (hall vote hvote).1) (P.byzantine_card e.id hid) (of_decide_eq_true hcount)
  exact ⟨holder, hhonest, (hall _ hentry).2 hhonest⟩

lemma NetInv.adoption (h : NetInv P n) (hauth : unforgeable P n e) (hok : senderBound P n e)
    (hadopt : adopts P n e kind = some (epoch, bytes)) : ∃ holder ∈ P.honest, Holds n holder kind epoch bytes := by
  have hinv := h.replica e.id hauth.1
  obtain ⟨ev, hlocal, hfx⟩ := Option.bind_eq_some_iff.mp hadopt
  cases kind with
  | decision =>
    have hadopted : ∃ senderId inner completed, ev = .app (.decisionGossip senderId inner completed) ∧
        adoptedOrder (P.app e.id) (n.replica e.id).app senderId inner completed = some (epoch, bytes) := by
      cases ev with
      | gossipTimer => exact absurd hfx (by simp [gossipStep, GossipEffects.adoptions])
      | cancelGossipTimer => exact absurd hfx (by simp [gossipStep, GossipEffects.adoptions])
      | app ev =>
        cases ev with
        | decisionGossip senderId inner completed => exact ⟨senderId, inner, completed, rfl, hfx⟩
        | _ => exact absurd hfx (by simp [gossipStep, GossipEffects.adoptions, adoptedBy])
    obtain ⟨senderId, inner, completed, rfl, hsome⟩ := hadopted
    obtain ⟨frame, recallable, haction, hverify, rfl, rfl⟩ := localEvent_decision hlocal
    obtain ⟨hparse, -, hcount⟩ := adoptedOrder_some hsome
    exact holds_of_votes hauth.1 hinv.orderDistinct hinv.orderVotes (h.vouched haction hverify hauth hok hparse) hcount
  | cancelCommit =>
    have hadopted : ∃ senderId inner recallable, ev = .app (.cancelCommitGossip senderId inner recallable) ∧
        adoptedAttestation (P.app e.id) (n.replica e.id).app senderId inner = some bytes ∧
          (CancelDecisionHdr.read bytes).cancelledEpoch = epoch := by
      cases ev with
      | gossipTimer => exact absurd hfx (by simp [gossipStep, GossipEffects.adoptions])
      | cancelGossipTimer => exact absurd hfx (by simp [gossipStep, GossipEffects.adoptions])
      | app ev =>
        cases ev with
        | cancelCommitGossip senderId inner recallable =>
          obtain ⟨attestation, hatt, heq⟩ := Option.map_eq_some_iff.mp hfx
          obtain ⟨rfl, rfl⟩ := Prod.mk.inj heq
          exact ⟨senderId, inner, recallable, rfl, hatt, rfl⟩
        | _ => exact absurd hfx (by simp [gossipStep, GossipEffects.adoptions, cancelAdoptedBy])
    obtain ⟨senderId, inner, recallable, rfl, hsome, rfl⟩ := hadopted
    obtain ⟨frame, completed, haction, hverify, rfl, rfl⟩ := localEvent_cancel hlocal
    obtain ⟨number, hparse, rfl, -, hcount⟩ := adoptedAttestation_some hsome
    exact holds_of_votes hauth.1 hinv.cancelDistinct hinv.cancelVotes (h.vouched haction hverify hauth hok hparse) hcount

lemma orderEpoch_some (h : orderEpoch bytes = some epoch) : epoch < 4294967296 ∧ bytes ≠ [] := by
  rw [orderEpoch] at h
  split at h
  next => exact absurd h (by simp)
  next hsize =>
    obtain rfl := Option.some.inj h
    refine ⟨readU32_lt _ _, ?_⟩
    rintro rfl
    exact hsize (by decide)

lemma take_size_ne {dec : Bytes} (h : isCancelDecision dec = true) : dec.take CancelDecisionHdr.size ≠ [] := by
  simp only [isCancelDecision, Bool.and_eq_true, decide_eq_true_eq] at h
  intro hnil
  have hlength := congrArg List.length hnil
  rw [List.length_take, Nat.min_eq_left h.1] at hlength
  exact absurd hlength (by decide)

lemma netStep_held : n.held ⊆ (netStep P n e).held := by
  rw [netStep]
  split
  next => exact List.Subset.refl _
  next ev _ => exact List.subset_append_right _ _

lemma NetInv.frame {ev : GossipEvent} {frame : GossipFrame} (h : NetInv P n) (hauth : unforgeable P n e)
    (hok : senderBound P n e) (hlocal : e.action.localEvent (P.app e.id) = some ev)
    (hframe : frame ∈ (gossipStep (P.app e.id) (P.gossip e.id) (n.replica e.id) ev).2.sent) :
    Holds (netStep P n e) e.id frame.kind frame.epoch frame.bytes := by
  have hinv := h.replica e.id hauth.1
  have hstep : (netStep P n e).held = committedBy e.id (n.replica e.id).app ev ++
      adoptedHoldings e.id (gossipStep (P.app e.id) (P.gossip e.id) (n.replica e.id) ev).2 ++ n.held := by
    simp only [netStep, hlocal]
  cases (gossipStep_spec (P.app e.id) (P.gossip e.id) (n.replica e.id) ev).source frame hframe with
  | order rest hkind hqueue hepoch hlive =>
    rw [hkind]
    exact (hinv.queue _ (by rw [hqueue]; exact List.mem_cons_self) _ hepoch).mono netStep_held
  | retry hkind hepoch hbytes hne hlive =>
    rw [hkind, hepoch, hbytes]
    exact (hinv.repeats hne).mono netStep_held
  | cancelRetry hkind hepoch hbytes hne =>
    rw [hkind, hepoch, hbytes]
    exact (hinv.cancelRepeats hne).mono netStep_held
  | cancelDecided completed recallable now dec rest hkind hev hqueue hdec hepoch hbytes =>
    rw [hkind, hepoch, hbytes]
    refine ⟨?_, readU32_lt _ _, take_size_ne hdec, fun hd => absurd hd (by simp)⟩
    rw [hstep, hev]
    simp only [committedBy, hqueue, hdec, if_true]
    exact List.mem_append_left _ (List.mem_append_left _ List.mem_cons_self)
  | cancelAdopted senderId inner recallable hkind hev hadopt hepoch =>
    have hadopts : adopts P n e .cancelCommit = some (frame.epoch, frame.bytes) := by
      rw [adopts, hlocal, hev, hepoch]
      simp only [Option.bind_some, gossipStep, GossipEffects.adoptions, cancelAdoptedBy, hadopt, Option.map_some]
    obtain ⟨holder, -, hholds⟩ := h.adoption hauth hok hadopts
    rw [hkind]
    refine ⟨?_, hholds.epoch_lt, hholds.bytes_ne, fun hd => absurd hd (by simp)⟩
    rw [hstep]
    refine List.mem_append_left _ (List.mem_append_right _ (List.mem_append_right _ ?_))
    rw [adopts, hlocal] at hadopts
    rw [show (gossipStep _ _ _ ev).2.cancelAdopted = some (frame.epoch, frame.bytes) from hadopts]
    exact List.mem_singleton_self _

lemma NetInv.queued {ev : AppEvent} {dec : Bytes} (h : NetInv P n) (hauth : unforgeable P n e)
    (hok : senderBound P n e) (hlocal : e.action.localEvent (P.app e.id) = some (.app ev))
    (hdec : dec ∈ (appStep (P.app e.id) (n.replica e.id).app ev).1.pendingOrders) (hepoch : orderEpoch dec = some epoch) :
    Holds (netStep P n e) e.id .decision epoch dec := by
  have hstep : (netStep P n e).held = committedBy e.id (n.replica e.id).app (.app ev) ++
      adoptedHoldings e.id (gossipStep (P.app e.id) (P.gossip e.id) (n.replica e.id) (.app ev)).2 ++ n.held := by
    simp only [netStep, hlocal]
  obtain ⟨hlt, hne⟩ := orderEpoch_some hepoch
  rcases (appStep_gossip (P.app e.id) (n.replica e.id).app ev).pending dec hdec with hold | rfl | ⟨number, hadopt⟩
  · exact ((h.replica e.id hauth.1).queue dec hold epoch hepoch).mono netStep_held
  · refine ⟨?_, hlt, hne, fun _ => hepoch⟩
    rw [hstep]
    refine List.mem_append_left _ (List.mem_append_left _ ?_)
    rw [committedBy, hepoch]
    exact List.mem_singleton_self _
  · have hadopts : adopts P n e .decision = some (number, dec) := by
      rw [adopts, hlocal]
      exact hadopt
    obtain ⟨holder, -, hholds⟩ := h.adoption hauth hok hadopts
    obtain rfl := Option.some.inj (hepoch.symm.trans (hholds.named rfl))
    refine ⟨?_, hlt, hne, fun _ => hepoch⟩
    rw [hstep]
    refine List.mem_append_left _ (List.mem_append_right _ (List.mem_append_left _ ?_))
    rw [show (gossipStep _ _ _ (.app ev)).2.adopted = some (epoch, dec) from hadopt]
    exact List.mem_singleton_self _

lemma NetInv.counted {ev : AppEvent} (h : NetInv P n) (hauth : unforgeable P n e) (hok : senderBound P n e)
    (hlocal : e.action.localEvent (P.app e.id) = some (.app ev)) :
    (∀ vote ∈ (appStep (P.app e.id) (n.replica e.id).app ev).1.orderGossip.entries, Vouched P n .decision vote) ∧
      ∀ vote ∈ (appStep (P.app e.id) (n.replica e.id).app ev).1.cancelGossip.entries, Vouched P n .cancelCommit vote := by
  have hinv := h.replica e.id hauth.1
  have hstep := appStep_gossip (P.app e.id) (n.replica e.id).app ev
  constructor
  · intro vote hvote
    rcases hstep.orders.source vote hvote with hold | hnew
    · exact hinv.orderVotes vote hold
    · cases ev with
      | decisionGossip senderId inner completed =>
        obtain ⟨frame, recallable, haction, hverify, rfl, rfl⟩ := localEvent_decision hlocal
        obtain ⟨gossip, hparse, heq⟩ := Option.map_eq_some_iff.mp hnew
        obtain ⟨hsender, hgossip⟩ := Prod.mk.inj heq
        have hread : gossipParse frame.inner = some (vote.1.1, vote.2) := hparse.trans (congrArg some hgossip)
        have hv := h.vouched haction hverify hauth hok hread
        rwa [hsender] at hv
      | _ => exact absurd hnew (by simp [orderReceived])
  · intro vote hvote
    rcases hstep.cancels.source vote hvote with hold | hnew
    · exact hinv.cancelVotes vote hold
    · cases ev with
      | cancelCommitGossip senderId inner recallable =>
        obtain ⟨frame, completed, haction, hverify, rfl, rfl⟩ := localEvent_cancel hlocal
        obtain ⟨gossip, hparse, heq⟩ := Option.map_eq_some_iff.mp hnew
        obtain ⟨hsender, hgossip⟩ := Prod.mk.inj heq
        have hread : gossipParse frame.inner = some (vote.1.1, vote.2) := hparse.trans (congrArg some hgossip)
        have hv := h.vouched haction hverify hauth hok hread
        rwa [hsender] at hv
      | _ => exact absurd hnew (by simp [cancelReceived])

lemma NetInv.stepped {ev : GossipEvent} (h : NetInv P n) (hauth : unforgeable P n e) (hok : senderBound P n e)
    (hlocal : e.action.localEvent (P.app e.id) = some ev) :
    ReplicaInv P (netStep P n e) e.id (gossipStep (P.app e.id) (P.gossip e.id) (n.replica e.id) ev).1 := by
  have hinv := (h.replica e.id hauth.1).mono (netStep_held (P := P) (n := n) (e := e))
  have hspec := gossipStep_spec (P.app e.id) (P.gossip e.id) (n.replica e.id) ev
  set s' := (gossipStep (P.app e.id) (P.gossip e.id) (n.replica e.id) ev).1
  have hrepeats : s'.gossipOrderBytes ≠ [] → Holds (netStep P n e) e.id .decision s'.gossipEpoch s'.gossipOrderBytes := by
    intro hne
    rcases hspec.kept.order with hnil | ⟨hepoch, hbytes⟩ | hsent
    · exact absurd hnil hne
    · rw [hepoch, hbytes]
      exact hinv.repeats (hbytes ▸ hne)
    · exact h.frame hauth hok hlocal hsent
  have hcancel : s'.cancelGossipBytes ≠ [] →
      Holds (netStep P n e) e.id .cancelCommit s'.cancelGossipEpoch s'.cancelGossipBytes := by
    intro hne
    rcases hspec.kept.cancel with hnil | ⟨hepoch, hbytes⟩ | hsent
    · exact absurd hnil hne
    · rw [hepoch, hbytes]
      exact hinv.cancelRepeats (hbytes ▸ hne)
    · exact h.frame hauth hok hlocal hsent
  have hsame (happ : s'.app = (n.replica e.id).app) : ReplicaInv P (netStep P n e) e.id s' :=
    ⟨happ ▸ hinv.queue, happ ▸ hinv.orderVotes, happ ▸ hinv.cancelVotes, happ ▸ hinv.orderDistinct,
      happ ▸ hinv.cancelDistinct, hrepeats, hcancel⟩
  cases ev with
  | gossipTimer => exact hsame (gossipTimer_sent _ _ _).2.1
  | cancelGossipTimer => exact hsame (cancelGossipTimer_sent _ _ _).2.1
  | app ev =>
    have happ : s'.app = (appStep (P.app e.id) (n.replica e.id).app ev).1 := gossipStep_app _ _ _ ev
    obtain ⟨horders, hcancels⟩ := h.counted hauth hok hlocal
    have hstep := appStep_gossip (P.app e.id) (n.replica e.id).app ev
    have hgrow : ∀ kind vote, Vouched P n kind vote → Vouched P (netStep P n e) kind vote :=
      fun kind vote hv => ⟨hv.1, fun hh => (hv.2 hh).mono netStep_held⟩
    refine ⟨fun dec hdec epoch hepoch => ?_, fun vote hvote => ?_, fun vote hvote => ?_, ?_, ?_, hrepeats, hcancel⟩
    · rw [happ] at hdec
      exact h.queued hauth hok hlocal hdec hepoch
    · rw [happ] at hvote
      exact hgrow .decision vote (horders vote hvote)
    · rw [happ] at hvote
      exact hgrow .cancelCommit vote (hcancels vote hvote)
    · rw [happ]
      exact hstep.orders.distinct hinv.orderDistinct
    · rw [happ]
      exact hstep.cancels.distinct hinv.cancelDistinct

lemma NetInv.step (n : GossipNetwork) (e : NetEvent) (h : NetInv P n)
    (hguard : unforgeable P n e ∧ senderBound P n e) : NetInv P (netStep P n e) := by
  obtain ⟨hauth, hok⟩ := hguard
  have hheld := netStep_held (P := P) (n := n) (e := e)
  have hold : ∀ σ ∈ n.signed, σ.signer ∈ P.honest → ∀ kind, σ.role = some kind →
      ∃ epoch bytes, σ.bytes = gossipSerialize epoch bytes ∧ Holds (netStep P n e) σ.signer kind epoch bytes := by
    intro σ hσ hsigner kind hrole
    obtain ⟨epoch, bytes, hbytes, hholds⟩ := h.signed σ hσ hsigner kind hrole
    exact ⟨epoch, bytes, hbytes, hholds.mono hheld⟩
  cases hlocal : e.action.localEvent (P.app e.id) with
  | none =>
    have hstep : netStep P n e = { n with signed := e.action.otherSignatures e.id ++ n.signed } := by
      simp only [netStep, hlocal]
    refine ⟨fun id hid => ?_, fun σ hσ hsigner kind hrole => ?_⟩
    · have hrep : (netStep P n e).replica id = n.replica id := by rw [hstep]
      rw [hrep]
      exact (h.replica id hid).mono hheld
    · rw [hstep] at hσ
      rcases List.mem_append.mp hσ with hnew | hprev
      · have hnone : σ.role = none := by
          cases haction : e.action with
          | signOther bytes =>
            rw [haction] at hnew
            rw [List.mem_singleton.mp hnew]
          | internal ev =>
            rw [haction] at hnew
            exact absurd hnew List.not_mem_nil
          | receive kind frame completed recallable =>
            rw [haction] at hnew
            exact absurd hnew List.not_mem_nil
        exact absurd (hnone.symm.trans hrole) (by simp)
      · exact hold σ hprev hsigner kind hrole
  | some ev =>
    have hstepped := h.stepped hauth hok hlocal
    refine ⟨fun id hid => ?_, fun σ hσ hsigner kind hrole => ?_⟩
    · by_cases hsame : id = e.id
      · have hrep : (netStep P n e).replica id =
            (gossipStep (P.app e.id) (P.gossip e.id) (n.replica e.id) ev).1 := by
          simp only [netStep, hlocal, hsame, Function.update_self]
        rw [hrep, hsame]
        exact hstepped
      · have hrep : (netStep P n e).replica id = n.replica id := by
          simp only [netStep, hlocal, Function.update_of_ne hsame]
        rw [hrep]
        exact (h.replica id hid).mono hheld
    · have hsigned : (netStep P n e).signed =
          ((gossipStep (P.app e.id) (P.gossip e.id) (n.replica e.id) ev).2.sent.map fun frame =>
            ⟨e.id, some frame.kind, frame.inner⟩) ++ n.signed := by
        simp only [netStep, hlocal]
      rw [hsigned] at hσ
      rcases List.mem_append.mp hσ with hnew | hprev
      · obtain ⟨frame, hframe, rfl⟩ := List.mem_map.mp hnew
        obtain rfl := Option.some.inj hrole
        exact ⟨frame.epoch, frame.bytes, rfl, h.frame hauth hok hlocal hframe⟩
      · exact hold σ hprev hsigner kind hrole

theorem gossip_adoption_held (P : GossipParties) (events : List NetEvent) (e : NetEvent)
    (hauth : Guarded (netStep P) (unforgeable P) .initial (events ++ [e]))
    (hok : Guarded (netStep P) (senderBound P) .initial (events ++ [e])) (kind : GossipKind) (epoch : ℕ) (bytes : Bytes)
    (hadopt : adopts P (run (netStep P) .initial events) e kind = some (epoch, bytes)) :
    ∃ holder ∈ P.honest, ⟨holder, kind, epoch, bytes⟩ ∈ (run (netStep P) .initial events).held := by
  obtain ⟨hpre, hlast⟩ := guarded_snoc (hauth.and hok)
  obtain ⟨holder, hhonest, hholds⟩ := (hpre.invariant NetInv.step netInv_initial).adoption hlast.1 hlast.2 hadopt
  exact ⟨holder, hhonest, hholds.held⟩

def gossipingCars : GossipParties where
  members := {0, 1, 2, 3}
  honest := {0, 1, 2}
  app id := { fourCars with replicaId := id }
  gossip _ := ⟨true, 0, 0⟩
  publicKey id := [UInt8.ofNat id.toNat]
  byzantine_card := by decide

def agreedOrder : Bytes := orderDecisionBytes 0 [(0, 0), (1, 0), (2, 1)]

def decidesOrder (id : ℤ) : List NetEvent :=
  [⟨id, .internal (.app (.orderDecided agreedOrder))⟩, ⟨id, .internal (.app (.processOrder false true 5))⟩]

def orderFrame (senderId keyHolder : ℤ) (orderBytes : Bytes) : NetEvent :=
  ⟨2, .receive .decision ⟨senderId, gossipingCars.publicKey keyHolder, [7], gossipSerialize 0 orderBytes⟩ false true⟩

theorem gossip_adoption_held_straggler :
    ∃ holder ∈ gossipingCars.honest, ⟨holder, .decision, 0, agreedOrder⟩ ∈
      (run (netStep gossipingCars) .initial (decidesOrder 0 ++ decidesOrder 1 ++ [orderFrame 0 0 agreedOrder])).held :=
  gossip_adoption_held gossipingCars (decidesOrder 0 ++ decidesOrder 1 ++ [orderFrame 0 0 agreedOrder])
    (orderFrame 1 1 agreedOrder) (by decide +kernel) (by decide +kernel) .decision 0 agreedOrder (by decide +kernel)

def forgedOrder : Bytes := orderDecisionBytes 0 [(3, 0), (2, 1)]

def cancelFrame (senderId keyHolder : ℤ) : NetEvent :=
  ⟨2, .receive .cancelCommit ⟨senderId, gossipingCars.publicKey keyHolder, [7], gossipSerialize 0 (crashCancelBytes 0)⟩
    false true⟩

-- replica 3 signs with its own key under the ids of 0 and 1; or it adds one frame to a signature of 1 in another role
theorem forged_adoption :
    (Guarded (netStep gossipingCars) (unforgeable gossipingCars) .initial
        [orderFrame 0 3 forgedOrder, orderFrame 1 3 forgedOrder] ∧
      adopts gossipingCars (run (netStep gossipingCars) .initial [orderFrame 0 3 forgedOrder])
        (orderFrame 1 3 forgedOrder) .decision = some (0, forgedOrder) ∧
      (run (netStep gossipingCars) .initial [orderFrame 0 3 forgedOrder]).held = []) ∧
    (Guarded (netStep gossipingCars) (unforgeable gossipingCars) .initial [cancelFrame 0 3, cancelFrame 1 3] ∧
      adopts gossipingCars (run (netStep gossipingCars) .initial [cancelFrame 0 3]) (cancelFrame 1 3) .cancelCommit =
        some (0, crashCancelBytes 0) ∧
      (run (netStep gossipingCars) .initial [cancelFrame 0 3]).held = []) ∧
    (Guarded (netStep gossipingCars) (unforgeable gossipingCars) .initial
        [⟨1, .signOther (gossipSerialize 0 forgedOrder)⟩, orderFrame 1 1 forgedOrder, orderFrame 3 3 forgedOrder] ∧
      adopts gossipingCars (run (netStep gossipingCars) .initial
          [⟨1, .signOther (gossipSerialize 0 forgedOrder)⟩, orderFrame 1 1 forgedOrder])
        (orderFrame 3 3 forgedOrder) .decision = some (0, forgedOrder) ∧
      (run (netStep gossipingCars) .initial
        [⟨1, .signOther (gossipSerialize 0 forgedOrder)⟩, orderFrame 1 1 forgedOrder]).held = []) := by
  decide +kernel

end V2vBft.App
