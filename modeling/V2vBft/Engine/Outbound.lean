import V2vBft.Engine.ConsensusRelay
import V2vBft.Library.GuardedRun
import V2vBft.Rollback.SignedPacket

/-! The outbound queue: packets of equal bytes are sent once, and whom that leaves out. -/

namespace V2vBft.Engine

open Wire App Rollback Library.GuardedRun

structure PendingOutboundPacket where
  toReplicaId : ℤ
  resdbBytes : Bytes
  deriving DecidableEq, Repr

-- radio: what all vehicles share on the receiving side; ECDSA signs with a fresh nonce each time
structure OutboundConfig where
  radio : RelayConfig
  pubKey : Bytes
  sign : ℕ → Bytes → Option Bytes

structure OutboundState where
  departed : Bool
  crashCommsDisabled : Bool
  outboundQueue : List PendingOutboundPacket
  deriving DecidableEq, Repr

structure BFTMessage where
  fromReplicaId : ℤ
  toReplicaId : ℤ
  payload : Bytes
  deriving DecidableEq, Repr

def enqueueOutbound (s : OutboundState) (toReplicaId : ℤ) (bytes : Bytes) : OutboundState :=
  if bytes = [] then s
  else if s.departed then s
  else if s.crashCommsDisabled then s
  else if s.outboundQueue.any fun pkt => decide (pkt.resdbBytes = bytes) then s
  else { s with outboundQueue := s.outboundQueue ++ [⟨toReplicaId, bytes⟩] }

def signedMessage (cfg : OutboundConfig) (nonce : ℕ) (pkt : PendingOutboundPacket) : Option BFTMessage :=
  let signed := packSignedPacket (cfg.sign nonce) cfg.pubKey pkt.resdbBytes
  if signed = [] then none else some ⟨cfg.radio.replicaId, pkt.toReplicaId, signed⟩

def drainOutboundQueue (cfg : OutboundConfig) (nonce : ℕ) (s : OutboundState) : List BFTMessage × OutboundState :=
  (if s.crashCommsDisabled then [] else s.outboundQueue.filterMap (signedMessage cfg nonce),
    { s with outboundQueue := [] })

inductive OutboundEvent
  | enqueue (toReplicaId : ℤ) (bytes : Bytes)
  | drain (nonce : ℕ)
  deriving DecidableEq, Repr

def outboundStep (cfg : OutboundConfig) (s : OutboundState) : OutboundEvent → OutboundState
  | .enqueue toReplicaId bytes => enqueueOutbound s toReplicaId bytes
  | .drain nonce => (drainOutboundQueue cfg nonce s).2

def outboundSent (cfg : OutboundConfig) (s : OutboundState) : OutboundEvent → List BFTMessage
  | .enqueue _ _ => []
  | .drain nonce => (drainOutboundQueue cfg nonce s).1

def OutboundConfig.receives (cfg : OutboundConfig) (replica : ℤ) (m : BFTMessage) : Option Bytes :=
  (unpackSignedPacket m.payload).bind fun view =>
    (handleResdbConsensusMessage { cfg.radio with replicaId := replica } RelayState.empty
      ⟨.resdbConsensus, m.fromReplicaId, m.toReplicaId, view.pubKey, view.sig, view.content⟩ 0 false).1

structure OutboundConfig.Signs (cfg : OutboundConfig) : Prop where
  keyed : cfg.pubKey.length = cryptoPubkeyBytes
  signs : ∀ nonce payload, payload ≠ [] → ∃ sig, cfg.sign nonce payload = some sig
  sized : ∀ nonce payload sig, cfg.sign nonce payload = some sig → 1 ≤ sig.length ∧ sig.length ≤ cryptoSigMaxBytes
  verifies : ∀ nonce payload sig, cfg.sign nonce payload = some sig →
    cfg.radio.verifyBytes cfg.pubKey payload sig = true

def OutboundState.active (s : OutboundState) : Bool := !s.departed && !s.crashCommsDisabled

def OutboundConfig.serves (cfg : OutboundConfig) (toReplicaId : ℤ) (bytes : Bytes) (m : BFTMessage) : Prop :=
  ∀ replica, toReplicaId = -1 ∨ replica = toReplicaId → cfg.receives replica m = some bytes

def NextDrainServes (cfg : OutboundConfig) (s : OutboundState) (toReplicaId : ℤ) (bytes : Bytes) : Prop :=
  ∀ nonce, ∃ m ∈ (drainOutboundQueue cfg nonce s).1, cfg.serves toReplicaId bytes m

def OutboundEvent.isEnqueue : OutboundEvent → Bool
  | .enqueue _ _ => true
  | .drain _ => false

def BFTMessage.isCopy (toReplicaId : ℤ) (bytes : Bytes) (m : BFTMessage) : Bool :=
  decide (m.toReplicaId = toReplicaId) &&
    decide ((unpackSignedPacket m.payload).map SignedPacketView.content = some bytes)

structure LosesNoRecipient (cfg : OutboundConfig) (s : OutboundState) (events : List OutboundEvent) : Prop where
  served : ∀ pre toReplicaId bytes mid post, events = pre ++ .enqueue toReplicaId bytes :: (mid ++ post) →
    bytes ≠ [] → (∀ e ∈ mid, e.isEnqueue = true) →
      NextDrainServes cfg (run (outboundStep cfg) s (pre ++ .enqueue toReplicaId bytes :: mid)) toReplicaId bytes
  once : ∀ toReplicaId bytes, (collect (outboundStep cfg) (outboundSent cfg) s events).countP
    (BFTMessage.isCopy toReplicaId bytes) ≤ events.count (.enqueue toReplicaId bytes)

-- a packet of the same bytes that still waits goes to everyone or to the same recipient
def coversDuplicate (s : OutboundState) : OutboundEvent → Prop
  | .enqueue toReplicaId bytes => ∀ pkt ∈ s.outboundQueue, pkt.resdbBytes = bytes →
      pkt.toReplicaId = -1 ∨ pkt.toReplicaId = toReplicaId
  | .drain _ => True

instance instDecidableCoversDuplicate (s : OutboundState) : ∀ e, Decidable (coversDuplicate s e)
  | .enqueue toReplicaId bytes => inferInstanceAs (Decidable (∀ pkt ∈ s.outboundQueue, pkt.resdbBytes = bytes →
      pkt.toReplicaId = -1 ∨ pkt.toReplicaId = toReplicaId))
  | .drain _ => isTrue trivial

structure OutboundState.Sound (s : OutboundState) : Prop where
  active : s.active = true
  distinct : (s.outboundQueue.map PendingOutboundPacket.resdbBytes).Nodup
  filled : ∀ pkt ∈ s.outboundQueue, pkt.resdbBytes ≠ []

variable {cfg : OutboundConfig} {s : OutboundState} {toReplicaId : ℤ} {bytes : Bytes} {nonce : ℕ}
  {pkt : PendingOutboundPacket} {m : BFTMessage} {e : OutboundEvent} {events : List OutboundEvent}

lemma enqueueOutbound_cases (h : s.active = true) (hbytes : bytes ≠ []) :
    (enqueueOutbound s toReplicaId bytes = s ∧ ∃ pkt ∈ s.outboundQueue, pkt.resdbBytes = bytes) ∨
      (enqueueOutbound s toReplicaId bytes = { s with outboundQueue := s.outboundQueue ++ [⟨toReplicaId, bytes⟩] } ∧
        ∀ pkt ∈ s.outboundQueue, pkt.resdbBytes ≠ bytes) := by
  obtain ⟨hdeparted, hcrash⟩ := Bool.and_eq_true_iff.mp h
  rw [enqueueOutbound, if_neg hbytes, if_neg (by simpa using hdeparted), if_neg (by simpa using hcrash)]
  by_cases hany : s.outboundQueue.any fun pkt => decide (pkt.resdbBytes = bytes)
  · exact .inl ⟨if_pos hany, by simpa using hany⟩
  · exact .inr ⟨if_neg hany, by simpa using hany⟩

lemma enqueueOutbound_empty : enqueueOutbound s toReplicaId [] = s := if_pos rfl

lemma drainOutboundQueue_sent (h : s.active = true) :
    (drainOutboundQueue cfg nonce s).1 = s.outboundQueue.filterMap (signedMessage cfg nonce) := by
  obtain ⟨-, hcrash⟩ := Bool.and_eq_true_iff.mp h
  rw [drainOutboundQueue, if_neg (by simpa using hcrash)]

lemma OutboundState.Sound.step (h : s.Sound) (e : OutboundEvent) : (outboundStep cfg s e).Sound := by
  cases e with
  | drain nonce => exact ⟨h.active, List.nodup_nil, fun _ hmem => absurd hmem List.not_mem_nil⟩
  | enqueue toReplicaId bytes =>
    rw [outboundStep]
    by_cases hbytes : bytes = []
    · rw [hbytes, enqueueOutbound_empty]
      exact h
    · rcases enqueueOutbound_cases h.active hbytes with ⟨heq, -⟩ | ⟨heq, hnew⟩ <;> rw [heq]
      · exact h
      · refine ⟨h.active, ?_, fun pkt hpkt => ?_⟩
        · rw [List.map_append, List.nodup_append]
          refine ⟨h.distinct, List.nodup_singleton _, fun a ha b hb heq => ?_⟩
          obtain ⟨pkt, hpkt, rfl⟩ := List.mem_map.mp ha
          exact hnew pkt hpkt (heq.trans (List.mem_singleton.mp hb))
        · rcases List.mem_append.mp hpkt with hold | hlast
          · exact h.filled pkt hold
          · rw [List.mem_singleton.mp hlast]
            exact hbytes

lemma OutboundState.Sound.run (h : s.Sound) (events : List OutboundEvent) : (run (outboundStep cfg) s events).Sound :=
  run_invariant (fun _ e hs => hs.step e) events h

section

variable (hsigns : cfg.Signs)
include hsigns

lemma OutboundConfig.Signs.message (h : pkt.resdbBytes ≠ []) : ∃ m, signedMessage cfg nonce pkt = some m ∧
    m.toReplicaId = pkt.toReplicaId ∧
    (unpackSignedPacket m.payload).map SignedPacketView.content = some pkt.resdbBytes ∧
    ∀ replica, cfg.receives replica m =
      if pkt.toReplicaId ≠ -1 ∧ pkt.toReplicaId ≠ replica then none else some pkt.resdbBytes := by
  obtain ⟨sig, hsig⟩ := hsigns.signs nonce _ h
  obtain ⟨hpos, hmax⟩ := hsigns.sized _ _ _ hsig
  have hpacked := @packSignedPacket_some cfg.pubKey _ _ _ h hsig
  have hunpack := @unpackSignedPacket_parts cfg.pubKey pkt.resdbBytes sig hsigns.keyed hpos hmax
  rw [← hpacked] at hunpack
  have hne : packSignedPacket (cfg.sign nonce) cfg.pubKey pkt.resdbBytes ≠ [] := by
    rw [hpacked]
    simp [h]
  refine ⟨⟨cfg.radio.replicaId, pkt.toReplicaId, packSignedPacket (cfg.sign nonce) cfg.pubKey pkt.resdbBytes⟩,
    if_neg hne, rfl, by rw [hunpack]; rfl, fun replica => ?_⟩
  rw [OutboundConfig.receives, hunpack, Option.bind_some, handleResdbConsensusMessage]
  by_cases hfilter : pkt.toReplicaId ≠ -1 ∧ pkt.toReplicaId ≠ replica
  · rw [if_pos hfilter, if_pos hfilter]
  · have hverifies := hsigns.verifies _ _ _ hsig
    rw [if_neg hfilter, if_neg hfilter, if_neg h, if_neg (by simpa using hverifies)]

lemma OutboundConfig.Signs.isCopy (h : pkt.resdbBytes ≠ []) (hm : signedMessage cfg nonce pkt = some m) :
    m.isCopy toReplicaId bytes = true ↔ pkt = ⟨toReplicaId, bytes⟩ := by
  obtain ⟨m', hm', hto, hcontent, -⟩ := @OutboundConfig.Signs.message _ nonce _ hsigns h
  obtain rfl : m = m' := Option.some.inj (hm.symm.trans hm')
  rw [BFTMessage.isCopy, hcontent, hto]
  cases pkt
  simp

lemma copies_drained {queue : List PendingOutboundPacket} (h : ∀ pkt ∈ queue, pkt.resdbBytes ≠ []) :
    (queue.filterMap (signedMessage cfg nonce)).countP (BFTMessage.isCopy toReplicaId bytes) ≤
      queue.count ⟨toReplicaId, bytes⟩ := by
  rw [List.countP_filterMap, List.count]
  refine List.countP_mono_left fun pkt hpkt hcopy => ?_
  obtain ⟨m, hm, -⟩ := @OutboundConfig.Signs.message _ nonce _ hsigns (h pkt hpkt)
  rw [hm] at hcopy
  exact beq_iff_eq.mpr ((hsigns.isCopy (h pkt hpkt) hm).mp hcopy)

lemma copies_step (h : s.Sound) (e : OutboundEvent) :
    (outboundSent cfg s e).countP (BFTMessage.isCopy toReplicaId bytes) +
        (outboundStep cfg s e).outboundQueue.count ⟨toReplicaId, bytes⟩ ≤
      s.outboundQueue.count ⟨toReplicaId, bytes⟩ + [e].count (.enqueue toReplicaId bytes) := by
  cases e with
  | drain nonce =>
    rw [outboundSent, drainOutboundQueue_sent h.active]
    exact (copies_drained hsigns h.filled).trans (Nat.le_add_right _ _)
  | enqueue dest content =>
    rw [outboundSent, outboundStep, List.countP_nil, Nat.zero_add]
    by_cases hbytes : content = []
    · rw [hbytes, enqueueOutbound_empty]
      exact Nat.le_add_right _ _
    · rcases enqueueOutbound_cases h.active hbytes with ⟨heq, -⟩ | ⟨heq, -⟩ <;> rw [heq]
      · exact Nat.le_add_right _ _
      · rw [List.count_append]
        refine Nat.add_le_add_left (le_of_eq ?_) _
        simp [List.count_singleton]

theorem copies_run (h : s.Sound) (events : List OutboundEvent) :
    (collect (outboundStep cfg) (outboundSent cfg) s events).countP (BFTMessage.isCopy toReplicaId bytes) +
        (run (outboundStep cfg) s events).outboundQueue.count ⟨toReplicaId, bytes⟩ ≤
      s.outboundQueue.count ⟨toReplicaId, bytes⟩ + events.count (.enqueue toReplicaId bytes) := by
  induction events generalizing s with
  | nil => simp [collect]
  | cons e events ih =>
    have hrest := ih (@OutboundState.Sound.step cfg _ h e)
    have hfirst := @copies_step _ s toReplicaId bytes hsigns h e
    rw [collect, List.countP_append, run_cons, List.count_cons]
    rw [List.count_singleton] at hfirst
    omega

lemma serves_iff (h : s.Sound) (hpkt : pkt ∈ s.outboundQueue) :
    NextDrainServes cfg s toReplicaId pkt.resdbBytes ↔ pkt.toReplicaId = -1 ∨ pkt.toReplicaId = toReplicaId := by
  have hfilled := h.filled pkt hpkt
  constructor
  · intro hserves
    obtain ⟨m, hm, hall⟩ := hserves 0
    rw [drainOutboundQueue_sent h.active] at hm
    obtain ⟨other, hother, hsent⟩ := List.mem_filterMap.mp hm
    obtain ⟨m', hm', -, -, hreceives⟩ := @OutboundConfig.Signs.message _ 0 _ hsigns (h.filled other hother)
    obtain rfl : m = m' := Option.some.inj (hsent.symm.trans hm')
    by_contra hlost
    obtain ⟨hnot, hne⟩ := not_or.mp hlost
    obtain ⟨replica, hreplica, hother'⟩ : ∃ replica, (toReplicaId = -1 ∨ replica = toReplicaId) ∧
        pkt.toReplicaId ≠ replica := by
      by_cases hto : toReplicaId = -1
      · exact ⟨pkt.toReplicaId + 1, .inl hto, by omega⟩
      · exact ⟨toReplicaId, .inr rfl, hne⟩
    have hgot := hall replica hreplica
    rw [hreceives] at hgot
    split at hgot
    · cases hgot
    · have hself : other = pkt := List.inj_on_of_nodup_map h.distinct hother hpkt (Option.some.inj hgot)
      rename_i hfilter
      exact hfilter (hself ▸ ⟨hnot, hother'⟩)
  · intro hto nonce
    obtain ⟨m, hm, -, -, hreceives⟩ := @OutboundConfig.Signs.message _ nonce _ hsigns hfilled
    refine ⟨m, ?_, fun replica hreplica => ?_⟩
    · rw [drainOutboundQueue_sent h.active]
      exact List.mem_filterMap.mpr ⟨pkt, hpkt, hm⟩
    · rw [hreceives, if_neg]
      rintro ⟨hnot, hne⟩
      rcases hreplica with rfl | rfl
      · exact hto.elim hnot hnot
      · exact hto.elim hnot hne

end

lemma enqueue_waits (h : s.Sound) (hbytes : bytes ≠ []) :
    ∃ pkt ∈ (enqueueOutbound s toReplicaId bytes).outboundQueue, pkt.resdbBytes = bytes ∧
      (coversDuplicate s (.enqueue toReplicaId bytes) ↔ pkt.toReplicaId = -1 ∨ pkt.toReplicaId = toReplicaId) := by
  rcases enqueueOutbound_cases h.active hbytes with ⟨heq, pkt, hpkt, hsame⟩ | ⟨heq, hnew⟩ <;> rw [heq]
  · refine ⟨pkt, hpkt, hsame, fun hcovers => hcovers pkt hpkt hsame, fun hto other hother hbytes' => ?_⟩
    rwa [List.inj_on_of_nodup_map h.distinct hother hpkt (hbytes'.trans hsame.symm)]
  · refine ⟨⟨toReplicaId, bytes⟩, List.mem_append_right _ List.mem_cons_self, rfl, fun _ => .inr rfl, fun _ => ?_⟩
    exact fun other hother hbytes' => absurd hbytes' (hnew other hother)

lemma waits_run (h : s.Sound) (hmid : ∀ e ∈ events, e.isEnqueue = true) (hpkt : pkt ∈ s.outboundQueue) :
    pkt ∈ (run (outboundStep cfg) s events).outboundQueue := by
  induction events generalizing s with
  | nil => exact hpkt
  | cons e events ih =>
    refine ih (h.step e) (fun e' he' => hmid e' (List.mem_cons_of_mem e he')) ?_
    cases e with
    | drain nonce => exact absurd (hmid _ List.mem_cons_self) (by simp [OutboundEvent.isEnqueue])
    | enqueue dest content =>
      rw [outboundStep]
      by_cases hbytes : content = []
      · rwa [hbytes, enqueueOutbound_empty]
      · rcases enqueueOutbound_cases h.active hbytes with ⟨heq, -⟩ | ⟨heq, -⟩ <;> rw [heq]
        · exact hpkt
        · exact List.mem_append_left _ hpkt

theorem losesNoRecipient_iff (cfg : OutboundConfig) (hsigns : cfg.Signs) (s : OutboundState) (hactive : s.active = true)
    (hempty : s.outboundQueue = []) (events : List OutboundEvent) :
    LosesNoRecipient cfg s events ↔ Guarded (outboundStep cfg) coversDuplicate s events := by
  have hsound : s.Sound := by
    refine ⟨hactive, ?_, ?_⟩ <;> rw [hempty]
    · exact List.nodup_nil
    · exact fun _ hmem => absurd hmem List.not_mem_nil
  rw [← forall_step_iff]
  constructor
  · rintro hkept pre (⟨dest, content⟩ | nonce) post hsplit
    · have hpre := @OutboundState.Sound.run cfg s hsound pre
      by_cases hbytes : content = []
      · exact fun pkt hpkt hsame => absurd (hsame.trans hbytes) (hpre.filled pkt hpkt)
      · obtain ⟨pkt, hpkt, hsame, hiff⟩ := @enqueue_waits _ dest _ hpre hbytes
        have hserves := hkept.served pre dest content [] post hsplit hbytes fun _ he => absurd he List.not_mem_nil
        rw [run_append, run_cons, run_nil, ← hsame] at hserves
        have hafter : (outboundStep cfg (run (outboundStep cfg) s pre) (.enqueue dest content)).Sound := hpre.step _
        rw [← hsame] at hafter
        rw [← hsame] at hpkt hiff ⊢
        exact hiff.mpr ((serves_iff hsigns hafter hpkt).mp hserves)
    · trivial
  · refine fun hcovers => ⟨fun pre dest content mid post hsplit hbytes hmid => ?_, fun dest content => ?_⟩
    · have hpre := @OutboundState.Sound.run cfg s hsound pre
      obtain ⟨pkt, hpkt, hsame, hiff⟩ := @enqueue_waits _ dest _ hpre hbytes
      have hafter : (outboundStep cfg (run (outboundStep cfg) s pre) (.enqueue dest content)).Sound := hpre.step _
      have hto := hiff.mp (hcovers pre _ (mid ++ post) hsplit)
      rw [run_append, run_cons, ← hsame]
      rw [← hsame] at hafter hpkt
      exact (serves_iff hsigns (hafter.run mid) (waits_run hafter hmid hpkt)).mpr hto
    · have hcount := @copies_run _ s dest content hsigns hsound events
      rw [hempty, List.count_nil, Nat.zero_add] at hcount
      exact (Nat.le_add_right _ _).trans hcount

def shortSigner : OutboundConfig where
  radio := ⟨0, 4, 1, 2, false, fun _ => none, fun _ _ sig => decide (sig = [7]), id, fun _ => none, fun _ => []⟩
  pubKey := zeros 33
  sign := fun _ _ => some [7]

def idleQueue : OutboundState := ⟨false, false, []⟩

lemma shortSigner_signs : shortSigner.Signs where
  keyed := rfl
  signs := fun _ _ _ => ⟨[7], rfl⟩
  sized := fun _ _ sig h => by
    obtain rfl := Option.some.inj h
    decide
  verifies := fun _ _ sig h => by
    obtain rfl := Option.some.inj h
    rfl

theorem losesNoRecipient_iff_broadcastFirst :
    LosesNoRecipient shortSigner idleQueue [.enqueue (-1) [1, 2], .enqueue 2 [1, 2], .enqueue 3 [5], .drain 0] :=
  (losesNoRecipient_iff shortSigner shortSigner_signs idleQueue rfl rfl _).mpr (by decide)

theorem unicastDuplicate_lost : ¬LosesNoRecipient shortSigner idleQueue [.enqueue 1 [1, 2], .enqueue 2 [1, 2]] := by
  intro hkept
  obtain ⟨m, hm, hserves⟩ := hkept.served [.enqueue 1 [1, 2]] 2 [1, 2] [] [] rfl (by decide)
    (fun _ he => absurd he List.not_mem_nil) 0
  have hsent : (drainOutboundQueue shortSigner 0 (run (outboundStep shortSigner) idleQueue
      ([.enqueue 1 [1, 2]] ++ [.enqueue 2 [1, 2]]))).1 = [⟨0, 1, zeros 33 ++ [1, 7, 1, 2]⟩] := by decide
  rw [hsent, List.mem_singleton] at hm
  subst hm
  exact absurd (hserves 2 (.inr rfl)) (by decide)

end V2vBft.Engine
