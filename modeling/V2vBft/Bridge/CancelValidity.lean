import V2vBft.Bridge.CancelProposal
import V2vBft.Bridge.OrderQuorum
import V2vBft.App.WitnessFacts

namespace V2vBft.Bridge

open Wire Pbft App

variable {env : BridgeEnv} {s s' : ConsensusState} {ctx : WitnessContext} {request : Request} {view : ProposalView}

structure AcceptsCancel (env : BridgeEnv) (s : ConsensusState) (request : Request) (view : ProposalView)
    (s' : ConsensusState) : Prop where
  type : request.type = .prePrepare ∨ request.type = .newTxns
  payload : ∃ payload rest, request.data = .batch (payload :: rest) ∧ unwrapRollbackIfPresent payload = some view
  cancel : view.isCancel = true
  accepted : preVerify env s request = (true, s')

structure CancelJustified (ctx : WitnessContext) (view : ProposalView) (cert : CancelCert) : Prop where
  parses : deserializeCancelCert (cancelJustification view) = some cert
  valid : validateCancelCert ctx cert = true
  epoch : cert.cancelledEpoch = view.cancel.cancelledEpoch
  reason : cert.reason = view.cancel.reason
  electors : view.cancelElectors.toFinset = ctx.committedOrderVehicleIds.toFinset

def CancelAdmitted (env : BridgeEnv) : Prop :=
  faultModeActive env.faults = true ∧ 3 * env.faults.toleratedF + 1 ≤ env.expected ∧
    3 * env.faults.toleratedF + 1 ≤ 10000

lemma AcceptsCancel.built (h : AcceptsCancel env s request view s') :
    ∃ forced, buildCancelViewCandidate view env.expected env.faults request = some forced := by
  obtain ⟨payload, rest, hdata, hunwrap⟩ := h.payload
  have hacc := h.accepted
  have htype : ¬(request.type ≠ .prePrepare ∧ request.type ≠ .newTxns) := by
    rcases h.type with ht | ht <;> simp [ht]
  simp only [preVerify, if_neg htype, hdata, preVerifyPayload, hunwrap, h.cancel, if_true, preVerifyCancel] at hacc
  split at hacc
  next =>
    cases hb : buildCancelViewCandidate view env.expected env.faults request with
    | none => simp [hb] at hacc
    | some forced => exact ⟨forced, rfl⟩
  next => exact absurd hacc (by simp)

lemma parseCancelTail_count {raw : Bytes} {off len : ℕ} {leader : ℤ} {electors : List ℤ}
    (h : parseCancelTail raw off len = some (leader, electors)) : electors.length ≤ 10000 := by
  unfold parseCancelTail at h
  dsimp only at h
  split at h
  next => exact absurd h (by simp)
  next =>
    split at h
    next => exact absurd h (by simp)
    next hcount =>
      obtain ⟨-, rfl⟩ := Prod.mk.inj (Option.some.inj h)
      simp only [readElectors, List.length_map, List.length_range]
      omega

lemma looksLikeCancelProposal_electors (raw : Bytes) :
    (looksLikeCancelProposal raw (ProposalView.initial raw)).2.cancelElectors.length ≤ 10000 := by
  unfold looksLikeCancelProposal
  dsimp only
  split
  next =>
    split
    next => simp [ProposalView.initial]
    next leader electors htail => exact parseCancelTail_count htail
  next => simp [ProposalView.initial]

lemma unwrapRollbackIfPresent_electors {raw : Bytes} (h : unwrapRollbackIfPresent raw = some view) :
    view.cancelElectors.length ≤ 10000 := by
  have hlooks := looksLikeCancelProposal_electors raw
  unfold unwrapRollbackIfPresent at h
  split at h
  next v hv =>
    obtain rfl := Option.some.inj h
    rwa [hv] at hlooks
  next v hv =>
    rw [hv] at hlooks
    split at h
    next =>
      obtain rfl := Option.some.inj h
      exact hlooks
    next =>
      obtain ⟨-, -, rfl⟩ := Option.map_eq_some_iff.mp h
      exact hlooks

lemma nodup_inRange_length {members : List ℤ} {expected : ℤ} (hnodup : members.Nodup)
    (hrange : ∀ e ∈ members, 0 ≤ e ∧ e < expected) (hne : members ≠ []) : (members.length : ℤ) ≤ expected := by
  have hsub : members.toFinset ⊆ Finset.Ico 0 expected := by
    intro e he
    exact Finset.mem_Ico.mpr (hrange e (List.mem_toFinset.mp he))
  have hcard := Finset.card_le_card hsub
  rw [List.toFinset_card_of_nodup hnodup, Int.card_Ico] at hcard
  obtain ⟨e, he⟩ := List.exists_mem_of_ne_nil _ hne
  have hpos := hrange e he
  omega

lemma AcceptsCancel.admitted (h : AcceptsCancel env s request view s') : CancelAdmitted env := by
  obtain ⟨forced, hforced⟩ := h.built
  obtain ⟨payload, rest, hdata, hunwrap⟩ := h.payload
  have hcount := unwrapRollbackIfPresent_electors hunwrap
  unfold buildCancelViewCandidate at hforced
  dsimp only at hforced
  split at hforced
  next hcond =>
    simp only [Bool.and_eq_true, decide_eq_true_eq, List.all_eq_true, inRange] at hcond
    obtain ⟨⟨⟨⟨⟨⟨⟨⟨⟨-, hactive⟩, -⟩, -⟩, hnodup⟩, hrange⟩, hleader⟩, hmin⟩, -⟩, -⟩ := hcond
    have hlen := nodup_inRange_length hnodup hrange (List.ne_nil_of_mem hleader)
    have hsort : (sortIds view.cancelElectors).length = view.cancelElectors.length := List.length_insertionSort ..
    refine ⟨hactive, hmin.trans hlen, ?_⟩
    omega
  next => exact absurd hforced (by simp)

-- a certificate of another epoch than the header's, with one signer and no key or signature
def bareCert : Bytes := ascii "CANCEL_CERT|1|0|x|0:"

def firstIds (n : ℕ) : List ℤ := (List.range n).map fun (i : ℕ) => (i : ℤ)

def bareCancelRequest (seq n : ℕ) : Request where
  type := .prePrepare
  seq := seq
  currentView := 1
  senderId := 1
  hash := ascii "omnet-tx-0"
  data := .batch [cancelPayload 0 0 bareCert 0 (firstIds n)]
  isRecovery := false
  forceRecovery := false

def bareCancelView (n : ℕ) : ProposalView :=
  { ProposalView.initial (cancelPayload 0 0 bareCert 0 (firstIds n)) with
    kind := .cancel
    cancel := ⟨0, 0, bareCert.length⟩
    cancelLeaderId := 0
    cancelElectors := firstIds n }

lemma mem_firstIds {n : ℕ} {e : ℤ} : e ∈ firstIds n ↔ 0 ≤ e ∧ e < n := by
  simp only [firstIds, List.mem_map, List.mem_range]
  refine ⟨?_, fun ⟨h0, hn⟩ => ⟨e.toNat, by omega, by omega⟩⟩
  rintro ⟨i, hi, rfl⟩
  omega

lemma firstIds_nodup (n : ℕ) : (firstIds n).Nodup := List.nodup_range.map Nat.cast_injective

@[simp] lemma firstIds_length (n : ℕ) : (firstIds n).length = n := by simp [firstIds]

lemma bareCancel_fields {n : ℕ} (hn : n ≤ 10000) : CancelFields 0 0 bareCert 0 (firstIds n) where
  epochFits := by norm_num
  reasonFits := by norm_num
  tagged := by decide +kernel
  lengthFits := by decide +kernel
  leaderFits := by norm_num
  countFits := by simpa using hn
  electorsFit := by
    intro e he
    have := mem_firstIds.mp he
    omega
  notRollback := by simp

lemma bareCancelView_isCancel (n : ℕ) : (bareCancelView n).isCancel = true := decide_eq_true rfl

lemma cancelJustification_bare (n : ℕ) : cancelJustification (bareCancelView n) = bareCert := by
  have hslice := slice_append_right (CancelHdr.mk 0 0 bareCert.length).bytes
    (bareCert ++ (putI32 0 ++ (putU32 (firstIds n).length ++ (firstIds n).flatMap putI32))) 0 bareCert.length
  rw [slice_append_left, CancelHdr.bytes_length, Nat.add_zero] at hslice
  exact hslice

lemma check13_bare (n : ℕ) (hn : 0 < n) : check13ValidCancelProposal (bareCancelView n) = true := by
  have hsigners : check13Signers bareCert = [ascii "0"] := by decide +kernel
  have hsize : CancelHdr.size + bareCert.length ≤ (cancelPayload 0 0 bareCert 0 (firstIds n)).length := by
    simp [cancelPayload, CancelHdr.bytes_length]
  have htag : cancelCertTag.isPrefixOf bareCert = true := by decide +kernel
  have hlen : bareCert.length ≠ 0 := by decide +kernel
  have hne : firstIds n ≠ [] := List.ne_nil_of_mem (mem_firstIds.mpr ⟨le_refl (0 : ℤ), by omega⟩)
  unfold check13ValidCancelProposal
  rw [cancelJustification_bare, hsigners]
  simp only [Bool.and_eq_true, decide_eq_true_eq, Bool.not_eq_true', List.isEmpty_eq_false_iff]
  exact ⟨⟨⟨⟨⟨⟨⟨bareCancelView_isCancel n, Nat.zero_le 1⟩, hlen⟩, hsize⟩, htag⟩, by simp⟩, le_refl (0 : ℤ)⟩, hne⟩

lemma sortIds_firstIds_perm (n : ℕ) : (sortIds (firstIds n)).Perm (firstIds n) := List.perm_insertionSort ..

lemma build_bare {n : ℕ} (seq : ℕ) (hactive : faultModeActive env.faults = true)
    (hn : (n : ℤ) = 3 * env.faults.toleratedF + 1) (hexp : (n : ℤ) ≤ env.expected) :
    buildCancelViewCandidate (bareCancelView n) env.expected env.faults (bareCancelRequest seq n) =
      some (candidateView (bareCancelRequest seq n) 0 0 (sortIds (firstIds n)) true env.faults.toleratedF) := by
  have hf : 0 ≤ env.faults.toleratedF := by
    simp only [faultModeActive, Bool.and_eq_true, decide_eq_true_eq] at hactive
    exact hactive.2
  have hperm := sortIds_firstIds_perm n
  have hlen : (sortIds (firstIds n)).length = n := by rw [hperm.length_eq, firstIds_length]
  have hzero : (0 : ℤ) ∈ sortIds (firstIds n) := hperm.mem_iff.mpr (mem_firstIds.mpr ⟨le_refl _, by omega⟩)
  have hne : firstIds n ≠ [] := List.ne_nil_of_mem (hperm.mem_iff.mp hzero)
  have hrange : ∀ e ∈ sortIds (firstIds n), inRange env.expected e = true := by
    intro e he
    have := mem_firstIds.mp (hperm.mem_iff.mp he)
    simp only [inRange, Bool.and_eq_true, decide_eq_true_eq]
    omega
  have hleader : inRange env.expected (0 : ℤ) = true := hrange 0 hzero
  have hquorum := bftQuorumSize_isSome hf (n := n) hn.ge
  unfold buildCancelViewCandidate
  refine if_pos ?_
  have hnodup := hperm.nodup_iff.mpr (firstIds_nodup n)
  have hkind := bareCancelView_isCancel n
  simp only [bareCancelView] at hkind ⊢
  simp only [hkind, hlen, hactive, hleader, hquorum, Bool.true_and, Bool.and_eq_true, decide_eq_true_eq,
    Bool.not_eq_true', List.isEmpty_eq_false_iff, List.all_eq_true]
  exact ⟨⟨⟨⟨⟨⟨hne, decide_eq_true hnodup⟩, hrange⟩, decide_eq_true hzero⟩, hn.ge⟩, trivial⟩,
    by simp [senderIsLeader, bareCancelRequest, resdbSenderToOmnet]⟩

def nextFreeSeq (reg : Registry) : ℕ := (reg.views.map OmnetForcedView.seq).foldr max 0 + 1

lemma seq_lt_nextFreeSeq {reg : Registry} {v : OmnetForcedView} (hv : v ∈ reg.views) : v.seq < nextFreeSeq reg := by
  have hmax := List.le_max_of_le' 0 (List.mem_map_of_mem (f := OmnetForcedView.seq) hv) le_rfl
  unfold nextFreeSeq
  omega

lemma installForRequest_fresh (reg : Registry) {candidate n : OmnetForcedView} (hhash : request.hash ≠ [])
    (hn : candidate.normalize = some n) (hfresh : ∀ v ∈ reg.views, v.seq < request.seq) :
    (reg.installForRequest request candidate).isSome = true := by
  have hfind : reg.views.find? (fun v => v.sameKey { n with seq := request.seq, requestHash := request.hash }) =
      none := by
    refine List.find?_eq_none.mpr fun v hv => ?_
    have hlt := hfresh v hv
    simp only [OmnetForcedView.sameKey, Bool.and_eq_true, decide_eq_true_eq, not_and]
    omega
  unfold Registry.installForRequest
  rw [if_neg hhash]
  simp only [hn, hfind, Option.isSome_some]

lemma preVerify_cancel {payload : Bytes} {rest : List Bytes} {forced : OmnetForcedView}
    (htype : request.type = .prePrepare) (hdata : request.data = .batch (payload :: rest))
    (hview : unwrapRollbackIfPresent payload = some view) (hkind : view.isCancel = true)
    (hcheck : check13ValidCancelProposal view = true)
    (hbuild : buildCancelViewCandidate view env.expected env.faults request = some forced)
    (hinstall : s.installOmnetForcedViewForRequest request forced = some s') :
    preVerify env s request = (true, s') := by
  simp [preVerify, htype, hdata, preVerifyPayload, hview, hkind, preVerifyCancel, hcheck, hbuild, installView, hinstall,
    orDrop]

lemma acceptsCancel_bare (s : ConsensusState) (h : CancelAdmitted env) :
    ∃ seq n s', AcceptsCancel env s (bareCancelRequest seq n) (bareCancelView n) s' := by
  obtain ⟨hactive, hexp, hcap⟩ := h
  have hf : 0 ≤ env.faults.toleratedF := by
    simp only [faultModeActive, Bool.and_eq_true, decide_eq_true_eq] at hactive
    exact hactive.2
  obtain ⟨n, hn⟩ := Int.eq_ofNat_of_zero_le (show 0 ≤ 3 * env.faults.toleratedF + 1 by omega)
  have hfields := bareCancel_fields (n := n) (by omega)
  have hbuild := build_bare (n := n) (nextFreeSeq s.registry) hactive hn.symm (by omega)
  set request := bareCancelRequest (nextFreeSeq s.registry) n with hrequest
  set candidate := candidateView request 0 0 (sortIds (firstIds n)) true env.faults.toleratedF with hcand
  have hnorm : ∃ v, candidate.normalize = some v := by
    have hids : (candidate.activeOmnetIds.insertionSort (· ≤ ·)).dedup.length = n := by
      have hperm : (candidate.activeOmnetIds.insertionSort (· ≤ ·)).Perm (firstIds n) :=
        (List.perm_insertionSort ..).trans (sortIds_firstIds_perm n)
      rw [(hperm.nodup_iff.mpr (firstIds_nodup n)).dedup, hperm.length_eq, firstIds_length]
    have hquorum := bftQuorumSize_isSome hf (n := n) (by omega)
    obtain ⟨q, hq⟩ := Option.isSome_iff_exists.mp hquorum
    unfold OmnetForcedView.normalize
    simp only [hids, Option.map_eq_some_iff]
    exact ⟨_, q, hq, rfl⟩
  obtain ⟨v, hv⟩ := hnorm
  have hinstall : (s.installOmnetForcedViewForRequest request candidate).isSome = true := by
    have hhash : request.hash ≠ [] := show ascii "omnet-tx-0" ≠ [] by decide +kernel
    have hreg := installForRequest_fresh s.registry hhash hv fun w hw => seq_lt_nextFreeSeq hw
    simpa [ConsensusState.installOmnetForcedViewForRequest] using hreg
  obtain ⟨s', hs'⟩ := Option.isSome_iff_exists.mp hinstall
  have hview := unwrap_cancelPayload hfields
  have hkind := bareCancelView_isCancel n
  exact ⟨nextFreeSeq s.registry, n, s', Or.inl rfl, ⟨_, [], rfl, hview⟩, hkind,
    preVerify_cancel rfl rfl hview hkind (check13_bare n (by omega)) hbuild hs'⟩

lemma bare_not_justified (n : ℕ) (cert : CancelCert) : ¬CancelJustified ctx (bareCancelView n) cert := by
  intro h
  have hparse := h.parses
  rw [cancelJustification_bare] at hparse
  have hepoch : (deserializeCancelCert bareCert).map CancelCert.cancelledEpoch = some 1 := by decide +kernel
  rw [hparse, Option.map_some, h.epoch] at hepoch
  exact absurd (show 0 = 1 from Option.some.inj hepoch) Nat.zero_ne_one

-- the bridge validates no certificate: what it accepts is justified only where it can accept no CANCEL at all
theorem cancelJustified_iff_none_admitted (env : BridgeEnv) (s : ConsensusState) (ctx : WitnessContext) :
    (∀ request view s', AcceptsCancel env s request view s' → ∃ cert, CancelJustified ctx view cert) ↔
      ¬CancelAdmitted env := by
  refine ⟨fun hall hadm => ?_, fun hnone request view s' hacc => absurd hacc.admitted hnone⟩
  obtain ⟨seq, n, s', hacc⟩ := acceptsCancel_bare s hadm
  obtain ⟨cert, hcert⟩ := hall _ _ _ hacc
  exact bare_not_justified n cert hcert

def fourCarEnv : BridgeEnv where
  expected := 4
  faults := ⟨true, 1, false⟩
  certSnapshot := none
  clearEvidence := none
  crashRecoveryEpochs := []

theorem bareCancel_accepted_unjustified :
    AcceptsCancel fourCarEnv ⟨.empty, ⟨1, 1⟩⟩ (bareCancelRequest 5 4) (bareCancelView 4)
        (preVerify fourCarEnv ⟨.empty, ⟨1, 1⟩⟩ (bareCancelRequest 5 4)).2 ∧
      ∀ ctx cert, ¬CancelJustified ctx (bareCancelView 4) cert :=
  ⟨⟨Or.inl rfl, ⟨_, [], rfl, by decide +kernel⟩, by decide +kernel, by decide +kernel⟩,
    fun _ cert => bare_not_justified 4 cert⟩

end V2vBft.Bridge
