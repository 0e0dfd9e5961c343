import V2vBft.Rollback.OrderEvidence
import V2vBft.App.ClearGate
import V2vBft.Arrival.CrashDetector
import V2vBft.Bridge.ProposalRoundTrip

/-! The proposer's CLEAR trailer against the bridge's evidence check at a follower with the same committed history. -/

namespace V2vBft.Rollback

open Wire App Arrival Bridge Library.GuardedRun

variable {cfg : RollbackConfig} {s s' : RollbackState} {registry : IncidentRegistry} {c : OrderCandidate}

def rejectsForEvidence (env : BridgeEnv) (payload : Bytes) : Bool :=
  match unwrapRollbackIfPresent payload with
  | none => false
  | some view =>
    !view.isCancel && !view.isRollback && requiresEvidence env (orderHdr view) &&
      !evidenceOk env view.data (orderHdr view)

lemma rejected_of_evidence {env : BridgeEnv} {payload : Bytes} {payloads : List Bytes} {request : Pbft.Request}
    (h : rejectsForEvidence env payload = true) (htype : request.type = .prePrepare ∨ request.type = .newTxns)
    (hdata : request.data = .batch (payload :: payloads)) (consensus : Pbft.ConsensusState) :
    (preVerify env consensus request).1 = false := by
  have hchecked : ¬(request.type ≠ .prePrepare ∧ request.type ≠ .newTxns) := fun hother =>
    htype.elim hother.1 hother.2
  rw [rejectsForEvidence] at h
  rw [preVerify, if_neg hchecked, hdata]
  dsimp only
  rw [preVerifyPayload]
  cases hview : unwrapRollbackIfPresent payload with
  | none => rfl
  | some view =>
    rw [hview] at h
    simp only [Bool.and_eq_true, Bool.not_eq_true', orderHdr] at h
    obtain ⟨⟨⟨hcancel, hrollback⟩, hrequires⟩, hevidence⟩ := h
    simp [hcancel, orderAdmissible, hrollback, hrequires, hevidence]

def crashCancelled (s : RollbackState) (epoch : ℕ) : Bool :=
  s.app.committedCancels.any fun c => decide (c.1 = epoch) &&
    decide ((CancelDecisionHdr.read c.2.attestation).reason = 0)

-- the follower has the proposer's committed view, and its executor marked epochs for committed crash CANCELs only
structure SameHistory (cfg : RollbackConfig) (s : RollbackState) (acfg : AppConfig) (r : Replica) : Prop where
  view : r.app.witnessContext acfg = s.app.witnessContext cfg.toAppConfig
  marks : ∀ epoch ∈ r.crashRecoveryEpochs, crashCancelled s (prevEpoch epoch) = true

def EvidenceAgreed (cfg : RollbackConfig) (s : RollbackState) (engine : EngineAnswer) (cars : AmbulanceCars) : Prop :=
  ∀ c, submitted cfg s engine cars = some c → s.recovery = true →
    ∀ (acfg : AppConfig) (r : Replica) (inp : VerifyInput) (time : ℕ) (entries : List VehicleEntry),
      SameHistory cfg s acfg r →
      (orderPayload c.epoch cfg.replicaId time entries c.clearCerts).length < uint32Modulus →
        rejectsForEvidence (r.bridgeEnv acfg inp) (orderPayload c.epoch cfg.replicaId time entries c.clearCerts) = false

def accepts (cfg : RollbackConfig) (s : RollbackState) (epoch : ℕ) (clearCertBytes : Bytes) : Bool :=
  clearEvidenceCallback (s.app.witnessContext cfg.toAppConfig) true epoch clearCertBytes

def backsClears (cfg : RollbackConfig) (s : RollbackState) (epoch : ℕ) : Bool :=
  s.incidentRegistry.all fun entry =>
    !(decide (entry.1.cancelledEpoch = epoch) && entry.2.cleared) || accepts cfg s epoch entry.2.clearCertBytes

def clearsInHand (s : RollbackState) : ℕ :=
  match frozen s with
  | some c => c.clearCerts.length
  | none => (s.incidentRegistry.filter fun entry => decide (entry.1.cancelledEpoch = s.app.cancelledEpoch)).length

def formedWell : EvidenceEvent → Bool
  | .clearCertFormed cert => decide cert.Formed && !cert.echoes.isEmpty
  | _ => true

-- the recovery stays with its CANCEL and with the view that the certificates were checked in, and a candidate for a
-- crash is frozen when an incident of the cancelled epoch is known
def evidenced (cfg : RollbackConfig) (s : RollbackState) : OrderEvent → Bool
  | .evidence ev _ =>
    !(s.recovery && (broughtCerts ev).any (justifies cfg s)) &&
      ((takenCancel cfg s ev).all fun dec => backsClears cfg s (CancelDecisionHdr.read dec).cancelledEpoch) &&
      ((takenOrder s ev).all fun order => !s.recovery || decide (order.epoch = s.app.rollbackNewEpoch)) && formedWell ev
  | .discovery _ _ _ _ _ => true
  | .orderReadiness _ _ =>
    !(s.recovery && crashCancelled s s.app.cancelledEpoch) ||
      (decide (0 < clearsInHand s) && decide (clearsInHand s < 65536))

structure Justified (cfg : RollbackConfig) (s : RollbackState) : Prop where
  bounded : s.app.currentEpoch < uint32Modulus
  cancelled : s.recovery = true → s.app.cancelledEpoch = prevEpoch s.app.currentEpoch
  clears : s.recovery = true → EachClear (fun incident clearCertBytes =>
    incident.cancelledEpoch = s.app.cancelledEpoch → accepts cfg s s.app.cancelledEpoch clearCertBytes = true)
      s.incidentRegistry
  candidate : ∀ c, frozen s = some c → ∀ clearCertBytes ∈ c.clearCerts,
    accepts cfg s s.app.cancelledEpoch clearCertBytes = true

lemma justified_initial : Justified cfg .initial where
  bounded := by decide
  cancelled := fun h => absurd h (by decide)
  clears := fun h => absurd h (by decide)
  candidate := fun c h => absurd (frozen_some.mp h).1 (by simp [RollbackState.initial])

lemma accepts_congr (h : s'.app.committedOrderVehicleIds = s.app.committedOrderVehicleIds) (epoch : ℕ)
    (clearCertBytes : Bytes) : accepts cfg s' epoch clearCertBytes = accepts cfg s epoch clearCertBytes := by
  rw [accepts, accepts, AppState.witnessContext, AppState.witnessContext, h]

lemma accepts_parsed {cert : ClearCert} {clearCertBytes : Bytes} (hparse : deserializeClearCert clearCertBytes = some cert)
    (hechoes : cert.echoes.isEmpty = false) (hvalid : validateClearCert (s.app.witnessContext cfg.toAppConfig) cert = true) :
    accepts cfg s cert.cancelledEpoch clearCertBytes = true := by
  rw [accepts, clearEvidenceCallback, if_neg (clearBytes_ne_nil hparse hechoes), hparse]
  dsimp only
  rw [if_neg (by simp), if_neg (by simp), if_neg (by simpa using hechoes)]
  exact hvalid

lemma evidence_accepted {ev : EvidenceEvent} (hformed : formedWell ev = true)
    (horder : ∀ completed sense, ev = .order completed sense → trailerEvidence cfg s completed = [])
    {e : Evidence} (h : e ∈ evidence cfg s ev) :
    e.Clears fun incident clearCertBytes => accepts cfg s incident.cancelledEpoch clearCertBytes = true := by
  cases ev with
  | rollback ev plain => exact rollbackEvidence_clears h
  | order completed sense =>
    rw [evidence, horder completed sense rfl] at h
    exact absurd h List.not_mem_nil
  | clearCert carrier packet =>
    rw [evidence] at h
    split at h
    · obtain ⟨⟨cert, clearCertBytes⟩, hcarried, rfl⟩ := List.mem_map.mp h
      obtain ⟨hparse, hechoes, hvalid⟩ := carriedClear_valid (Option.mem_toList.mp hcarried)
      exact accepts_parsed hparse hechoes hvalid
    · exact absurd h List.not_mem_nil
  | clearCertFormed cert =>
    rw [evidence] at h
    split at h
    next hvalid =>
      obtain rfl := List.mem_singleton.mp h
      rw [formedWell, Bool.and_eq_true, decide_eq_true_eq, Bool.not_eq_true'] at hformed
      exact accepts_parsed (deserialize_serializeClearCert hformed.1) hformed.2 hvalid
    · exact absurd h List.not_mem_nil

lemma view_of_kept {order : Option OrderDecision} (hkept : Kept order s s') (hrec : s'.recovery = true)
    (hguard : order.all (fun o => !s.recovery || decide (o.epoch = s.app.rollbackNewEpoch)) = true) :
    s'.app.committedOrderVehicleIds = s.app.committedOrderVehicleIds := by
  rcases hkept.view with hsame | ⟨o, rfl, hother⟩
  · exact hsame
  · rw [Option.all_some, hkept.recovery hrec, Bool.not_true, Bool.false_or, decide_eq_true_eq] at hguard
    exact absurd hguard (hother hrec)

lemma noTrailer_of_recovery {completed : Bool} {sense : Sense}
    (hrec : ((processTrailedOrder cfg s completed sense).getD s).recovery = true) (hwas : s.recovery = true)
    (hguard : ((admitted s completed).map Prod.snd).all
      (fun o => !s.recovery || decide (o.epoch = s.app.rollbackNewEpoch)) = true) :
    trailerEvidence cfg s completed = [] := by
  rw [processTrailedOrder] at hrec
  rw [trailerEvidence]
  cases hadmitted : admitted s completed with
  | none => rfl
  | some taken =>
    obtain ⟨dec, order⟩ := taken
    rw [hadmitted] at hrec
    dsimp only at hrec ⊢
    cases hparse : parsedCerts (decisionClearCerts dec) with
    | none => rfl
    | some certs =>
      rw [hadmitted, Option.map_some, Option.all_some, hwas, Bool.not_true, Bool.false_or, decide_eq_true_eq] at hguard
      rw [hparse, Option.map_some, Option.getD_some, processOrder] at hrec
      rw [admitted] at hadmitted
      split at hadmitted
      · exact absurd hadmitted (by simp)
      next first rest hqueue =>
        split at hadmitted
        · exact absurd hadmitted (by simp)
        next hcancel =>
          obtain ⟨o, ho, hpair⟩ := Option.map_eq_some_iff.mp hadmitted
          obtain ⟨rfl, rfl⟩ := Prod.mk.inj hpair
          rw [hqueue] at hrec
          dsimp only at hrec
          rw [if_neg hcancel, ho] at hrec
          exact absurd hguard (applyOrder_recovery hrec).2

lemma noEvidence_of_cancel {ev : EvidenceEvent} {dec : Bytes} (h : takenCancel cfg s ev = some dec) :
    evidence cfg s ev = [] := by
  cases ev with
  | order completed sense =>
    obtain ⟨hhead, hcancel⟩ := Option.filter_eq_some_iff.mp h
    rw [evidence, trailerEvidence, admitted]
    cases hqueue : s.app.pendingOrders with
    | nil => rfl
    | cons first rest =>
      rw [hqueue, List.head?_cons, Option.some.injEq] at hhead
      rw [hhead]
      dsimp only
      rw [hcancel]
      rfl
  | clearCert _ _ | clearCertFormed _ => exact absurd h (by simp [takenCancel])
  | rollback ev plain =>
    cases ev with
    | cancelCommitGossip senderId inner sense => rfl
    | _ => exact absurd h (by simp [takenCancel])

lemma frozen_congr (h : s'.footing = s.footing) : frozen s' = frozen s := by
  have hcandidate : s'.orderCandidate = s.orderCandidate := congrArg Footing.candidate h
  have hepoch : s'.app.currentEpoch = s.app.currentEpoch := congrArg Footing.epoch h
  have hdeparted : s'.departed = s.departed := congrArg Footing.departed h
  rw [frozen, frozen, hcandidate, hepoch, hdeparted, recovery_of_footing h]

lemma Justified.congr (h : Justified cfg s) (hfooting : s'.footing = s.footing) (hgrip : s'.grip = s.grip)
    (hregistry : s'.incidentRegistry = s.incidentRegistry) : Justified cfg s' := by
  have hview : s'.app.committedOrderVehicleIds = s.app.committedOrderVehicleIds := congrArg Footing.view hfooting
  have hepoch : s'.app.currentEpoch = s.app.currentEpoch := congrArg Footing.epoch hfooting
  have hcancelled : s'.app.cancelledEpoch = s.app.cancelledEpoch := congrArg Prod.fst hgrip
  have hrec := recovery_of_footing hfooting
  refine ⟨hepoch ▸ h.bounded, ?_, ?_, ?_⟩
  · rw [hrec, hcancelled, hepoch]
    exact h.cancelled
  · rw [hrec, hcancelled, hregistry]
    simp only [accepts_congr hview]
    exact h.clears
  · rw [frozen_congr hfooting, hcancelled]
    simp only [accepts_congr hview]
    exact h.candidate

lemma Justified.evidence (h : Justified cfg s) {ev : EvidenceEvent} {other : movesCandidate ev = false}
    (hok : evidenced cfg s (.evidence ev other) = true) : Justified cfg (evidenceStep cfg s ev) := by
  simp only [evidenced, Bool.and_eq_true, Bool.not_eq_true'] at hok
  obtain ⟨⟨⟨hjustified, hcancel⟩, horder⟩, hformed⟩ := hok
  have hquiet : s.recovery = true → (broughtCerts ev).any (justifies cfg s) = false := fun hrec => by
    rwa [hrec, Bool.true_and] at hjustified
  have hregistry := @evidenceStep_registry cfg s ev
  rcases evidenceStep_kept other hquiet with hkept | ⟨dec, htaken, hbegun⟩
  · have hgrip : (evidenceStep cfg s ev).recovery = true →
        (evidenceStep cfg s ev).app.cancelledEpoch = s.app.cancelledEpoch := fun hrec =>
      congrArg Prod.fst (hkept.grip hrec)
    refine ⟨hkept.epoch ▸ h.bounded, fun hrec => ?_, fun hrec => ?_, fun c hc => ?_⟩
    · rw [hgrip hrec, hkept.epoch]
      exact h.cancelled (hkept.recovery hrec)
    · have hwas := hkept.recovery hrec
      rw [hregistry, hgrip hrec]
      simp only [accepts_congr (view_of_kept hkept hrec horder)]
      refine eachClear_foldl (h.clears hwas) fun e he => ?_
      have hnew := evidence_accepted hformed (fun completed sense hev => ?_) he
      · cases e with
        | blocked _ => trivial
        | clear incident clearCertBytes =>
          intro hepoch
          rw [← hepoch]
          exact hnew
      · subst hev
        exact noTrailer_of_recovery hrec hwas horder
    · obtain ⟨hcandidate, hepoch, hrec, hdeparted⟩ := frozen_some.mp hc
      rw [hgrip hrec]
      simp only [accepts_congr (view_of_kept hkept hrec horder)]
      refine h.candidate c (frozen_some.mpr ⟨?_, hepoch.trans hkept.epoch, hkept.recovery hrec, hkept.departed hdeparted⟩)
      rcases hkept.candidate with hnone | hsame
      · exact absurd (hcandidate.symm.trans hnone) (by simp)
      · exact hsame.symm.trans hcandidate
  · have hsame : (evidenceStep cfg s ev).incidentRegistry = s.incidentRegistry := by
      rw [hregistry, noEvidence_of_cancel htaken]
      rfl
    rw [htaken, Option.all_some, backsClears, List.all_eq_true] at hcancel
    refine ⟨?_, fun _ => hbegun.prevEpoch, fun _ => ?_, fun c hc => ?_⟩
    · rw [hbegun.epoch]
      exact Nat.mod_lt _ (by decide)
    · rw [hsame, hbegun.cancelled]
      simp only [accepts_congr hbegun.view]
      intro entry hentry hcleared hepoch
      have hback := hcancel entry hentry
      rw [hcleared, hepoch, decide_eq_true rfl] at hback
      simpa using hback
    · exact absurd ((frozen_some.mp hc).1.symm.trans hbegun.candidate) (by simp)

lemma Justified.discovery (h : Justified cfg s) (round : DiscoveryRound) (stores : DiscoveryStores)
    (deadline settle announcement : Bool) :
    Justified cfg (discoveryStep s round stores deadline settle announcement) := by
  rw [discoveryStep]
  split
  next =>
    refine ⟨h.bounded, h.cancelled, h.clears, fun c hc => ?_⟩
    exact absurd (frozen_some.mp hc).1 (by simp [RollbackState.resetOrderCandidate])
  next => exact ⟨h.bounded, h.cancelled, h.clears, h.candidate⟩

lemma Justified.built (h : Justified cfg s) (hrec : s.recovery = true) {clearCertBytes : Bytes}
    (hmem : clearCertBytes ∈ (buildOrderCandidate cfg s).clearCerts) :
    accepts cfg s s.app.cancelledEpoch clearCertBytes = true := by
  rw [buildOrderCandidate, hrec, if_pos rfl, registeredClears] at hmem
  obtain ⟨entry, hentry, rfl⟩ := List.mem_map.mp hmem
  obtain ⟨hknown, hfilter⟩ := List.mem_filter.mp ((List.perm_insertionSort _ _).mem_iff.mp hentry)
  simp only [Bool.and_eq_true, decide_eq_true_eq] at hfilter
  exact h.clears hrec entry hknown hfilter.1.2 hfilter.1.1

lemma Justified.frozenClears (h : Justified cfg s) (hgate : readinessGate s = none) (hrec : s.recovery = true)
    {clearCertBytes : Bytes} (hmem : clearCertBytes ∈ (frozenCandidate cfg s).clearCerts) :
    accepts cfg s s.app.cancelledEpoch clearCertBytes = true := by
  rw [frozenCandidate] at hmem
  split at hmem
  next candidate hcandidate =>
    split at hmem
    next hepoch =>
      have hwas := frozen_some.mpr ⟨hcandidate, hepoch, hrec, (readinessGate_none hgate).1⟩
      exact h.candidate candidate hwas clearCertBytes hmem
    · exact h.built hrec hmem
  · exact h.built hrec hmem

lemma Justified.freeze (h : Justified cfg s) (hgate : readinessGate s = none) :
    Justified cfg { s with orderCandidate := some (frozenCandidate cfg s) } where
  bounded := h.bounded
  cancelled := h.cancelled
  clears := h.clears
  candidate := fun c hc clearCertBytes hmem => by
    obtain ⟨hcandidate, -, hrec, -⟩ := frozen_some.mp hc
    obtain rfl : frozenCandidate cfg s = c := Option.some.inj hcandidate
    exact h.frozenClears hgate hrec hmem

lemma Justified.readiness (h : Justified cfg s) (engine : EngineAnswer) (cars : AmbulanceCars) :
    Justified cfg (evaluateAndPropose cfg s engine cars).1 := by
  have hfrozen : Justified cfg (evaluateOrderReadiness cfg s engine).1 := by
    cases hgate : readinessGate s with
    | some outcome => rwa [evaluateOrderReadiness_gated engine hgate]
    | none =>
      rw [evaluateOrderReadiness_open engine hgate]
      exact h.freeze hgate
  rw [evaluateAndPropose]
  dsimp only
  split
  · split
    · obtain ⟨hfooting, hgrip, hregistry⟩ := @proposeAll_kept cfg (evaluateOrderReadiness cfg s engine).1 engine cars
      exact hfrozen.congr hfooting hgrip hregistry
    · exact hfrozen
  · exact hfrozen

lemma Justified.step (s : RollbackState) (ev : OrderEvent) (h : Justified cfg s) (hok : evidenced cfg s ev = true) :
    Justified cfg (orderStep cfg s ev) := by
  cases ev with
  | evidence ev other => exact h.evidence hok
  | discovery round stores deadline settle announcement =>
    exact h.discovery round stores deadline settle announcement
  | orderReadiness engine cars => exact h.readiness engine cars

section Trailer

variable {epoch time : ℕ} {leaderId : ℤ} {entries : List VehicleEntry} {clearCerts : List Bytes}

lemma orderPayload_header (he : epoch < uint32Modulus) (hcount : entries.length < uint32Modulus) :
    (ProposeHdr.read (orderPayload epoch leaderId time entries clearCerts)).epoch = epoch ∧
      (ProposeHdr.read (orderPayload epoch leaderId time entries clearCerts)).nVehicles = entries.length := by
  have hputU64 : (putU64 time).length = 8 := littleEndian_length 8 _
  have hepoch := readU32_put [] (putI32 leaderId ++ (putU64 time ++ (putU32 entries.length ++
    (entries.flatMap VehicleEntry.bytes ++ clearTrailer clearCerts)))) epoch he
  have hn := readU32_put (putU32 epoch ++ putI32 leaderId ++ putU64 time)
    (entries.flatMap VehicleEntry.bytes ++ clearTrailer clearCerts) entries.length hcount
  simp only [List.nil_append, List.length_nil] at hepoch
  simp only [List.append_assoc, List.length_append, putU32_length, putI32_length, hputU64, Nat.reduceAdd] at hn
  simp only [ProposeHdr.read, orderPayload, ProposeHdr.bytes, List.append_assoc]
  exact ⟨hepoch, hn⟩

lemma clearEvidenceCert_trailer {before first : Bytes} {rest : List Bytes} {hdr : ProposeHdr}
    (hbefore : before.length = ProposeHdr.size + hdr.nVehicles * VehicleEntry.size)
    (hcount : (first :: rest).length < 65536) (hlen : first.length < uint32Modulus) :
    clearEvidenceCert (before ++ clearTrailer (first :: rest)) hdr = some first := by
  have hputU16 : ∀ value, (putU16 value).length = 2 := littleEndian_length 2
  set tail := rest.flatMap fun cert => putU32 cert.length ++ cert
  have hmagic := readU32_put before (putU16 1 ++ (putU16 (first :: rest).length ++
    (putU32 first.length ++ (first ++ tail)))) orderEvidenceMagic (by decide)
  have hn := readLE_put 2 (before ++ putU32 orderEvidenceMagic ++ putU16 1)
    (putU32 first.length ++ (first ++ tail)) hcount
  have hcertLen := readU32_put (before ++ putU32 orderEvidenceMagic ++ putU16 1 ++ putU16 (first :: rest).length)
    (first ++ tail) first.length hlen
  have hcert := slice_append_right (before ++ putU32 orderEvidenceMagic ++ putU16 1 ++
    putU16 (first :: rest).length ++ putU32 first.length) (first ++ tail) 0 first.length
  rw [slice_append_left] at hcert
  simp only [List.append_assoc, List.length_append, putU32_length, hputU16, Nat.reduceAdd] at hn hcertLen
  simp only [List.append_assoc, List.length_append, putU32_length, hputU16, Nat.reduceAdd, Nat.add_zero] at hcert
  have htrailer : clearTrailer (first :: rest) = putU32 orderEvidenceMagic ++ (putU16 1 ++
      (putU16 (first :: rest).length ++ (putU32 first.length ++ (first ++ tail)))) := by
    simp only [clearTrailer, List.cons_ne_nil, if_false, List.flatMap_cons, List.append_assoc, tail]
  have hsize : (before ++ clearTrailer (first :: rest)).length = before.length + 12 + first.length + tail.length := by
    rw [htrailer]
    simp only [List.length_append, putU32_length, hputU16]
    omega
  rw [clearEvidenceCert, ← hbefore]
  dsimp only
  rw [if_neg (by rw [hsize, OrderEvidenceHdr.size]; omega), hsize, htrailer, if_neg, OrderEvidenceHdr.size, hcertLen,
    if_neg (by omega)]
  · exact congrArg some hcert
  · rw [OrderEvidenceHdr.read, OrderEvidenceHdr.size, hmagic]
    rw [← putU16, ← readU16] at hn
    rw [hn, List.length_cons]
    dsimp only
    omega

lemma clearTrailer_first (first : Bytes) (rest : List Bytes) :
    first.length ≤ (clearTrailer (first :: rest)).length := by
  simp only [clearTrailer, List.cons_ne_nil, if_false, List.flatMap_cons, List.length_append]
  omega

end Trailer

lemma Justified.inHand (h : Justified cfg s) (hgate : readinessGate s = none) (hrec : s.recovery = true) :
    (frozenCandidate cfg s).clearCerts.length = clearsInHand s := by
  rw [frozenCandidate, clearsInHand]
  cases hfrozen : frozen s with
  | some c =>
    obtain ⟨hcandidate, hepoch, -⟩ := frozen_some.mp hfrozen
    rw [hcandidate]
    dsimp only
    rw [if_pos hepoch]
  | none =>
    have hbuilt : (buildOrderCandidate cfg s).clearCerts.length = (s.incidentRegistry.filter fun entry =>
        decide (entry.1.cancelledEpoch = s.app.cancelledEpoch)).length := by
      have hopen := (readinessGate_none hgate).2 hrec
      rw [hasBlockingIncidentForEpoch, List.any_eq_false] at hopen
      rw [buildOrderCandidate, hrec, registeredClears]
      dsimp only
      rw [if_pos rfl, List.length_map, List.length_insertionSort]
      congr 1
      refine List.filter_congr fun entry hentry => ?_
      by_cases hepoch : entry.1.cancelledEpoch = s.app.cancelledEpoch
      · have hcleared : entry.2.cleared = true := by
          by_contra hblocking
          exact hopen entry hentry (by simp [hepoch, hblocking])
        have hbytes : entry.2.clearCertBytes ≠ [] := by
          intro hnil
          have haccepted := h.clears hrec entry hentry hcleared hepoch
          rw [hnil, accepts, clearEvidenceCallback, if_pos rfl] at haccepted
          exact absurd haccepted (by simp)
        simp [hepoch, hcleared, hbytes]
      · simp [hepoch]
    split
    next candidate hcandidate =>
      split
      next hepoch =>
        have hwas := frozen_some.mpr ⟨hcandidate, hepoch, hrec, (readinessGate_none hgate).1⟩
        exact absurd (hfrozen.symm.trans hwas) (by simp)
      · exact hbuilt
    · exact hbuilt

lemma Justified.agreed (h : Justified cfg s) {engine : EngineAnswer} {cars : AmbulanceCars}
    (hok : evidenced cfg s (.orderReadiness engine cars) = true) : EvidenceAgreed cfg s engine cars := by
  intro c hc hrec acfg r inp time entries hsame hlen
  obtain ⟨hgate, rfl⟩ := submitted_some hc
  set c := frozenCandidate cfg s with hcdef
  have hepoch : c.epoch = s.app.currentEpoch := frozenCandidate_epoch cfg s
  have hsize := @orderPayload_length c.epoch time cfg.replicaId entries c.clearCerts
  have hcount : entries.length < uint32Modulus := by
    rw [hsize, VehicleEntry.size] at hlen
    omega
  obtain ⟨hread, hvehicles⟩ := @orderPayload_header c.epoch time cfg.replicaId entries c.clearCerts
    (hepoch ▸ h.bounded) hcount
  rw [rejectsForEvidence]
  cases hview : unwrapRollbackIfPresent (orderPayload c.epoch cfg.replicaId time entries c.clearCerts) with
  | none => rfl
  | some view =>
    dsimp only
    by_contra hrejects
    simp only [Bool.not_eq_false, Bool.and_eq_true, Bool.not_eq_true'] at hrejects
    obtain ⟨⟨⟨hcancel, hrollback⟩, hrequires⟩, hevidence⟩ := hrejects
    have hnormal : view.kind = .normal := by
      cases hkind : view.kind with
      | normal => rfl
      | cancel => simp [ProposalView.isCancel, hkind] at hcancel
      | rollback => simp [ProposalView.isRollback, hkind] at hrollback
    obtain rfl := (seenAsNormal hview hnormal).1
    rw [orderHdr, ProposalView.initial] at hrequires hevidence
    dsimp only at hrequires hevidence
    rw [requiresEvidence, decide_eq_true_eq, hread, hepoch] at hrequires
    have hcrash := hsame.marks _ hrequires
    rw [← h.cancelled hrec] at hcrash
    rw [evidenced, hrec, hcrash, Bool.true_and, Bool.not_true, Bool.false_or, Bool.and_eq_true, decide_eq_true_eq,
      decide_eq_true_eq, ← h.inHand hgate hrec] at hok
    obtain ⟨first, rest, hclears⟩ : ∃ first rest, c.clearCerts = first :: rest := List.exists_cons_of_length_pos hok.1
    have haccepted := h.frozenClears hgate hrec (hclears ▸ List.mem_cons_self)
    have hfirst := clearTrailer_first first rest
    rw [← hclears] at hfirst
    have hcert : clearEvidenceCert (orderPayload c.epoch cfg.replicaId time entries c.clearCerts)
        (ProposeHdr.read (orderPayload c.epoch cfg.replicaId time entries c.clearCerts)) = some first := by
      have hbefore : ((ProposeHdr.mk c.epoch cfg.replicaId time entries.length).bytes ++
          entries.flatMap VehicleEntry.bytes).length = ProposeHdr.size +
            (ProposeHdr.read (orderPayload c.epoch cfg.replicaId time entries c.clearCerts)).nVehicles *
              VehicleEntry.size := by
        rw [hvehicles, List.length_append, proposeHdr_bytes_length, entriesBytes_length]
      have hlast := clearEvidenceCert_trailer hbefore (hclears ▸ hok.2) (by omega)
      rw [← hclears, List.append_assoc] at hlast
      exact hlast
    rw [evidenceOk, hcert, hread, hepoch] at hevidence
    rw [accepts, h.cancelled hrec, ← hsame.view] at haccepted
    exact absurd (hevidence.symm.trans haccepted) (by simp)

theorem evidenceAgreed_of_run (cfg : RollbackConfig) (events : List OrderEvent) (engine : EngineAnswer)
    (cars : AmbulanceCars)
    (hevidenced : Guarded (orderStep cfg) (fun s ev => evidenced cfg s ev = true) .initial
      (events ++ [.orderReadiness engine cars])) :
    EvidenceAgreed cfg (run (orderStep cfg) .initial events) engine cars := by
  obtain ⟨hbefore, hlast⟩ := guarded_snoc hevidenced
  exact (hbefore.invariant Justified.step justified_initial).agreed hlast

theorem evidenceAgreed_of_run_leads :
    (submitted fourRollbackCars (run (orderStep fourRollbackCars) .initial (followsThenLeads [])) ⟨true, 2⟩
        ⟨[], []⟩).isSome = true ∧
      EvidenceAgreed fourRollbackCars (run (orderStep fourRollbackCars) .initial (followsThenLeads [])) ⟨true, 2⟩
        ⟨[], []⟩ :=
  ⟨by decide +kernel, evidenceAgreed_of_run fourRollbackCars (followsThenLeads []) ⟨true, 2⟩ ⟨[], []⟩
    (by decide +kernel)⟩

-- cars 0 and 1 saw an unsafe pair in batch 1, and CANCEL 0 is committed on their certificate
def unsafeCancelled : List OrderEvent :=
  evidenceEvents (afterOrder
      [.rollback (.cancelCert 0 (ascii "CANCEL_CERT|0|0|" ++ unsafeBatchRef 0 1 2 3 ++ echoesText) (stopped 6)) rfl,
        .rollback (.orderDecided (crashCancelBytes 0)) crashCancel_plain, .order false (stopped 7)]) ++
    [certifiedCars [0, 1, 2, 3], evaluated ⟨true, 0⟩] ++ evidenceEvents [.rollback (.viewChange true true) viewChange_plain]

def bareRecoveryOrder : OrderCandidate :=
  frozenCandidate fourRollbackCars (run (orderStep fourRollbackCars) .initial unsafeCancelled)

def recoveringCars : List VehicleEntry := [0, 1, 2, 3].map fun (car : ℕ) => VehicleEntry.mk car 7 0 car 0 1 1 0 0

def bareRecoveryPayload : Bytes := orderPayload bareRecoveryOrder.epoch 2 4000000 recoveringCars bareRecoveryOrder.clearCerts

def unsafeFollower : Replica := ⟨(run (orderStep fourRollbackCars) .initial unsafeCancelled).app, [1]⟩

def unsafeFollowerInput : VerifyInput := ⟨4, ⟨true, 1, false⟩, none, primaryIs 3⟩

lemma bareRecoveryPayload_rejects :
    rejectsForEvidence (unsafeFollower.bridgeEnv fourRollbackCars.toAppConfig unsafeFollowerInput) bareRecoveryPayload =
      true := by
  decide +kernel

-- the reference names no incident, so the ORDER goes out bare: every follower that executed the CANCEL refuses it, and
-- one that marked no crash would take it
theorem unsafeBatch_orderRejected :
    ¬EvidenceAgreed fourRollbackCars (run (orderStep fourRollbackCars) .initial unsafeCancelled) ⟨true, 2⟩ ⟨[], []⟩ ∧
      (preVerify (unsafeFollower.bridgeEnv fourRollbackCars.toAppConfig unsafeFollowerInput) (primaryIs 3)
        { orderRequest bareRecoveryPayload with senderId := 3 }).1 = false ∧
      (preVerify (Replica.bridgeEnv fourRollbackCars.toAppConfig ⟨unsafeFollower.app, []⟩ unsafeFollowerInput)
        (primaryIs 3) { orderRequest bareRecoveryPayload with senderId := 3 }).1 = true := by
  refine ⟨fun h => ?_, rejected_of_evidence bareRecoveryPayload_rejects (Or.inl rfl) rfl _, by decide +kernel⟩
  have hmarks : SameHistory fourRollbackCars (run (orderStep fourRollbackCars) .initial unsafeCancelled)
      fourRollbackCars.toAppConfig unsafeFollower :=
    ⟨rfl, by decide +kernel⟩
  have haccepted := h bareRecoveryOrder (by decide +kernel) (by decide +kernel) fourRollbackCars.toAppConfig
    unsafeFollower unsafeFollowerInput 4000000 recoveringCars hmarks (by decide +kernel)
  exact absurd (haccepted.symm.trans bareRecoveryPayload_rejects) (by simp)

end V2vBft.Rollback
