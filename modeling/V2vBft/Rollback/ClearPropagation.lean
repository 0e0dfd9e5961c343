import V2vBft.Rollback.CertCopies

namespace V2vBft.Rollback

open Wire App Arrival Library.GuardedRun

-- carriers_ of AuthenticatedPropagationTracker, as pairs
abbrev PropagationTracker := List (Bytes × ℤ)

def PropagationTracker.observeAuthenticated (t : PropagationTracker) (key : Bytes) (carrierId : ℤ) :
    PropagationTracker :=
  if key.isEmpty || decide (carrierId < 0) || t.contains (key, carrierId) then t else (key, carrierId) :: t

def PropagationTracker.count (t : PropagationTracker) (key : Bytes) : ℕ := t.countP fun c => decide (c.1 = key)

def PropagationTracker.confirmed (t : PropagationTracker) (key : Bytes) (threshold : ℤ) : Bool :=
  decide (0 < threshold) && decide (threshold ≤ t.count key)

-- a certificate put on the air, with the carriers counted before and whether the view of the time accepts it
structure AiredClear where
  cert : ClearCert
  relayed : Bool
  carriers : ℕ
  valid : Bool
  frame : Bytes
  deriving DecidableEq, Repr

-- the key stored beside a pending relay is that of its certificate; `aired` observes, the last one first
structure ClearPropagation where
  clear : ClearState
  tracker : PropagationTracker
  clearCertRelayed : List Bytes
  clearCertPendingRelay : Option ClearCert
  clearCertRelayTimer : Bool
  aired : List AiredClear

def ClearPropagation.start (s : RollbackState) (seen : List Bytes) : ClearPropagation :=
  ⟨.start s seen, [], [], none, false, []⟩

def clearSemanticKey (cert : ClearCert) : Bytes :=
  ascii "CLEAR:" ++ (decimalNat cert.cancelledEpoch ++ (ascii ":" ++ decimalNat cert.executingBatch))

def clearPropagationThreshold (cfg : WitnessConfig) : ℤ := anchoredFaults cfg.toleratedFaults cfg.totalVehicles + 1

def ClearPropagation.confirmed (cfg : WitnessConfig) (s : ClearPropagation) (key : Bytes) : Bool :=
  s.tracker.confirmed key (clearPropagationThreshold cfg)

def ClearPropagation.stops (cfg : WitnessConfig) (s : ClearPropagation) (key : Bytes) : Bool :=
  s.confirmed cfg key || s.clear.rollback.app.orderApplied || s.clear.rollback.proposeSubmitted

def ClearPropagation.observe (s : ClearPropagation) (cert : ClearCert) (carrier : ℤ) : ClearPropagation :=
  { s with tracker := s.tracker.observeAuthenticated (clearSemanticKey cert) carrier }

def ClearPropagation.sendClearCertCarrier (cfg : WitnessConfig) (s : ClearPropagation) (cert : ClearCert)
    (relayed : Bool) : ClearPropagation :=
  let frame := packSignedPacket cfg.signBytes cfg.ecPubKey (serializeClearCert cert)
  let carriers := s.tracker.count (clearSemanticKey cert)
  if frame = [] then s
  else { s with aired := ⟨cert, relayed, carriers, validateClearCert (s.clear.view cfg) cert, frame⟩ :: s.aired }

def ClearPropagation.cancelClearCertRelay (s : ClearPropagation) : ClearPropagation :=
  { s with clearCertPendingRelay := none, clearCertRelayTimer := false }

-- a relay that was pending for another incident is given up
def ClearPropagation.scheduleClearCertRelay (cfg : WitnessConfig) (s : ClearPropagation) (cert : ClearCert) :
    ClearPropagation :=
  if s.stops cfg (clearSemanticKey cert) then s
  else if clearSemanticKey cert ∈ s.clearCertRelayed then s
  else
    let s := { s with clearCertRelayed := clearSemanticKey cert :: s.clearCertRelayed }
    if clearPropagationRank cfg.toRollbackConfig s.clear.rollback < 0 then s
    else { s with clearCertPendingRelay := some cert, clearCertRelayTimer := true }

-- submits: the readiness evaluation behind onIncidentCleared proposed the ORDER
def ClearPropagation.takeClearCert (cfg : WitnessConfig) (s : ClearPropagation) (carrier : ℤ) (packet : Bytes)
    (submits : Bool) : ClearPropagation :=
  match takenClear cfg s.clear carrier packet with
  | none => s
  | some (cert, _) =>
    let clear := s.clear.handleClearCert cfg carrier packet
    let rollback := { clear.rollback with proposeSubmitted := clear.rollback.proposeSubmitted || submits }
    let s := { s.observe cert carrier with clear := { clear with rollback := rollback } }
    if s.confirmed cfg (clearSemanticKey cert) then s.cancelClearCertRelay else s.scheduleClearCertRelay cfg cert

-- the carrier is counted before the certificate is sent: `carriers` counts the others when they are sent
def ClearPropagation.candidateTimer (cfg : WitnessConfig) (s : ClearPropagation) : ClearPropagation :=
  let after := clearStep cfg s.clear .candidateTimer
  match firedClear cfg s.clear with
  | none => { s with clear := after }
  | some cert => { (s.sendClearCertCarrier cfg cert false).observe cert cfg.replicaId with clear := after }

def ClearPropagation.relayTimer (cfg : WitnessConfig) (s : ClearPropagation) : ClearPropagation :=
  if !s.clearCertRelayTimer then s
  else
    match s.clearCertPendingRelay with
    | none => { s with clearCertRelayTimer := false }
    | some cert =>
      if s.stops cfg (clearSemanticKey cert) then s.cancelClearCertRelay
      else ((s.sendClearCertCarrier cfg cert true).observe cert cfg.replicaId).cancelClearCertRelay

-- elsewhere: the rest of the application moves on; settled: a recovery ORDER is applied, or the vehicle crashes
inductive PropagationEvent
  | clear (ev : ClearEvent)
  | clearCert (carrier : ℤ) (packet : Bytes) (submits : Bool)
  | candidateTimer
  | relayTimer
  | elsewhere (rollback : RollbackState)
  | settled (rollback : RollbackState)
  | rollbackBegin (rollback : RollbackState)

def propagationStep (cfg : WitnessConfig) (s : ClearPropagation) : PropagationEvent → ClearPropagation
  | .clear ev => { s with clear := clearStep cfg s.clear ev }
  | .clearCert carrier packet submits => s.takeClearCert cfg carrier packet submits
  | .candidateTimer => s.candidateTimer cfg
  | .relayTimer => s.relayTimer cfg
  | .elsewhere rollback => { s with clear := { s.clear with rollback := rollback } }
  | .settled rollback =>
    { s.cancelClearCertRelay with clear := { s.clear.cancelClearCertCandidate with rollback := rollback } }
  | .rollbackBegin rollback =>
    { s.cancelClearCertRelay with
      tracker := []
      clear := { s.clear.cancelClearCertCandidate with rollback := rollback, clearCertCandidateKeys := [] } }

-- certificates and the candidate timer have events of their own; the view changes with an applied ORDER, which stands
-- until the next rollback begins
def ClearPropagation.ok (s : ClearPropagation) : PropagationEvent → Prop
  | .clear (.clearCert _ _) => False
  | .clear .candidateTimer => False
  | .elsewhere rollback => rollback.app.orderApplied = true ∨ s.clear.rollback.app.orderApplied = false ∧
      rollback.app.committedOrderVehicleIds = s.clear.rollback.app.committedOrderVehicleIds
  | _ => True

instance instDecidablePropagationOk (s : ClearPropagation) : ∀ ev, Decidable (s.ok ev)
  | .clear (.clearCert _ _) => inferInstanceAs (Decidable False)
  | .clear .candidateTimer => inferInstanceAs (Decidable False)
  | .clear (.clearEcho _) => inferInstanceAs (Decidable True)
  | .clear (.sendClearEcho _) => inferInstanceAs (Decidable True)
  | .clear (.collectedCerts _) => inferInstanceAs (Decidable True)
  | .clearCert _ _ _ => inferInstanceAs (Decidable True)
  | .candidateTimer => inferInstanceAs (Decidable True)
  | .relayTimer => inferInstanceAs (Decidable True)
  | .elsewhere rollback => inferInstanceAs (Decidable (rollback.app.orderApplied = true ∨
      s.clear.rollback.app.orderApplied = false ∧
        rollback.app.committedOrderVehicleIds = s.clear.rollback.app.committedOrderVehicleIds))
  | .settled _ => inferInstanceAs (Decidable True)
  | .rollbackBegin _ => inferInstanceAs (Decidable True)

def ClearState.Unseen (s : ClearState) : Prop :=
  s.clearCertCandidateTimer = true → ∀ cert ∈ s.clearCertCandidate, clearKey (clearedIncident cert) ∉ s.clearCertSeen

structure ClearKept (s s' : ClearState) : Prop where
  app : s'.rollback.app = s.rollback.app
  seen : s.clearCertSeen ⊆ s'.clearCertSeen
  unseen : s.Unseen → s'.Unseen

variable {cfg : WitnessConfig} {s s' : ClearState} {cert : ClearCert} {incident : BlockedIncident} {echo : WitnessEcho}

lemma ClearKept.refl (s : ClearState) : ClearKept s s := ⟨rfl, List.Subset.refl _, id⟩

lemma scheduleClearCertCandidate_keeps : ClearKept s (s.scheduleClearCertCandidate cfg cert) := by
  rw [ClearState.scheduleClearCertCandidate]
  split
  · exact .refl s
  · split
    · exact .refl s
    next hnew =>
      split
      · exact .refl s
      · refine ⟨rfl, List.Subset.refl _, fun _ _ c hc => ?_⟩
        obtain rfl := Option.mem_some_iff.mp hc
        exact fun hseen => hnew (Or.inl hseen)

lemma collectClearEcho_keeps : ClearKept s (s.collectClearEcho cfg incident echo) := by
  rw [ClearState.collectClearEcho]
  split
  · exact .refl s
  next collector _ =>
    dsimp only
    split
    · have hkept := @scheduleClearCertCandidate_keeps cfg { s with clearEchoCollector := collector }
        (bucketClearCert incident (collector.bucket (clearKey incident)))
      exact ⟨hkept.app, hkept.seen, hkept.unseen⟩
    · exact ⟨rfl, List.Subset.refl _, id⟩

lemma handleClearEcho_keeps (payload : Bytes) : ClearKept s (s.handleClearEcho cfg payload) := by
  cases hbrought : broughtClear cfg s (.clearEcho payload) with
  | none =>
    rw [handleClearEcho_unformed hbrought]
    exact .refl s
  | some brought =>
    obtain ⟨e, hparse, hformed, -, -⟩ := broughtClear_received hbrought
    rw [handleClearEcho_formed hparse hformed]
    split
    · exact collectClearEcho_keeps
    · exact .refl s

lemma sendClearEcho_keeps : ClearKept s (s.sendClearEcho cfg incident) := by
  rw [ClearState.sendClearEcho]
  repeat' split
  all_goals exact ⟨rfl, List.Subset.refl _, id⟩

lemma onIncidentCleared_keeps (clearCertBytes : Bytes) : ClearKept s (s.onIncidentCleared incident clearCertBytes) := by
  rw [ClearState.onIncidentCleared]
  split
  · exact ⟨rfl, List.Subset.refl _, fun _ ht => Bool.noConfusion ht⟩
  · exact .refl s

lemma handleClearCert_taken {carrier : ℤ} {packet rawCert : Bytes}
    (h : takenClear cfg s carrier packet = some (cert, rawCert)) :
    (s.handleClearCert cfg carrier packet).rollback.app = s.rollback.app ∧
      s.clearCertSeen ⊆ (s.handleClearCert cfg carrier packet).clearCertSeen ∧
      (s.handleClearCert cfg carrier packet).clearCertCandidate = none := by
  rw [takenClear] at h
  split at h
  next henabled =>
    obtain ⟨happ, hcandidate, -⟩ := handleClearCert_accepted henabled h
    refine ⟨happ, ?_, hcandidate⟩
    rw [ClearState.handleClearCert, henabled, h]
    dsimp only [Bool.not_true]
    rw [if_neg (by simp)]
    have hkept := @onIncidentCleared_keeps
      ({ s with clearCertSeen := clearKey (clearedIncident cert) :: s.clearCertSeen }.cancelClearCertCandidate)
      (clearedIncident cert) rawCert
    exact fun _ hseen => hkept.seen (List.mem_cons_of_mem _ hseen)
  next => simp at h

lemma takenClear_valid {carrier : ℤ} {packet rawCert : Bytes}
    (h : takenClear cfg s carrier packet = some (cert, rawCert)) : validateClearCert (s.view cfg) cert = true := by
  rw [takenClear] at h
  split at h
  · obtain ⟨signed, -, hsigned⟩ := Option.bind_eq_some_iff.mp h
    split at hsigned
    · obtain ⟨c, hc, hpair⟩ := Option.map_eq_some_iff.mp hsigned
      obtain ⟨rfl, -⟩ := Prod.mk.inj hpair
      obtain ⟨-, hvalid⟩ := Option.filter_eq_some_iff.mp hc
      exact (Bool.and_eq_true _ _ ▸ hvalid).2
    · simp at hsigned
  · simp at h

lemma candidateTimerFires_keeps : ClearKept s (s.candidateTimerFires cfg) := by
  refine ⟨fires_app, ?_, fun _ ht => absurd (ht.symm.trans fires_timer) (by simp)⟩
  rw [ClearState.candidateTimerFires]
  dsimp only
  split
  · exact List.Subset.refl _
  · split
    · exact List.Subset.refl _
    · rw [ClearState.broadcastClearCert]
      split
      · exact fun _ hseen => (onIncidentCleared_keeps _).seen (List.mem_cons_of_mem _ hseen)
      · exact List.Subset.refl _

lemma firedClear_spec (h : firedClear cfg s = some cert) :
    s.clearCertCandidateTimer = true ∧ s.clearCertCandidate = some cert ∧
      ¬(incidentState s.rollback (clearedIncident cert) = .cleared ∨ s.rollback.app.orderApplied = true) ∧
      validateClearCert (s.view cfg) cert = true := by
  rw [firedClear] at h
  split at h
  next htimer =>
    obtain ⟨hcandidate, hgates⟩ := Option.filter_eq_some_iff.mp h
    rw [Bool.and_eq_true, Bool.not_eq_true', decide_eq_false_iff_not] at hgates
    exact ⟨htimer, hcandidate, hgates⟩
  next => simp at h

lemma firedClear_seen (h : firedClear cfg s = some cert) :
    clearKey (clearedIncident cert) ∈ (clearStep cfg s .candidateTimer).clearCertSeen := by
  obtain ⟨htimer, hcandidate, hopen, hvalid⟩ := firedClear_spec h
  change _ ∈ (if s.clearCertCandidateTimer then s.candidateTimerFires cfg else s).clearCertSeen
  rw [if_pos htimer, ClearState.candidateTimerFires]
  dsimp only
  rw [hcandidate]
  dsimp only
  rw [if_neg hopen, ClearState.broadcastClearCert]
  split
  · exact (onIncidentCleared_keeps _).seen List.mem_cons_self
  next hinvalid => exact absurd hvalid hinvalid

lemma clearStep_keeps (ev : ClearEvent) (hcert : ∀ carrier packet, ev ≠ .clearCert carrier packet) :
    ClearKept s (clearStep cfg s ev) := by
  have hhandled : ClearKept s (clearHandled cfg s ev) := by
    cases ev with
    | clearEcho payload => exact handleClearEcho_keeps payload
    | sendClearEcho incident => exact sendClearEcho_keeps
    | clearCert carrier packet => exact absurd rfl (hcert carrier packet)
    | candidateTimer =>
      rw [clearHandled]
      split
      · exact candidateTimerFires_keeps
      · exact .refl s
    | collectedCerts certs => exact ⟨rfl, List.Subset.refl _, id⟩
  exact ⟨hhandled.app, hhandled.seen, hhandled.unseen⟩

def AiredClear.role (a : AiredClear) : BlockedIncident × Bool := (clearedIncident a.cert, a.relayed)

structure PropagationInv (cfg : WitnessConfig) (p : ClearPropagation) : Prop where
  valid : ∀ a ∈ p.aired, a.valid = true
  restrained : ∀ a ∈ p.aired, a.relayed = true → 0 < clearPropagationThreshold cfg →
    (a.carriers : ℤ) < clearPropagationThreshold cfg
  once : (p.aired.map AiredClear.role).Nodup
  own : ∀ a ∈ p.aired, a.relayed = false → clearKey (clearedIncident a.cert) ∈ p.clear.clearCertSeen
  relays : ∀ a ∈ p.aired, a.relayed = true → clearSemanticKey a.cert ∈ p.clearCertRelayed
  unseen : p.clear.Unseen
  waiting : ∀ cert ∈ p.clearCertPendingRelay, clearSemanticKey cert ∈ p.clearCertRelayed ∧
    (∀ a ∈ p.aired, a.relayed = true → clearSemanticKey a.cert ≠ clearSemanticKey cert) ∧
    (p.clear.rollback.app.orderApplied = true ∨ validateClearCert (p.clear.view cfg) cert = true)
  distinct : p.tracker.Nodup

variable {p : ClearPropagation}

lemma propagationInv_start (s : RollbackState) (seen : List Bytes) : PropagationInv cfg (.start s seen) where
  valid := fun _ ha => absurd ha List.not_mem_nil
  restrained := fun _ ha => absurd ha List.not_mem_nil
  once := List.nodup_nil
  own := fun _ ha => absurd ha List.not_mem_nil
  relays := fun _ ha => absurd ha List.not_mem_nil
  unseen := fun ht => Bool.noConfusion ht
  waiting := fun _ hc => absurd hc (Option.not_mem_none _)
  distinct := List.nodup_nil

lemma observeAuthenticated_nodup {t : PropagationTracker} (h : t.Nodup) (key : Bytes) (carrier : ℤ) :
    (t.observeAuthenticated key carrier).Nodup := by
  rw [PropagationTracker.observeAuthenticated]
  split
  · exact h
  next hnew =>
    rw [Bool.or_eq_true, not_or, List.contains_iff_mem] at hnew
    exact List.nodup_cons.mpr ⟨hnew.2, h⟩

lemma PropagationInv.observe (h : PropagationInv cfg p) (cert : ClearCert) (carrier : ℤ) :
    PropagationInv cfg (p.observe cert carrier) :=
  { h with distinct := observeAuthenticated_nodup h.distinct _ _ }

lemma PropagationInv.cancel (h : PropagationInv cfg p) : PropagationInv cfg p.cancelClearCertRelay :=
  { h with waiting := fun _ hc => absurd hc (Option.not_mem_none _) }

lemma PropagationInv.moved (h : PropagationInv cfg p) {clear : ClearState}
    (hseen : p.clear.clearCertSeen ⊆ clear.clearCertSeen) (hunseen : clear.Unseen)
    (hview : clear.rollback.app.orderApplied = true ∨ p.clearCertPendingRelay = none ∨
      p.clear.rollback.app.orderApplied = false ∧
        clear.rollback.app.committedOrderVehicleIds = p.clear.rollback.app.committedOrderVehicleIds) :
    PropagationInv cfg { p with clear := clear } where
  valid := h.valid
  restrained := h.restrained
  once := h.once
  own := fun a ha hown => hseen (h.own a ha hown)
  relays := h.relays
  unseen := hunseen
  waiting := by
    intro cert hcert
    obtain ⟨hrelayed, hfresh, hvalid⟩ := h.waiting cert hcert
    refine ⟨hrelayed, hfresh, ?_⟩
    rcases hview with happlied | hnone | ⟨hopen, hids⟩
    · exact Or.inl happlied
    · exact absurd (hnone ▸ hcert) (Option.not_mem_none _)
    · have hsame : clear.view cfg = p.clear.view cfg := by
        rw [ClearState.view, ClearState.view, AppState.witnessContext, AppState.witnessContext, hids]
      rw [hsame]
      exact Or.inr (hvalid.resolve_left (by simp [hopen]))
  distinct := h.distinct

lemma PropagationInv.sameApp (h : PropagationInv cfg p) {clear : ClearState}
    (hseen : p.clear.clearCertSeen ⊆ clear.clearCertSeen) (hunseen : clear.Unseen)
    (happ : clear.rollback.app = p.clear.rollback.app) : PropagationInv cfg { p with clear := clear } := by
  refine h.moved hseen hunseen ?_
  rw [happ]
  cases hopen : p.clear.rollback.app.orderApplied with
  | true => exact Or.inl rfl
  | false => exact Or.inr (Or.inr ⟨rfl, rfl⟩)

lemma clearSemanticKey_congr {cert' : ClearCert} (h : clearedIncident cert = clearedIncident cert') :
    clearSemanticKey cert = clearSemanticKey cert' := by
  obtain ⟨hepoch, hbatch⟩ := BlockedIncident.mk.inj h
  rw [clearSemanticKey, clearSemanticKey, hepoch, hbatch]

lemma PropagationInv.airs (h : PropagationInv cfg p) {a : AiredClear} (hvalid : a.valid = true)
    (hfew : a.relayed = true → 0 < clearPropagationThreshold cfg → (a.carriers : ℤ) < clearPropagationThreshold cfg)
    (hnew : a.role ∉ p.aired.map AiredClear.role)
    (hown : a.relayed = false → clearKey (clearedIncident a.cert) ∈ p.clear.clearCertSeen)
    (hrelay : a.relayed = true → clearSemanticKey a.cert ∈ p.clearCertRelayed ∧ p.clearCertPendingRelay = none) :
    PropagationInv cfg { p with aired := a :: p.aired } where
  valid := List.forall_mem_cons.mpr ⟨hvalid, h.valid⟩
  restrained := List.forall_mem_cons.mpr ⟨hfew, h.restrained⟩
  once := List.nodup_cons.mpr ⟨hnew, h.once⟩
  own := List.forall_mem_cons.mpr ⟨hown, h.own⟩
  relays := List.forall_mem_cons.mpr ⟨fun hr => (hrelay hr).1, h.relays⟩
  unseen := h.unseen
  waiting := by
    intro cert hcert
    obtain ⟨hrelayed, hfresh, hvalid⟩ := h.waiting cert hcert
    refine ⟨hrelayed, List.forall_mem_cons.mpr ⟨fun hr => ?_, hfresh⟩, hvalid⟩
    rw [(hrelay hr).2] at hcert
    exact absurd hcert (Option.not_mem_none _)
  distinct := h.distinct

lemma PropagationInv.schedule (h : PropagationInv cfg p) (hvalid : validateClearCert (p.clear.view cfg) cert = true) :
    PropagationInv cfg (p.scheduleClearCertRelay cfg cert) := by
  rw [ClearPropagation.scheduleClearCertRelay]
  split
  · exact h
  · split
    · exact h
    next hnew =>
      have hmarked : PropagationInv cfg { p with clearCertRelayed := clearSemanticKey cert :: p.clearCertRelayed } :=
        { h with
          relays := fun a ha hr => List.mem_cons_of_mem _ (h.relays a ha hr)
          waiting := fun c hc => ⟨List.mem_cons_of_mem _ (h.waiting c hc).1, (h.waiting c hc).2⟩ }
      dsimp only
      split
      · exact hmarked
      · refine { hmarked with waiting := fun c hc => ?_ }
        obtain rfl := Option.mem_some_iff.mp hc
        exact ⟨List.mem_cons_self, fun a ha hr heq => hnew (heq ▸ h.relays a ha hr), Or.inr hvalid⟩

lemma PropagationInv.take (h : PropagationInv cfg p) (carrier : ℤ) (packet : Bytes) (submits : Bool) :
    PropagationInv cfg (p.takeClearCert cfg carrier packet submits) := by
  rw [ClearPropagation.takeClearCert]
  cases htaken : takenClear cfg p.clear carrier packet with
  | none => exact h
  | some taken =>
    obtain ⟨cert, rawCert⟩ := taken
    obtain ⟨happ, hseen, hnone⟩ := handleClearCert_taken htaken
    have hvalid := takenClear_valid htaken
    dsimp only
    set clear := p.clear.handleClearCert cfg carrier packet
    have hmoved : PropagationInv cfg { p.observe cert carrier with
        clear := { clear with
          rollback := { clear.rollback with proposeSubmitted := clear.rollback.proposeSubmitted || submits } } } :=
      (h.observe cert carrier).sameApp hseen (fun _ c hc => absurd (hnone ▸ hc) (Option.not_mem_none _)) happ
    have hview : clear.view cfg = p.clear.view cfg := by rw [ClearState.view, ClearState.view, happ]
    split
    · exact hmoved.cancel
    · exact hmoved.schedule (hview ▸ hvalid)

lemma PropagationInv.candidate (h : PropagationInv cfg p) : PropagationInv cfg (p.candidateTimer cfg) := by
  have hkept := @clearStep_keeps cfg p.clear .candidateTimer (fun _ _ => ClearEvent.noConfusion)
  have hmoved := h.sameApp hkept.seen (hkept.unseen h.unseen) hkept.app
  rw [ClearPropagation.candidateTimer]
  cases hfired : firedClear cfg p.clear with
  | none => exact hmoved
  | some cert =>
    obtain ⟨htimer, hcandidate, -, hvalid⟩ := firedClear_spec hfired
    dsimp only
    rw [ClearPropagation.sendClearCertCarrier]
    split
    · exact hmoved.observe cert cfg.replicaId
    · refine PropagationInv.observe (hmoved.airs (a := ⟨cert, false, _, _, _⟩) hvalid (fun hr => Bool.noConfusion hr) ?_
        (fun _ => firedClear_seen hfired) fun hr => Bool.noConfusion hr) cert cfg.replicaId
      intro hmem
      obtain ⟨a, ha, hrole⟩ := List.mem_map.mp hmem
      obtain ⟨hincident, hown⟩ := Prod.mk.inj hrole
      have hseen := h.own a ha hown
      rw [hincident] at hseen
      exact h.unseen htimer cert hcandidate hseen

lemma PropagationInv.relay (h : PropagationInv cfg p) : PropagationInv cfg (p.relayTimer cfg) := by
  rw [ClearPropagation.relayTimer]
  split
  · exact h
  · cases hpending : p.clearCertPendingRelay with
    | none => exact { h with waiting := fun _ hc => absurd hc (Option.not_mem_none _) }
    | some cert =>
      obtain ⟨hrelayed, hfresh, hvalid⟩ := h.waiting cert hpending
      dsimp only
      split
      · exact h.cancel
      next hstops =>
        rw [ClearPropagation.stops, Bool.or_eq_true, Bool.or_eq_true, not_or, not_or] at hstops
        obtain ⟨⟨hfew, hopen⟩, -⟩ := hstops
        rw [ClearPropagation.sendClearCertCarrier]
        split
        · exact (h.observe cert cfg.replicaId).cancel
        · refine PropagationInv.observe (h.cancel.airs (a := ⟨cert, true, _, _, _⟩) (hvalid.resolve_left hopen) ?_ ?_
            (fun hr => Bool.noConfusion hr) fun _ => ⟨hrelayed, rfl⟩) cert cfg.replicaId
          · intro _ hpos
            rw [ClearPropagation.confirmed, PropagationTracker.confirmed, decide_eq_true hpos, Bool.true_and,
              decide_eq_true_eq, not_le] at hfew
            exact hfew
          · intro hmem
            obtain ⟨a, ha, hrole⟩ := List.mem_map.mp hmem
            obtain ⟨hincident, hr⟩ := Prod.mk.inj hrole
            exact hfresh a ha hr (clearSemanticKey_congr hincident)

lemma PropagationInv.step (p : ClearPropagation) (ev : PropagationEvent) (h : PropagationInv cfg p) (hok : p.ok ev) :
    PropagationInv cfg (propagationStep cfg p ev) := by
  cases ev with
  | clear ev =>
    have hkept := @clearStep_keeps cfg p.clear ev (by rintro carrier packet rfl; exact hok)
    exact h.sameApp hkept.seen (hkept.unseen h.unseen) hkept.app
  | clearCert carrier packet submits => exact h.take carrier packet submits
  | candidateTimer => exact h.candidate
  | relayTimer => exact h.relay
  | elsewhere rollback => exact h.moved (List.Subset.refl _) h.unseen (hok.imp_right Or.inr)
  | settled rollback =>
    exact h.cancel.moved (List.Subset.refl _) (fun ht => Bool.noConfusion ht) (Or.inr (Or.inl rfl))
  | rollbackBegin rollback =>
    have hmoved : PropagationInv cfg { p.cancelClearCertRelay with
        clear := { p.clear.cancelClearCertCandidate with rollback := rollback, clearCertCandidateKeys := [] } } :=
      h.cancel.moved (List.Subset.refl _) (fun ht => Bool.noConfusion ht) (Or.inr (Or.inl rfl))
    exact { hmoved with distinct := List.nodup_nil }

structure SpreadsClears (cfg : WitnessConfig) (p : ClearPropagation) : Prop where
  valid : ∀ a ∈ p.aired, a.valid = true
  once : (p.aired.map AiredClear.role).Nodup
  restrained : ∀ a ∈ p.aired, a.relayed = true → 0 < clearPropagationThreshold cfg →
    (a.carriers : ℤ) < clearPropagationThreshold cfg
  distinct : p.tracker.Nodup

theorem clear_propagation (cfg : WitnessConfig) (s : RollbackState) (seen : List Bytes) (events : List PropagationEvent)
    (hok : Guarded (propagationStep cfg) ClearPropagation.ok (.start s seen) events) :
    SpreadsClears cfg (run (propagationStep cfg) (.start s seen) events) := by
  have hinv := hok.invariant PropagationInv.step (propagationInv_start s seen)
  exact ⟨hinv.valid, hinv.once, hinv.restrained, hinv.distinct⟩

def ownBroadcast : List PropagationEvent := [.clear (clearEchoFrom 0), .clear (clearEchoFrom 1), .candidateTimer]

-- the next rollback forgets the carriers, and the certificate of car 1 is relayed
def relayedAfter : List PropagationEvent :=
  ownBroadcast ++ [.rollbackBegin blockedCars.rollback, .clearCert 1 (clearPacket 1) false, .relayTimer]

theorem clear_propagation_relayedAfter :
    (run (propagationStep clearCars) (.start blockedCars.rollback []) relayedAfter).aired.map AiredClear.role =
        [(batchClear, true), (batchClear, false)] ∧
      SpreadsClears clearCars (run (propagationStep clearCars) (.start blockedCars.rollback []) relayedAfter) :=
  ⟨by decide +kernel, clear_propagation clearCars blockedCars.rollback [] relayedAfter (by decide +kernel)⟩

example : (run (propagationStep clearCars) (.start blockedCars.rollback [])
    (ownBroadcast ++ [.clearCert 1 (clearPacket 1) false, .relayTimer])).aired.map AiredClear.role =
      [(batchClear, false)] := by decide +kernel

end V2vBft.Rollback
