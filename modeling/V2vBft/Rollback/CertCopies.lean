import V2vBft.Rollback.ClearCandidate

namespace V2vBft.Rollback

open Wire App Library.GuardedRun

structure WitnessConfig.Sized (cfg : WitnessConfig) : Prop where
  replicaId : -2147483648 ≤ cfg.replicaId ∧ cfg.replicaId < 2147483648
  ecPubKey : cfg.ecPubKey.length = cryptoPubkeyBytes
  signature : ∀ msg sig, cfg.signBytes msg = some sig → sig.length ≤ cryptoSigMaxBytes

-- `copies` observes certificates with the bytes that are broadcast, relayed, retried or attached for them
structure CancelCarrier where
  witness : WitnessState
  pendingRetries : Option CancelCert
  copies : List (CancelCert × Bytes)

def CancelCarrier.start (s : RollbackState) : CancelCarrier := ⟨.start s, none, []⟩

-- elsewhere: whatever another handler makes of the state, where it may stop the retries
inductive CancelCopyEvent
  | echo (ev : WitnessEvent)
  | cert (senderId : ℤ) (payload : Bytes) (sense : Sense)
  | retryTimer
  | elsewhere (rollback : RollbackState) (stopsRetries : Bool)

def broadcastIn (s s' : WitnessState) : List CancelCert := s'.assembled.take (s'.assembled.length - s.assembled.length)

def receivedCancel (cfg : RollbackConfig) (s : RollbackState) (payload : Bytes) : Option CancelCert :=
  (deserializeCancelCert payload).filter fun cert =>
    cfg.enableRollback && decide (cert.reasonRef ≠ []) && validateCancelCert (s.app.witnessContext cfg.toAppConfig) cert

-- relay, retry, justification and registry entry all hold serializeCancelCert of these
def copiedCancel (cfg : WitnessConfig) (s : CancelCarrier) : CancelCopyEvent → List CancelCert
  | .echo ev => broadcastIn s.witness (witnessStep cfg s.witness ev)
  | .cert _ payload _ => (receivedCancel cfg.toRollbackConfig s.witness.rollback payload).toList
  | .retryTimer => s.pendingRetries.toList
  | .elsewhere _ _ => []

def carriedCancel (cfg : WitnessConfig) (s : CancelCarrier) : CancelCopyEvent → WitnessState
  | .echo ev => witnessStep cfg s.witness ev
  | .cert senderId payload sense =>
    { s.witness with rollback := handleCancelCert cfg.toRollbackConfig s.witness.rollback senderId payload sense }
  | .retryTimer => s.witness
  | .elsewhere rollback _ => { s.witness with rollback := rollback }

def pendingCancel (cfg : WitnessConfig) (s : CancelCarrier) : CancelCopyEvent → Option CancelCert
  | .echo ev => (broadcastIn s.witness (witnessStep cfg s.witness ev)).head?.or s.pendingRetries
  | .elsewhere _ stopsRetries => if stopsRetries then none else s.pendingRetries
  | _ => s.pendingRetries

def cancelCopyStep (cfg : WitnessConfig) (s : CancelCarrier) (ev : CancelCopyEvent) : CancelCarrier :=
  ⟨carriedCancel cfg s ev, pendingCancel cfg s ev,
    (copiedCancel cfg s ev).map (fun cert => (cert, serializeCancelCert cert)) ++ s.copies⟩

structure ClearCarrier where
  clear : ClearState
  pendingRelay : Option ClearCert
  copies : List (ClearCert × Bytes)

def ClearCarrier.start (s : RollbackState) (seen : List Bytes) : ClearCarrier := ⟨.start s seen, none, []⟩

-- orderTrailer: the CLEAR certificates behind an executed ORDER
inductive ClearCopyEvent
  | clear (ev : ClearEvent)
  | relayTimer
  | orderTrailer (certs : List Bytes)
  | elsewhere (rollback : RollbackState)

def firedClear (cfg : WitnessConfig) (s : ClearState) : Option ClearCert :=
  if s.clearCertCandidateTimer then
    s.clearCertCandidate.filter fun cert =>
      !decide (incidentState s.rollback (clearedIncident cert) = .cleared ∨ s.rollback.app.orderApplied = true) &&
        validateClearCert (s.view cfg) cert
  else none

def takenClear (cfg : WitnessConfig) (s : ClearState) (carrier : ℤ) (packet : Bytes) : Option (ClearCert × Bytes) :=
  if cfg.enableRollback then carriedClear cfg.toRollbackConfig s.rollback carrier packet else none

def trailerClears (cfg : WitnessConfig) (s : ClearState) (certs : List Bytes) : List (ClearCert × Bytes) :=
  ((parsedCerts certs).getD []).filter fun c => !c.1.echoes.isEmpty && validateClearCert (s.view cfg) c.1

def copiedClear (cfg : WitnessConfig) (s : ClearCarrier) : ClearCopyEvent → List (ClearCert × Bytes)
  | .clear .candidateTimer => (firedClear cfg s.clear).toList.map fun cert => (cert, serializeClearCert cert)
  | .clear (.clearCert carrier packet) => (takenClear cfg s.clear carrier packet).toList
  | .clear _ => []
  | .relayTimer => s.pendingRelay.toList.map fun cert => (cert, serializeClearCert cert)
  | .orderTrailer certs => trailerClears cfg s.clear certs
  | .elsewhere _ => []

def carriedClears (cfg : WitnessConfig) (s : ClearCarrier) : ClearCopyEvent → ClearState
  | .clear ev => clearStep cfg s.clear ev
  | .relayTimer => s.clear
  | .orderTrailer certs =>
    (trailerClears cfg s.clear certs).foldl (fun clear c => clear.onIncidentCleared (clearedIncident c.1) c.2) s.clear
  | .elsewhere rollback => { s.clear with rollback := rollback }

-- a relay that is not scheduled, or cancelled, sends nothing
def pendingClear (cfg : WitnessConfig) (s : ClearCarrier) : ClearCopyEvent → Option ClearCert
  | .clear (.clearCert carrier packet) => ((takenClear cfg s.clear carrier packet).map Prod.fst).or s.pendingRelay
  | .relayTimer => none
  | _ => s.pendingRelay

def clearCopyStep (cfg : WitnessConfig) (s : ClearCarrier) (ev : ClearCopyEvent) : ClearCarrier :=
  ⟨carriedClears cfg s ev, pendingClear cfg s ev, copiedClear cfg s ev ++ s.copies⟩

structure SameView (ctx ctx' : WitnessContext) : Prop where
  toleratedFaults : ctx'.toleratedFaults = ctx.toleratedFaults
  totalVehicles : ctx'.totalVehicles = ctx.totalVehicles
  members : ∀ id, id ∈ ctx'.committedOrderVehicleIds ↔ id ∈ ctx.committedOrderVehicleIds
  keys : ∀ id, ctx'.registeredKeys.lookup id = ctx.registeredKeys.lookup id
  verifyBytes : ctx'.verifyBytes = ctx.verifyBytes

def EchoCollector.Fits (c : EchoCollector) : Prop := ∀ entry ∈ c.entries, entry.2.Fits

variable {cfg : WitnessConfig} {ctx ctx' : WitnessContext} {stmt : WitnessStatement} {echo : WitnessEcho}

lemma SameView.validateEcho (h : SameView ctx ctx') (stmt : WitnessStatement) :
    App.validateEcho ctx' stmt = App.validateEcho ctx stmt := by
  funext s e
  have hkey : ctx'.keyMatches e.signerId e.pubKey = ctx.keyMatches e.signerId e.pubKey := by
    rw [WitnessContext.keyMatches, WitnessContext.keyMatches, h.keys]
  rw [App.validateEcho, App.validateEcho, hkey, h.verifyBytes]
  by_cases hmem : e.signerId ∈ ctx.committedOrderVehicleIds
  · simp [hmem, (h.members e.signerId).mpr hmem]
  · simp [hmem, mt (h.members e.signerId).mp hmem]

lemma SameView.validateWitnesses (h : SameView ctx ctx') (stmt : WitnessStatement) (f : ℤ) (echoes : List WitnessEcho) :
    App.validateWitnesses ctx' f stmt echoes = App.validateWitnesses ctx f stmt echoes := by
  rw [App.validateWitnesses, App.validateWitnesses, h.validateEcho]

lemma SameView.cancelCert (h : SameView ctx ctx') (cert : CancelCert) :
    validateCancelCert ctx' cert = validateCancelCert ctx cert := by
  rw [validateCancelCert, validateCancelCert, h.toleratedFaults, h.totalVehicles]
  simp only [h.validateWitnesses]

lemma SameView.clearCert (h : SameView ctx ctx') (cert : ClearCert) :
    validateClearCert ctx' cert = validateClearCert ctx cert := by
  rw [validateClearCert, validateClearCert, h.toleratedFaults, h.totalVehicles]
  simp only [h.validateWitnesses]

lemma EchoCollector.Fits.add {c : EchoCollector} (h : c.Fits) (hecho : echo.Fits) : (c.add stmt echo).1.Fits := by
  rw [EchoCollector.add]
  split
  · exact h
  · intro entry hentry
    rcases List.mem_append.mp hentry with hold | hnew
    · exact h entry hold
    · exact List.mem_singleton.mp hnew ▸ hecho

lemma EchoCollector.Fits.bucket {c : EchoCollector} (h : c.Fits) (key : Bytes) : ∀ e ∈ c.bucket key, e.Fits := by
  intro e he
  obtain ⟨entry, hentry, rfl⟩ := List.mem_map.mp he
  exact h entry (List.mem_filter.mp hentry).1

lemma parsedBuffers (pub sig : Bytes) :
    (if pub.length = cryptoPubkeyBytes then pub else zeros cryptoPubkeyBytes).length = cryptoPubkeyBytes ∧
      (if sig.length ≤ cryptoSigMaxBytes then sig else []).length ≤ cryptoSigMaxBytes := by
  constructor
  · split
    next h => exact h
    next => decide
  · split
    next h => exact h
    next => decide

structure RadioEcho (e : CancelEcho) : Prop where
  epoch : e.cancelledEpoch < uint32Modulus
  reason : -2147483648 ≤ e.reason ∧ e.reason < 2147483648
  reasonRef : 124 ∉ e.reasonRef
  echo : e.toWitnessEcho.Fits

lemma deserializeCancelEcho_radio {payload : Bytes} {e : CancelEcho} (h : deserializeCancelEcho payload = some e) :
    RadioEcho e := by
  rw [deserializeCancelEcho] at h
  dsimp only at h
  split at h
  next =>
    obtain rfl := Option.some.inj h
    exact ⟨by decide, by decide, List.not_mem_nil, by decide, by decide, by decide⟩
  next =>
    split at h
    next epoch reason signer _ hreason hsigner =>
      have hepoch : toUint32 epoch < uint32Modulus := Nat.mod_lt _ (by decide)
      split at h
      next =>
        obtain rfl := Option.some.inj h
        exact ⟨hepoch, stoi_range hreason, getD_splitStr_notMem _ _ _, stoi_range hsigner,
          List.length_replicate, Nat.zero_le _⟩
      next =>
        split at h
        next pub sig _ _ =>
          obtain rfl := Option.some.inj h
          exact ⟨hepoch, stoi_range hreason, getD_splitStr_notMem _ _ _, stoi_range hsigner,
            (parsedBuffers pub sig).1, (parsedBuffers pub sig).2⟩
        next => cases h
    next => cases h

lemma bucketCert_formed {e : CancelEcho} (h : RadioEcho e) {bucket : List WitnessEcho} (hbucket : ∀ x ∈ bucket, x.Fits) :
    (bucketCert e bucket).Formed := by
  refine ⟨h.epoch, h.reason, h.reasonRef, fun x hx => ?_⟩
  obtain ⟨we, hmem, rfl⟩ := List.mem_map.mp hx
  exact ⟨rfl, rfl, rfl, hbucket we hmem⟩

lemma broadcastIn_same {s s' : WitnessState} (h : s'.assembled = s.assembled) : broadcastIn s s' = [] := by
  rw [broadcastIn, h, Nat.sub_self, List.take_zero]

lemma broadcastIn_cons {s s' : WitnessState} {cert : CancelCert} (h : s'.assembled = cert :: s.assembled) :
    broadcastIn s s' = [cert] := by
  rw [broadcastIn, h, List.length_cons, Nat.add_sub_cancel_left]
  rfl

structure CancelEchoKept (s s' : WitnessState) : Prop where
  collector : s'.cancelEchoCollector.Fits
  broadcast : ∀ cert ∈ broadcastIn s s', cert.Formed

lemma CancelEchoKept.refl {s s' : WitnessState} (h : s'.cancelEchoCollector.Fits) (hsame : s'.assembled = s.assembled) :
    CancelEchoKept s s' :=
  ⟨h, fun cert hcert => by rw [broadcastIn_same hsame] at hcert; exact absurd hcert List.not_mem_nil⟩

lemma collectCancelEcho_carries {s : WitnessState} {e : CancelEcho} (h : s.cancelEchoCollector.Fits) (hradio : RadioEcho e)
    (sense : Sense) : CancelEchoKept s (s.collectCancelEcho cfg e sense) := by
  have hfits := @EchoCollector.Fits.add (echoStatement e) e.toWitnessEcho _ h hradio.echo
  rw [WitnessState.collectCancelEcho]
  cases hadd : s.cancelEchoCollector.add (echoStatement e) e.toWitnessEcho with
  | mk collector fresh =>
    rw [hadd] at hfits
    cases fresh with
    | false => exact .refl h rfl
    | true =>
      dsimp only
      split
      next =>
        refine ⟨hfits, fun cert hcert => ?_⟩
        rw [WitnessState.broadcastCancelCert] at hcert
        by_cases hvalid : validateCancelCert (WitnessState.view cfg { s with cancelEchoCollector := collector })
            (bucketCert e (collector.bucket (echoStatement e).collectorKey)) = true
        · rw [broadcastIn_cons (by dsimp only; rw [if_pos hvalid]), List.mem_singleton] at hcert
          exact hcert ▸ bucketCert_formed hradio (hfits.bucket _)
        · rw [broadcastIn_same (by dsimp only; rw [if_neg hvalid])] at hcert
          exact absurd hcert List.not_mem_nil
      next => exact .refl hfits rfl

lemma handleCancelEcho_carries {s : WitnessState} (h : s.cancelEchoCollector.Fits) (payload : Bytes) (sense : Sense) :
    CancelEchoKept s (s.handleCancelEcho cfg payload sense) := by
  rw [WitnessState.handleCancelEcho]
  split
  · exact .refl h rfl
  · cases hparse : deserializeCancelEcho payload with
    | none => exact .refl h rfl
    | some e =>
      dsimp only
      split
      · exact collectCancelEcho_carries h (deserializeCancelEcho_radio hparse) sense
      · exact .refl h rfl

lemma sendCancelEcho_carries {s : WitnessState} (hcfg : cfg.Sized) (h : s.cancelEchoCollector.Fits)
    (cancelledEpoch : ℕ) (reason : ℤ) (reasonRef : Bytes) :
    CancelEchoKept s (s.sendCancelEcho cfg cancelledEpoch reason reasonRef) := by
  refine .refl ?_ (sendCancelEcho_kept cancelledEpoch reason reasonRef).2
  rw [WitnessState.sendCancelEcho]
  dsimp only
  split
  · exact h
  · split
    · exact h
    · split
      next => exact h
      next sig hsig => exact h.add ⟨hcfg.replicaId, hcfg.ecPubKey, hcfg.signature _ _ hsig⟩

lemma witnessStep_carries {s : WitnessState} (hcfg : cfg.Sized) (h : s.cancelEchoCollector.Fits) (ev : WitnessEvent) :
    CancelEchoKept s (witnessStep cfg s ev) := by
  cases ev with
  | cancelEcho payload sense =>
    have hkept := @handleCancelEcho_carries cfg s h payload sense
    exact ⟨hkept.collector, hkept.broadcast⟩
  | sendCancelEcho cancelledEpoch reason reasonRef =>
    have hkept := @sendCancelEcho_carries cfg s hcfg h cancelledEpoch reason reasonRef
    exact ⟨hkept.collector, hkept.broadcast⟩

structure CancelCarrier.Sound (s : CancelCarrier) : Prop where
  collector : s.witness.cancelEchoCollector.Fits
  pending : ∀ cert ∈ s.pendingRetries, cert.Formed
  copies : ∀ copy ∈ s.copies, copy.1.Formed ∧ copy.2 = serializeCancelCert copy.1

lemma copiedCancel_formed {s : CancelCarrier} (hcfg : cfg.Sized) (h : s.Sound) (ev : CancelCopyEvent) :
    ∀ cert ∈ copiedCancel cfg s ev, cert.Formed := by
  intro cert hcert
  cases ev with
  | echo ev => exact (witnessStep_carries hcfg h.collector ev).broadcast cert hcert
  | cert senderId payload sense =>
    have hread := (Option.filter_eq_some_iff.mp (Option.mem_toList.mp hcert)).1
    exact deserializeCancelCert_formed hread
  | retryTimer => exact h.pending cert (Option.mem_toList.mp hcert)
  | elsewhere rollback stopsRetries => exact absurd hcert List.not_mem_nil

lemma cancelCopyStep_sound {s : CancelCarrier} (hcfg : cfg.Sized) (h : s.Sound) (ev : CancelCopyEvent) :
    (cancelCopyStep cfg s ev).Sound where
  collector := by
    cases ev with
    | echo ev => exact (witnessStep_carries hcfg h.collector ev).collector
    | cert senderId payload sense => exact h.collector
    | retryTimer => exact h.collector
    | elsewhere rollback stopsRetries => exact h.collector
  pending := by
    intro cert hcert
    cases ev with
    | echo ev =>
      rcases Option.or_eq_some_iff.mp hcert with hnew | ⟨-, hold⟩
      · exact (witnessStep_carries hcfg h.collector ev).broadcast cert (List.mem_of_head? hnew)
      · exact h.pending cert hold
    | cert senderId payload sense => exact h.pending cert hcert
    | retryTimer => exact h.pending cert hcert
    | elsewhere rollback stopsRetries =>
      cases stopsRetries with
      | true => cases hcert
      | false => exact h.pending cert hcert
  copies := by
    intro copy hcopy
    rcases List.mem_append.mp hcopy with hnew | hold
    · obtain ⟨cert, hcert, rfl⟩ := List.mem_map.mp hnew
      exact ⟨copiedCancel_formed hcfg h ev cert hcert, rfl⟩
    · exact h.copies copy hold

lemma deserializeClearEcho_fits {payload : Bytes} {e : ClearEcho} (h : deserializeClearEcho payload = some e) :
    e.cancelledEpoch < uint32Modulus ∧ e.executingBatch < uint32Modulus ∧ e.toWitnessEcho.Fits := by
  rw [deserializeClearEcho] at h
  dsimp only at h
  split at h
  next =>
    obtain rfl := Option.some.inj h
    exact ⟨by decide, by decide, by decide, by decide, by decide⟩
  next =>
    split at h
    next epoch batch signer _ _ hsigner =>
      have hmod : ∀ n, toUint32 n < uint32Modulus := fun n => Nat.mod_lt _ (by decide)
      split at h
      next =>
        obtain rfl := Option.some.inj h
        exact ⟨hmod epoch, hmod batch, stoi_range hsigner, List.length_replicate, Nat.zero_le _⟩
      next =>
        split at h
        next pub sig _ _ =>
          obtain rfl := Option.some.inj h
          exact ⟨hmod epoch, hmod batch, stoi_range hsigner, (parsedBuffers pub sig).1, (parsedBuffers pub sig).2⟩
        next => cases h
    next => cases h

structure ClearState.Fits (s : ClearState) : Prop where
  collector : s.clearEchoCollector.Fits
  candidate : ∀ cert ∈ s.clearCertCandidate, cert.Formed

lemma scheduleClearCertCandidate_fits {s : ClearState} (h : s.Fits) {cert : ClearCert} (hcert : cert.Formed) :
    (s.scheduleClearCertCandidate cfg cert).Fits := by
  refine ⟨scheduleClearCertCandidate_kept cert |>.2.symm ▸ h.collector, ?_⟩
  rw [ClearState.scheduleClearCertCandidate]
  repeat' split
  · exact h.candidate
  · exact h.candidate
  · exact h.candidate
  · intro candidate hcandidate
    exact Option.some.inj hcandidate ▸ hcert

lemma handleClearEcho_fits {s : ClearState} (h : s.Fits) (payload : Bytes) : (s.handleClearEcho cfg payload).Fits := by
  rw [ClearState.handleClearEcho]
  split
  · exact h
  · cases hparse : deserializeClearEcho payload with
    | none => exact h
    | some e =>
      obtain ⟨hepoch, hbatch, hecho⟩ := deserializeClearEcho_fits hparse
      have hadded := @EchoCollector.Fits.add (incidentStatement (echoIncident e)) e.toWitnessEcho _ h.collector hecho
      dsimp only
      split
      · exact h
      · split
        · rw [ClearState.collectClearEcho]
          cases hadd : s.clearEchoCollector.add (incidentStatement (echoIncident e)) e.toWitnessEcho with
          | mk collector fresh =>
            rw [hadd] at hadded
            cases fresh with
            | false => exact h
            | true =>
              have hstored : ClearState.Fits { s with clearEchoCollector := collector } := ⟨hadded, h.candidate⟩
              dsimp only
              split
              · refine scheduleClearCertCandidate_fits hstored ⟨hepoch, hbatch, fun x hx => ?_⟩
                obtain ⟨we, hmem, rfl⟩ := List.mem_map.mp hx
                have hfits := hadded.bucket _ we hmem
                exact ⟨rfl, rfl, hfits.signerId, hfits.pubKey, hfits.sig⟩
              · exact hstored
        · exact h

lemma onIncidentCleared_fits {s : ClearState} (h : s.Fits) (incident : BlockedIncident) (clearCertBytes : Bytes) :
    (s.onIncidentCleared incident clearCertBytes).Fits := by
  rw [ClearState.onIncidentCleared]
  split
  · exact ⟨h.collector, fun cert hcert => by cases hcert⟩
  · exact h

lemma sendClearEcho_fits {s : ClearState} (hcfg : cfg.Sized) (h : s.Fits) (incident : BlockedIncident) :
    (s.sendClearEcho cfg incident).Fits := by
  refine ⟨?_, (@sendClearEcho_kept cfg s incident).2.1.symm ▸ h.candidate⟩
  rw [ClearState.sendClearEcho]
  repeat' split
  · exact h.collector
  · exact h.collector
  · exact h.collector
  · exact h.collector
  next sig hsig => exact h.collector.add ⟨hcfg.replicaId, hcfg.ecPubKey, hcfg.signature _ _ hsig⟩

lemma clearStep_fits {s : ClearState} (hcfg : cfg.Sized) (h : s.Fits) (ev : ClearEvent) : (clearStep cfg s ev).Fits := by
  have hhandled : (clearHandled cfg s ev).Fits := by
    cases ev with
    | clearEcho payload => exact handleClearEcho_fits h payload
    | sendClearEcho incident => exact sendClearEcho_fits hcfg h incident
    | clearCert carrier packet =>
      rw [clearHandled, ClearState.handleClearCert]
      repeat' split
      · exact h
      · exact h
      · apply onIncidentCleared_fits
        exact ⟨h.collector, fun cert hcert => by cases hcert⟩
    | candidateTimer =>
      rw [clearHandled]
      split
      · rw [ClearState.candidateTimerFires]
        dsimp only
        repeat' split
        · exact ⟨h.collector, h.candidate⟩
        · exact ⟨h.collector, fun cert hcert => by cases hcert⟩
        · rw [ClearState.broadcastClearCert]
          split
          · apply onIncidentCleared_fits
            exact ⟨h.collector, h.candidate⟩
          · exact ⟨h.collector, h.candidate⟩
      · exact h
    | collectedCerts certs => exact ⟨h.collector, h.candidate⟩
  exact ⟨hhandled.collector, hhandled.candidate⟩

structure ClearCarrier.Sound (s : ClearCarrier) : Prop where
  clear : s.clear.Fits
  pending : ∀ cert ∈ s.pendingRelay, cert.Formed
  copies : ∀ copy ∈ s.copies, deserializeClearCert copy.2 = some copy.1

lemma takenClear_read {s : ClearState} {carrier : ℤ} {packet : Bytes} {taken : ClearCert × Bytes}
    (h : takenClear cfg s carrier packet = some taken) : deserializeClearCert taken.2 = some taken.1 := by
  rw [takenClear] at h
  split at h
  · exact (carriedClear_valid h).1
  · cases h

lemma copiedClear_read {s : ClearCarrier} (h : s.Sound) (ev : ClearCopyEvent) :
    ∀ copy ∈ copiedClear cfg s ev, deserializeClearCert copy.2 = some copy.1 := by
  intro copy hcopy
  cases ev with
  | relayTimer =>
    obtain ⟨cert, hcert, rfl⟩ := List.mem_map.mp hcopy
    exact deserialize_serializeClearCert (h.pending cert (Option.mem_toList.mp hcert))
  | orderTrailer certs =>
    have hmem := (List.mem_filter.mp hcopy).1
    cases hparse : parsedCerts certs with
    | none => simp [hparse] at hmem
    | some parsed =>
      rw [hparse, Option.getD_some] at hmem
      exact parsedCerts_mem hparse hmem
  | elsewhere rollback => exact absurd hcopy List.not_mem_nil
  | clear ev =>
    cases ev with
    | clearCert carrier packet => exact takenClear_read (Option.mem_toList.mp hcopy)
    | candidateTimer =>
      obtain ⟨cert, hcert, rfl⟩ := List.mem_map.mp hcopy
      have hfired := Option.mem_toList.mp hcert
      rw [firedClear] at hfired
      split at hfired
      · exact deserialize_serializeClearCert (h.clear.candidate cert (Option.filter_eq_some_iff.mp hfired).1)
      · cases hfired
    | clearEcho payload => exact absurd hcopy List.not_mem_nil
    | sendClearEcho incident => exact absurd hcopy List.not_mem_nil
    | collectedCerts certs => exact absurd hcopy List.not_mem_nil

lemma trailerClears_fits {s : ClearState} (h : s.Fits) (clears : List (ClearCert × Bytes)) :
    (clears.foldl (fun clear c => clear.onIncidentCleared (clearedIncident c.1) c.2) s).Fits := by
  induction clears generalizing s with
  | nil => exact h
  | cons c clears ih => exact ih (onIncidentCleared_fits h (clearedIncident c.1) c.2)

lemma clearCopyStep_sound {s : ClearCarrier} (hcfg : cfg.Sized) (h : s.Sound) (ev : ClearCopyEvent) :
    (clearCopyStep cfg s ev).Sound where
  clear := by
    cases ev with
    | clear ev => exact clearStep_fits hcfg h.clear ev
    | relayTimer => exact h.clear
    | orderTrailer certs => exact trailerClears_fits h.clear _
    | elsewhere rollback => exact ⟨h.clear.collector, h.clear.candidate⟩
  pending := by
    intro cert hcert
    cases ev with
    | relayTimer => cases hcert
    | orderTrailer certs => exact h.pending cert hcert
    | elsewhere rollback => exact h.pending cert hcert
    | clear ev =>
      cases ev with
      | clearCert carrier packet =>
        rcases Option.or_eq_some_iff.mp hcert with hnew | ⟨-, hold⟩
        · obtain ⟨taken, htaken, rfl⟩ := Option.map_eq_some_iff.mp hnew
          exact deserializeClearCert_formed (takenClear_read htaken)
        · exact h.pending cert hold
      | clearEcho payload => exact h.pending cert hcert
      | sendClearEcho incident => exact h.pending cert hcert
      | candidateTimer => exact h.pending cert hcert
      | collectedCerts certs => exact h.pending cert hcert
  copies := by
    intro copy hcopy
    rcases List.mem_append.mp hcopy with hnew | hold
    · exact copiedClear_read h ev copy hnew
    · exact h.copies copy hold

structure CancelReads (copy : CancelCert × Bytes) (cert : CancelCert) : Prop where
  read : deserializeCancelCert copy.2 = some cert
  statement : cert.statement = copy.1.statement
  echoes : cert.echoes = copy.1.echoes
  valid : ∀ ctx ctx', SameView ctx ctx' → validateCancelCert ctx copy.1 = true → validateCancelCert ctx' cert = true

structure ClearReads (copy : ClearCert × Bytes) (cert : ClearCert) : Prop where
  read : deserializeClearCert copy.2 = some cert
  statement : clearStatement cert = clearStatement copy.1
  echoes : cert.echoes = copy.1.echoes
  valid : ∀ ctx ctx', SameView ctx ctx' → validateClearCert ctx copy.1 = true → validateClearCert ctx' cert = true

lemma cancelCarrier_start (s : RollbackState) : (CancelCarrier.start s).Sound where
  collector := fun _ hentry => absurd hentry List.not_mem_nil
  pending := fun _ hcert => nomatch hcert
  copies := fun _ hcopy => absurd hcopy List.not_mem_nil

lemma clearCarrier_start (s : RollbackState) (seen : List Bytes) : (ClearCarrier.start s seen).Sound where
  clear := ⟨fun _ hentry => absurd hentry List.not_mem_nil, fun _ hcert => nomatch hcert⟩
  pending := fun _ hcert => nomatch hcert
  copies := fun _ hcopy => absurd hcopy List.not_mem_nil

lemma cancelCopies_read (hcfg : cfg.Sized) (s : RollbackState) (events : List CancelCopyEvent) :
    ∀ copy ∈ (run (cancelCopyStep cfg) (.start s) events).copies, CancelReads copy copy.1 := by
  intro copy hcopy
  have hsound : (run (cancelCopyStep cfg) (.start s) events).Sound :=
    @run_invariant _ _ (cancelCopyStep cfg) CancelCarrier.Sound (fun _ ev h => cancelCopyStep_sound hcfg h ev) _ events
      (cancelCarrier_start s)
  obtain ⟨hformed, hbytes⟩ := hsound.copies copy hcopy
  exact ⟨hbytes ▸ deserialize_serializeCancelCert hformed, rfl, rfl,
    fun ctx ctx' hsame hvalid => (hsame.cancelCert copy.1).trans hvalid⟩

lemma clearCopies_read (hcfg : cfg.Sized) (s : RollbackState) (seen : List Bytes) (events : List ClearCopyEvent) :
    ∀ copy ∈ (run (clearCopyStep cfg) (.start s seen) events).copies, ClearReads copy copy.1 := by
  intro copy hcopy
  have hsound : (run (clearCopyStep cfg) (.start s seen) events).Sound :=
    @run_invariant _ _ (clearCopyStep cfg) ClearCarrier.Sound (fun _ ev h => clearCopyStep_sound hcfg h ev) _ events
      (clearCarrier_start s seen)
  exact ⟨hsound.copies copy hcopy, rfl, rfl, fun ctx ctx' hsame hvalid => (hsame.clearCert copy.1).trans hvalid⟩

theorem certificate_copies (hcfg : cfg.Sized) (s s' : RollbackState) (seen : List Bytes)
    (cancels : List CancelCopyEvent) (clears : List ClearCopyEvent) :
    (∀ copy ∈ (run (cancelCopyStep cfg) (.start s) cancels).copies, ∃ cert, CancelReads copy cert) ∧
      ∀ copy ∈ (run (clearCopyStep cfg) (.start s' seen) clears).copies, ∃ cert, ClearReads copy cert :=
  ⟨fun copy hcopy => ⟨copy.1, cancelCopies_read hcfg s cancels copy hcopy⟩,
    fun copy hcopy => ⟨copy.1, clearCopies_read hcfg s' seen clears copy hcopy⟩⟩

def orderedMembers : RollbackState :=
  run (rollbackStep clearCars.toRollbackConfig) .initial
    [.orderDecided (orderDecisionBytes 0 [(0, 0), (1, 0), (2, 1)]), .processOrder false [] (stopped 5)]

def crashEchoFrom (signer : ℕ) : CancelCopyEvent :=
  .echo (.cancelEcho (ascii "CANCEL_ECHO|0|0|blocked_batch:0:1|" ++ decimalNat signer ++ ascii "|" ++
    stampedKey batchBlocked signer) (stopped 6))

def crashCopies : List CancelCopyEvent := [crashEchoFrom 0, crashEchoFrom 1, .retryTimer]

def clearCopies : List ClearCopyEvent :=
  [.clear (.clearEcho (ascii "CLEAR_ECHO|0|1|0|" ++ stampedKey (incidentStatement batchClear) 0)),
    .clear (.clearEcho (ascii "CLEAR_ECHO|0|1|1|" ++ stampedKey (incidentStatement batchClear) 1)),
    .clear .candidateTimer, .clear (.clearCert 1 (clearPacket 1)), .relayTimer]

lemma clearCars_sized : clearCars.Sized where
  replicaId := by decide
  ecPubKey := by decide
  signature := by
    intro msg sig hsig
    obtain rfl := Option.some.inj hsig
    rw [stamped, List.length_append, List.length_take, List.length_singleton]
    exact (Nat.add_le_add_right (Nat.min_le_left _ _) 1).trans (by decide)

theorem certificate_copies_blockedBatch :
    (run (cancelCopyStep clearCars) (.start orderedMembers) crashCopies).copies.map (fun copy => copy.1.statement) =
        [batchBlocked, batchBlocked] ∧
      (run (clearCopyStep clearCars) (.start blockedCars.rollback []) clearCopies).copies.map
        (fun copy => clearedIncident copy.1) = [batchClear, batchClear, batchClear] ∧
      (∀ copy ∈ (run (cancelCopyStep clearCars) (.start orderedMembers) crashCopies).copies,
        ∃ cert, CancelReads copy cert) ∧
      ∀ copy ∈ (run (clearCopyStep clearCars) (.start blockedCars.rollback []) clearCopies).copies,
        ∃ cert, ClearReads copy cert :=
  ⟨by decide +kernel, by decide +kernel,
    certificate_copies clearCars_sized orderedMembers blockedCars.rollback [] crashCopies clearCopies⟩

end V2vBft.Rollback
