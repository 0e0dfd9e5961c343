import V2vBft.Bridge.CrossLeader

namespace V2vBft.Bridge

open Wire Pbft

variable {env : BridgeEnv} {s s' : ConsensusState} {request : Request} {view : ProposalView} {certs : List CertEntry}

structure AdmittedOrder (env : BridgeEnv) (s : ConsensusState) (view : ProposalView) : Prop where
  distinct : ((orderEntries view).map VehicleEntry.replicaId).Nodup
  ids : ∀ e ∈ orderEntries view, inRange env.expected e.replicaId = true
  fields : ∀ e ∈ orderEntries view, entryFieldsValid e = true
  leader : view.isRollback = false → normalLeaderOk env.expected s.info (orderHdr view) (orderEntries view) = true
  certs : certChecks env view.isRollback (orderHdr view) (orderEntries view) = true

lemma AcceptsOrder.admitted (h : AcceptsOrder env s request view s') : AdmittedOrder env s view := by
  obtain ⟨_, _, _, _, hadm, _⟩ := h.admissible
  simp only [orderAdmissible, Bool.and_eq_true, decide_eq_true_eq] at hadm
  refine ⟨hadm.1.1.1.1.1.2, fun e he => ?_, List.all_eq_true.mp hadm.1.1.1.2, fun hnormal => ?_, hadm.2⟩
  · exact List.all_eq_true.mp hadm.1.1.1.1.2 _ (List.mem_map_of_mem he)
  · exact (Bool.or_eq_true_iff.mp hadm.1.2).resolve_left (by simp [hnormal])

structure CertCheckedOrder (env : BridgeEnv) (view : ProposalView) (certs : List CertEntry) : Prop where
  leader : view.isRollback = false → certBacked certs (orderHdr view).leaderId = true
  ambulances : ambulancesCertified (orderEntries view) certs = true
  fields : stateFieldsMatch (orderEntries view) certs = true
  omitted : (omittedCerts (orderEntries view) certs : ℤ) ≤ (env.expected - 1) / 3

lemma AdmittedOrder.certChecked (h : AdmittedOrder env s view) (hcerts : env.certSnapshot = some certs) :
    CertCheckedOrder env view certs := by
  have hchecks := h.certs
  simp only [certChecks, hcerts, Bool.and_eq_true, decide_eq_true_eq, Bool.or_eq_true] at hchecks
  exact ⟨fun hnormal => hchecks.1.1.1.1.resolve_left (by simp [hnormal]), hchecks.1.1.2, hchecks.1.2, hchecks.2⟩

lemma AdmittedOrder.isSigned_iff (h : AdmittedOrder env s view) {e : VehicleEntry} (he : e ∈ orderEntries view) :
    isSigned e = true ↔ isQuiet e = false := by
  have hfields := h.fields e he
  simp only [entryFieldsValid, Bool.and_eq_true, decide_eq_true_eq] at hfields
  have hcyber : e.cyberStatus ≤ 1 := hfields.1.1.2
  simp only [isSigned, isQuiet, Bool.and_eq_true, decide_eq_true_eq, Bool.or_eq_false_iff, decide_eq_false_iff_not]
  omega

lemma proposalEntry_of_nodup {entries : List VehicleEntry} (hdistinct : (entries.map VehicleEntry.replicaId).Nodup)
    {e : VehicleEntry} (he : e ∈ entries) : proposalEntry entries e.replicaId = some e := by
  rw [proposalEntry]
  cases hfound : entries.find? fun x => decide (x.replicaId = e.replicaId) with
  | none => exact absurd (List.find?_eq_none.mp hfound e he) (by simp)
  | some x =>
    have hid : x.replicaId = e.replicaId := by simpa using List.find?_some hfound
    exact congrArg some (List.inj_on_of_nodup_map hdistinct (List.mem_of_find?_eq_some hfound) he hid)

lemma AdmittedOrder.proposalEntry (h : AdmittedOrder env s view) {e : VehicleEntry} (he : e ∈ orderEntries view) :
    proposalEntry (orderEntries view) e.replicaId = some e :=
  proposalEntry_of_nodup h.distinct he

structure MatchesCert (e : VehicleEntry) (ce : CertEntry) : Prop where
  lane : e.lane = ce.lane
  positionInLane : e.positionInLane = ce.positionInLane
  direction : e.direction = ce.direction
  isAmbulance : e.isAmbulance = ce.isAmbulance
  physicalLaneIndex : e.physicalLaneIndex = ce.physicalLaneIndex
  lateralClaimCm : e.lateralClaimCm = ce.lateralClaimCm

lemma AdmittedOrder.matchesCert (h : AdmittedOrder env s view) (hcerts : env.certSnapshot = some certs)
    {e : VehicleEntry} (he : e ∈ orderEntries view) (hsigned : isSigned e = true) {ce : CertEntry} (hce : ce ∈ certs)
    (hid : ce.replicaId = e.replicaId) : MatchesCert e ce := by
  have hmatch := List.all_eq_true.mp (h.certChecked hcerts).fields ce hce
  rw [hid, h.proposalEntry he] at hmatch
  simp only [(h.isSigned_iff he).mp hsigned, Bool.false_or, fieldsMatchCert, Bool.and_eq_true,
    decide_eq_true_eq] at hmatch
  obtain ⟨⟨⟨⟨⟨h₁, h₂⟩, h₃⟩, h₄⟩, h₅⟩, h₆⟩ := hmatch
  exact ⟨h₁, h₂, h₃, h₄, h₅, h₆⟩

lemma AdmittedOrder.ambulance (h : AdmittedOrder env s view) (hcerts : env.certSnapshot = some certs)
    {e : VehicleEntry} (he : e ∈ orderEntries view) (hamb : e.isAmbulance ≠ 0) :
    isSigned e = true ∧ ∃ ce ∈ certs, ce.replicaId = e.replicaId := by
  have hcert := List.all_eq_true.mp (h.certChecked hcerts).ambulances e he
  simp only [hamb, decide_false, Bool.false_or, Bool.not_eq_true', Bool.or_eq_false_iff, Bool.not_eq_false',
    certBacked, decide_eq_true_eq, List.mem_map] at hcert
  exact ⟨(h.isSigned_iff he).mpr hcert.1, hcert.2⟩

lemma foldl_min_le (ids : List ℤ) (start : ℤ) : ids.foldl min start ≤ start ∧ ∀ i ∈ ids, ids.foldl min start ≤ i := by
  induction ids generalizing start with
  | nil => exact ⟨le_rfl, fun i hi => absurd hi (by simp)⟩
  | cons j ids ih =>
    obtain ⟨hstart, hall⟩ := ih (min start j)
    refine ⟨hstart.trans (min_le_left _ _), fun i hi => ?_⟩
    rcases List.mem_cons.mp hi with rfl | hi
    · exact hstart.trans (min_le_right _ _)
    · exact hall i hi

lemma AdmittedOrder.leaderSigned (h : AdmittedOrder env s view) (hnormal : view.isRollback = false) :
    (∃ e ∈ orderEntries view, e.replicaId = (orderHdr view).leaderId ∧ isSigned e = true) ∧
      ((∀ e ∈ orderEntries view, isSigned e = true → (orderHdr view).leaderId ≤ e.replicaId) ∨
        (orderHdr view).leaderId = resdbSenderToOmnet s.info.primaryId) := by
  have hleader := h.leader hnormal
  simp only [normalLeaderOk, leaderIsCertPrimary, leaderIsPbftPrimary, Bool.and_eq_true, Bool.or_eq_true,
    decide_eq_true_eq] at hleader
  have hsigned : leaderIsSigned env.expected (orderHdr view) (orderEntries view) = true := by
    rcases hleader.2 with hl | hl <;> exact hl.2
  refine ⟨?_, hleader.2.imp (fun hcert e he hs => ?_) And.left⟩
  · rw [leaderIsSigned, List.any_eq_true] at hsigned
    obtain ⟨e, he, hcond⟩ := hsigned
    simp only [Bool.and_eq_true, decide_eq_true_eq] at hcond
    exact ⟨e, he, hcond.2, hcond.1.2⟩
  · rw [hcert.1, proposalCertPrimary]
    refine (foldl_min_le _ _).2 _ (List.mem_map_of_mem (List.mem_filter.mpr ⟨he, ?_⟩))
    rw [h.ids e he, hs, Bool.and_self]

structure SoundOrder (env : BridgeEnv) (s : ConsensusState) (certs : List CertEntry) (view : ProposalView) :
    Prop where
  distinct : ((orderEntries view).map VehicleEntry.replicaId).Nodup
  ids : ∀ e ∈ orderEntries view, 0 ≤ e.replicaId ∧ e.replicaId < env.expected
  fields : ∀ e ∈ orderEntries view, isSigned e = true → ∀ ce ∈ certs, ce.replicaId = e.replicaId → MatchesCert e ce
  ambulances : ∀ e ∈ orderEntries view, e.isAmbulance ≠ 0 →
    ∃ ce ∈ certs, ce.replicaId = e.replicaId ∧ ce.isAmbulance ≠ 0
  leaderSigned : ∃ e ∈ orderEntries view, e.replicaId = (orderHdr view).leaderId ∧ isSigned e = true
  leaderCertified : ∃ ce ∈ certs, ce.replicaId = (orderHdr view).leaderId
  leaderEntitled : (∀ e ∈ orderEntries view, isSigned e = true → (orderHdr view).leaderId ≤ e.replicaId) ∨
    (orderHdr view).leaderId = resdbSenderToOmnet s.info.primaryId

theorem preVerify_sound (env : BridgeEnv) (s s' : ConsensusState) (request : Request) (view : ProposalView)
    (certs : List CertEntry) (hcerts : env.certSnapshot = some certs) (h : AcceptsOrder env s request view s')
    (hnormal : view.isRollback = false) : SoundOrder env s certs view := by
  have hadm := h.admitted
  obtain ⟨hsigned, hentitled⟩ := hadm.leaderSigned hnormal
  refine ⟨hadm.distinct, fun e he => ?_, fun e he hs ce hce hid => hadm.matchesCert hcerts he hs hce hid,
    fun e he hamb => ?_, hsigned, ?_, hentitled⟩
  · have hrange := hadm.ids e he
    rwa [inRange, Bool.and_eq_true, decide_eq_true_eq, decide_eq_true_eq] at hrange
  · obtain ⟨hs, ce, hce, hid⟩ := hadm.ambulance hcerts he hamb
    exact ⟨ce, hce, hid, (hadm.matchesCert hcerts he hs hce hid).isAmbulance ▸ hamb⟩
  · have hback := (hadm.certChecked hcerts).leader hnormal
    rwa [certBacked, decide_eq_true_eq, List.mem_map] at hback

theorem preVerify_sound_listing :
    SoundOrder eightCarEnv (primaryIs 1) ((List.range 8).map fun (i : ℕ) => CertEntry.mk i (i % 4) 1 0 0 0 0)
      (listingView 0 [0, 1, 2, 3]) :=
  preVerify_sound eightCarEnv (primaryIs 1) (listingAccepted 0 [0, 1, 2, 3]) (listingRequest 0 [0, 1, 2, 3])
    (listingView 0 [0, 1, 2, 3]) _ rfl ⟨Or.inl rfl, ⟨_, _, rfl, by decide +kernel⟩, rfl, by decide +kernel⟩ rfl

def certifiedIds (certs : List CertEntry) : Finset ℤ := (certs.map CertEntry.replicaId).toFinset

def entryIds (p : VehicleEntry → Bool) (entries : List VehicleEntry) : Finset ℤ :=
  ((entries.filter p).map VehicleEntry.replicaId).toFinset

def missingVehicles (certs : List CertEntry) (entries : List VehicleEntry) : Finset ℤ :=
  certifiedIds certs \ entryIds isSigned entries

def quietVehicles (certs : List CertEntry) (entries : List VehicleEntry) : Finset ℤ :=
  certifiedIds certs ∩ entryIds isQuiet entries

lemma omittedCerts_eq_countP (entries : List VehicleEntry) (certs : List CertEntry) :
    omittedCerts entries certs = certs.countP fun ce => (Bridge.proposalEntry entries ce.replicaId).any isQuiet := by
  refine List.countP_congr fun ce _ => ?_
  cases Bridge.proposalEntry entries ce.replicaId <;> simp

lemma AdmittedOrder.quietVehicles_card (h : AdmittedOrder env s view) :
    (quietVehicles certs (orderEntries view)).card ≤ omittedCerts (orderEntries view) certs := by
  set counted : CertEntry → Bool := fun ce =>
    (Bridge.proposalEntry (orderEntries view) ce.replicaId).any isQuiet with hcounted
  have hsub : quietVehicles certs (orderEntries view) ⊆ ((certs.filter counted).map CertEntry.replicaId).toFinset := by
    intro i hi
    obtain ⟨hcert, hquiet⟩ := Finset.mem_inter.mp hi
    obtain ⟨ce, hce, rfl⟩ := List.mem_map.mp (List.mem_toFinset.mp hcert)
    obtain ⟨e, he, hid⟩ := List.mem_map.mp (List.mem_toFinset.mp hquiet)
    obtain ⟨hmem, hq⟩ := List.mem_filter.mp he
    have hentry := h.proposalEntry hmem
    rw [hid] at hentry
    refine List.mem_toFinset.mpr (List.mem_map_of_mem (List.mem_filter.mpr ⟨hce, ?_⟩))
    simp only [hcounted, hentry, Option.any_some, hq]
  calc (quietVehicles certs (orderEntries view)).card
      ≤ ((certs.filter counted).map CertEntry.replicaId).toFinset.card := Finset.card_le_card hsub
    _ ≤ ((certs.filter counted).map CertEntry.replicaId).length := List.toFinset_card_le _
    _ = omittedCerts (orderEntries view) certs := by
      rw [List.length_map, omittedCerts_eq_countP, List.countP_eq_length_filter]

theorem quietVehicles_bounded (env : BridgeEnv) (s s' : ConsensusState) (request : Request) (view : ProposalView)
    (certs : List CertEntry) (hcerts : env.certSnapshot = some certs) (h : AcceptsOrder env s request view s') :
    ((quietVehicles certs (orderEntries view)).card : ℤ) ≤ (env.expected - 1) / 3 :=
  (Nat.cast_le.mpr h.admitted.quietVehicles_card).trans (h.admitted.certChecked hcerts).omitted

def quietListing : Bytes :=
  (ProposeHdr.mk 1 0 5 5).bytes ++
    ((List.range 4).flatMap fun (i : ℕ) => (VehicleEntry.mk i 7 0 (i % 4) 0 1 1 0 0).bytes) ++
      (VehicleEntry.mk 4 uint64Max 0 0 0 1 0 0 0).bytes

def quietRequest : Request := { listingRequest 0 [0, 1, 2, 3] with data := .batch [quietListing] }

theorem quietVehicles_bounded_quietCar :
    quietVehicles ((List.range 8).map fun (i : ℕ) => CertEntry.mk i (i % 4) 1 0 0 0 0)
        (orderEntries (.initial quietListing)) = {4} ∧
      ((quietVehicles ((List.range 8).map fun (i : ℕ) => CertEntry.mk i (i % 4) 1 0 0 0 0)
        (orderEntries (.initial quietListing))).card : ℤ) ≤ (8 - 1) / 3 :=
  ⟨by decide +kernel,
    quietVehicles_bounded eightCarEnv (primaryIs 1) (preVerify eightCarEnv (primaryIs 1) quietRequest).2 quietRequest
      (.initial quietListing) _ rfl ⟨Or.inl rfl, ⟨_, _, rfl, by decide +kernel⟩, rfl, by decide +kernel⟩⟩

theorem unlisted_accepted :
    AcceptsOrder eightCarEnv (primaryIs 1) (listingRequest 0 [0, 1, 2, 3]) (listingView 0 [0, 1, 2, 3])
        (listingAccepted 0 [0, 1, 2, 3]) ∧
      (8 - 1) / 3 < (missingVehicles ((List.range 8).map fun (i : ℕ) => CertEntry.mk i (i % 4) 1 0 0 0 0)
        (orderEntries (listingView 0 [0, 1, 2, 3]))).card :=
  ⟨⟨Or.inl rfl, ⟨_, _, rfl, by decide +kernel⟩, rfl, by decide +kernel⟩, by decide +kernel⟩

end V2vBft.Bridge
