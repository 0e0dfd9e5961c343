import V2vBft.Arrival.CertCheck
import V2vBft.Arrival.Distance

namespace V2vBft.Arrival

open Wire App

variable {cfg : ArrivalConfig} {cert cert' : ArrivalCert} {echo : ArrivalEcho} {echoes : List ArrivalEcho}

def supportsDirection (cfg : ArrivalConfig) (cert : ArrivalCert) (echo : ArrivalEcho) : Bool :=
  isValidArrivalEchoForCert cfg cert echo && decide (echo.observedCue = cert.direction.cue)

def LaneAllows (cfg : ArrivalConfig) (cert : ArrivalCert) : Prop :=
  cfg.adjacentLateral = true →
    cert.physicalLaneIndex = 0 ∧ (cert.direction = .straight ∨ cert.direction = .right) ∨
      cert.physicalLaneIndex = 1 ∧ cert.direction = .left

structure Attested (cfg : ArrivalConfig) (cert : ArrivalCert) (signer : ℤ) (echo : ArrivalEcho) : Prop where
  carried : echo ∈ cert.echoes
  author : echo.echoingReplicaId = signer
  inRange : 0 ≤ signer ∧ signer < cfg.totalVehicles
  registered : cfg.registeredKeys.lookup signer = some echo.signerPubKey
  signed : echo.signature ≠ [] ∧
    cfg.verifyBytes echo.signerPubKey (arrivalEchoSigningPayload echo) echo.signature = true
  claim : echoMatchesCert cert echo = true
  cue : echo.observedCue = cert.direction.cue

def ArrivalCert.withEchoes (cert : ArrivalCert) (echoes : List ArrivalEcho) : ArrivalCert := { cert with echoes := echoes }

lemma physicalLaneAuthorizesDirection_iff : physicalLaneAuthorizesDirection cfg cert = true ↔ LaneAllows cfg cert := by
  rw [physicalLaneAuthorizesDirection, LaneAllows]
  cases cfg.adjacentLateral with
  | false => simp
  | true =>
    simp only [Bool.not_true, Bool.false_eq_true, if_false, true_imp_iff]
    split
    next hzero => simp [hzero]
    next hzero =>
      split
      next hone => simp [hone]
      next hone => simp [hzero, hone]

def countSupport (cfg : ArrivalConfig) (cert : ArrivalCert) (c : CertCheck) (echo : ArrivalEcho) : CertCheck :=
  if echo.echoingReplicaId ∈ c.seen then c
  else if supportsDirection cfg cert echo then ⟨echo.echoingReplicaId :: c.seen, c.valid + 1⟩
  else ⟨echo.echoingReplicaId :: c.seen, c.valid⟩

lemma directionSupport_eq_foldl : directionSupport cfg cert = (cert.echoes.foldl (countSupport cfg cert) ⟨[], 0⟩).valid := rfl

lemma foldl_countSupport (cert : ArrivalCert) (echoes : List ArrivalEcho) (c : CertCheck)
    (hfresh : FreshSigners cfg c.seen echoes) :
    (echoes.foldl (countSupport cfg cert) c).valid = c.valid + echoes.countP fun echo => supportsDirection cfg cert echo := by
  induction echoes generalizing c with
  | nil => rfl
  | cons echo echoes ih =>
    rw [List.foldl_cons, countSupport, List.countP_cons]
    cases heligible : isArrivalSignerEligible cfg echo.echoingReplicaId with
    | false =>
      have hrest := (freshSigners_skip heligible).mp hfresh
      have hidle : supportsDirection cfg cert echo = false := by
        by_contra hsupport
        rw [Bool.not_eq_false, supportsDirection, Bool.and_eq_true] at hsupport
        rw [eligible_of_valid hsupport.1] at heligible
        cases heligible
      simp only [hidle, Bool.false_eq_true, if_false, Nat.add_zero]
      by_cases hseen : echo.echoingReplicaId ∈ c.seen
      · rw [if_pos hseen]
        exact ih c hrest
      · rw [if_neg hseen]
        refine ih _ ⟨hrest.1, fun signer hmem hold => ?_⟩
        rcases List.mem_cons.mp hold with rfl | hold
        · rw [(mem_eligibleSigners.mp hmem).2] at heligible
          cases heligible
        · exact hrest.2 signer hmem hold
    | true =>
      obtain ⟨hunseen, hrest⟩ := (freshSigners_cons heligible).mp hfresh
      rw [if_neg hunseen]
      cases hsupport : supportsDirection cfg cert echo with
      | true => rw [if_pos rfl, ih _ hrest, if_pos rfl, Nat.add_right_comm, Nat.add_assoc]
      | false => rw [if_neg (by simp), ih _ hrest, if_neg (by simp), Nat.add_zero]

lemma Accepted.support_eq (h : Accepted cfg cert) :
    directionSupport cfg cert = cert.echoes.countP fun echo => supportsDirection cfg cert echo := by
  rw [directionSupport_eq_foldl, foldl_countSupport cert cert.echoes _ ⟨h.once, fun _ _ => List.not_mem_nil⟩, Nat.zero_add]

lemma attested_of_supports (hecho : echo ∈ cert.echoes) (h : supportsDirection cfg cert echo = true) :
    Attested cfg cert echo.echoingReplicaId echo := by
  simp only [supportsDirection, isValidArrivalEchoForCert, isArrivalSignerEligible, ArrivalConfig.keyMatches,
    echoSignatureVerifies, Bool.and_eq_true, decide_eq_true_eq] at h
  obtain ⟨⟨⟨⟨⟨hrange, hsigned⟩, hclaim⟩, hkey⟩, hverify⟩, hcue⟩ := h
  exact ⟨hecho, rfl, hrange, hkey, ⟨hsigned, hverify⟩, hclaim, hcue⟩

lemma Accepted.exists_attesters (h : Accepted cfg cert) (hsupport : cfg.faults + 1 ≤ directionSupport cfg cert) :
    ∃ signers : Finset ℤ, cfg.faults + 1 ≤ (signers.card : ℤ) ∧
      ∀ signer ∈ signers, ∃ echo, Attested cfg cert signer echo := by
  set supporting := cert.echoes.filter fun echo => supportsDirection cfg cert echo with hsupporting
  have hsub : (supporting.map ArrivalEcho.echoingReplicaId).Sublist (eligibleSigners cfg cert.echoes) := by
    have hall : supporting = (cert.echoes.filter fun echo =>
        isArrivalSignerEligible cfg echo.echoingReplicaId).filter fun echo => supportsDirection cfg cert echo := by
      rw [List.filter_filter, hsupporting]
      refine List.filter_congr fun echo _ => ?_
      cases hs : supportsDirection cfg cert echo with
      | false => rw [Bool.false_and]
      | true => rw [eligible_of_valid (Bool.and_eq_true_iff.mp hs).1, Bool.and_true]
    rw [hall, eligibleSigners, List.filter_map]
    exact List.filter_sublist.map _
  have hnodup := h.once.sublist hsub
  refine ⟨(supporting.map ArrivalEcho.echoingReplicaId).toFinset, ?_, fun signer hsigner => ?_⟩
  · rw [List.toFinset_card_of_nodup hnodup, List.length_map, hsupporting, ← List.countP_eq_length_filter,
      ← h.support_eq]
    exact hsupport
  · obtain ⟨echo, hecho, rfl⟩ := List.mem_map.mp (List.mem_toFinset.mp hsigner)
    obtain ⟨hmem, hs⟩ := List.mem_filter.mp hecho
    exact ⟨echo, attested_of_supports hmem hs⟩

lemma supportsDirection_withEchoes : supportsDirection cfg (cert.withEchoes echoes) = supportsDirection cfg cert := rfl

lemma eligibleDirection_congr (hsupport : directionSupport cfg (cert.withEchoes echoes) = directionSupport cfg cert) :
    eligibleDirection cfg (cert.withEchoes echoes) = eligibleDirection cfg cert := by
  rw [eligibleDirection, eligibleDirection, hsupport]
  rfl

lemma Accepted.perm (h : Accepted cfg cert) (hperm : echoes.Perm cert.echoes) :
    Accepted cfg (cert.withEchoes echoes) where
  direction := h.direction
  carId := h.carId
  lane := h.lane
  size := by
    change (echoes.length : ℤ) ≤ _
    rw [hperm.length_eq]
    exact h.size
  once := ((hperm.map ArrivalEcho.echoingReplicaId).filter _).nodup_iff.mpr h.once
  quorum := by
    change cfg.faults + 1 ≤ (echoes.countP (fun echo => isValidArrivalEchoForCert cfg cert echo) : ℕ)
    rw [hperm.countP_eq]
    exact h.quorum

lemma Accepted.direction_eq (h : Accepted cfg cert) {extra : List ArrivalEcho}
    (hperm : echoes.Perm (cert.echoes ++ extra))
    (hextra : ∀ echo ∈ extra, isValidArrivalEchoForCert cfg cert echo = false)
    (h' : Accepted cfg (cert.withEchoes echoes)) :
    eligibleDirection cfg (cert.withEchoes echoes) = eligibleDirection cfg cert := by
  refine eligibleDirection_congr ?_
  have hnone : (extra.countP fun echo => supportsDirection cfg cert echo) = 0 := by
    refine List.countP_eq_zero.mpr fun echo hecho hs => ?_
    rw [supportsDirection, hextra echo hecho, Bool.false_and] at hs
    cases hs
  rw [h'.support_eq, h.support_eq, supportsDirection_withEchoes]
  change echoes.countP _ = _
  rw [hperm.countP_eq, List.countP_append, hnone, Nat.add_zero]

theorem eligibleDirection_sound (cfg : ArrivalConfig) (cert : ArrivalCert)
    (honEligibility : cfg.directionEligibilityEnabled = true) (haccepted : validateArrivalCert cfg cert = true) :
    (eligibleDirection cfg cert ≠ .unknown →
      eligibleDirection cfg cert = cert.direction ∧ LaneAllows cfg cert ∧
        ∃ signers : Finset ℤ, cfg.faults + 1 ≤ (signers.card : ℤ) ∧
          (∀ signer ∈ signers, ∃ echo, Attested cfg cert signer echo) ∧
          ∀ byzantine : Finset ℤ, (byzantine.card : ℤ) ≤ cfg.faults → ∃ signer ∈ signers, signer ∉ byzantine) ∧
      (∀ echoes, echoes.Perm cert.echoes → validateArrivalCert cfg (cert.withEchoes echoes) = true ∧
        eligibleDirection cfg (cert.withEchoes echoes) = eligibleDirection cfg cert) ∧
      ∀ extra echoes, echoes.Perm (cert.echoes ++ extra) →
        (∀ echo ∈ extra, isValidArrivalEchoForCert cfg cert echo = false) →
        validateArrivalCert cfg (cert.withEchoes echoes) = true →
          eligibleDirection cfg (cert.withEchoes echoes) = eligibleDirection cfg cert := by
  have h := validateArrivalCert_iff.mp haccepted
  refine ⟨fun hknown => ?_, fun echoes hperm => ?_, fun extra echoes hperm hextra hagain => ?_⟩
  · rw [eligibleDirection, honEligibility, Bool.not_true, if_neg (by simp)] at hknown ⊢
    split at hknown
    next hpass =>
      obtain ⟨hlane, hsupport⟩ := Bool.and_eq_true_iff.mp hpass
      obtain ⟨signers, hcard, hattested⟩ := h.exists_attesters (of_decide_eq_true hsupport)
      refine ⟨if_pos hpass, physicalLaneAuthorizesDirection_iff.mp hlane, signers, hcard, hattested,
        fun byzantine hbyz => ?_⟩
      by_contra hall
      push Not at hall
      have hle := Finset.card_le_card hall
      omega
    next => exact absurd rfl hknown
  · have hagain := h.perm hperm
    have hsame : echoes.Perm (cert.echoes ++ []) := by rwa [List.append_nil]
    exact ⟨validateArrivalCert_iff.mpr hagain, h.direction_eq hsame (by simp) hagain⟩
  · exact h.direction_eq hperm hextra (validateArrivalCert_iff.mp hagain)

def leftEcho (signer : ℤ) (key : UInt8) : ArrivalEcho :=
  let echo : ArrivalEcho :=
    ⟨signer, ascii "veh1", ascii "N", 1, 0, 0, .left, .left, [7], false, 0, [key], []⟩
  { echo with signature := checksum (key :: arrivalEchoSigningPayload echo) }

def leftCert : ArrivalCert := ⟨ascii "veh1", ascii "N", 1, 0, 0, .left, [7], false, 0, [leftEcho 1 11, leftEcho 2 12]⟩

def unsignedEcho : ArrivalEcho := { leftEcho 2 12 with signature := [] }

theorem eligibleDirection_sound_left :
    ∃ signers : Finset ℤ, fourWitnesses.faults + 1 ≤ (signers.card : ℤ) ∧
      ∀ signer ∈ signers, ∃ echo, Attested fourWitnesses leftCert signer echo := by
  obtain ⟨hsound, -⟩ := eligibleDirection_sound fourWitnesses leftCert rfl (by decide +kernel)
  obtain ⟨-, -, signers, hcard, hattested, -⟩ := hsound (by decide +kernel)
  exact ⟨signers, hcard, hattested⟩

-- an echo that does not verify, put before the good one of the same signer, takes the direction away; the list is one
-- that validateArrivalCert refuses
theorem junkFirst_takes_direction :
    fourWitnesses.directionEligibilityEnabled = true ∧ validateArrivalCert fourWitnesses leftCert = true ∧
      isValidArrivalEchoForCert fourWitnesses leftCert unsignedEcho = false ∧
      eligibleDirection fourWitnesses leftCert = .left ∧
      eligibleDirection fourWitnesses (leftCert.withEchoes (unsignedEcho :: leftCert.echoes)) = .unknown ∧
      validateArrivalCert fourWitnesses (leftCert.withEchoes (unsignedEcho :: leftCert.echoes)) = false := by
  decide +kernel

end V2vBft.Arrival
