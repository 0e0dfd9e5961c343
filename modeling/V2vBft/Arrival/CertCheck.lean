import V2vBft.Arrival.Cert

namespace V2vBft.Arrival

open Wire App

variable {cfg : ArrivalConfig} {cert : ArrivalCert} {echo : ArrivalEcho} {echoes : List ArrivalEcho}

def eligibleSigners (cfg : ArrivalConfig) (echoes : List ArrivalEcho) : List ℤ :=
  (echoes.map ArrivalEcho.echoingReplicaId).filter fun signer => isArrivalSignerEligible cfg signer

lemma eligibleSigners_cons (cfg : ArrivalConfig) (echo : ArrivalEcho) (echoes : List ArrivalEcho) :
    eligibleSigners cfg (echo :: echoes) =
      if isArrivalSignerEligible cfg echo.echoingReplicaId then
        echo.echoingReplicaId :: eligibleSigners cfg echoes
      else eligibleSigners cfg echoes := by
  rw [eligibleSigners, eligibleSigners, List.map_cons, List.filter_cons]

lemma mem_eligibleSigners {signer : ℤ} :
    signer ∈ eligibleSigners cfg echoes ↔
      (∃ echo ∈ echoes, echo.echoingReplicaId = signer) ∧ isArrivalSignerEligible cfg signer = true := by
  rw [eligibleSigners, List.mem_filter, List.mem_map]

lemma eligible_of_valid (h : isValidArrivalEchoForCert cfg cert echo = true) :
    isArrivalSignerEligible cfg echo.echoingReplicaId = true := by
  simp only [isValidArrivalEchoForCert, Bool.and_eq_true] at h
  exact h.1.1.1.1

lemma foldl_checkEcho_none (cert : ArrivalCert) (echoes : List ArrivalEcho) :
    echoes.foldl (checkEcho cfg cert) none = none := by
  induction echoes with
  | nil => rfl
  | cons echo echoes ih => exact ih

def FreshSigners (cfg : ArrivalConfig) (seen : List ℤ) (echoes : List ArrivalEcho) : Prop :=
  (eligibleSigners cfg echoes).Nodup ∧ ∀ signer ∈ eligibleSigners cfg echoes, signer ∉ seen

lemma freshSigners_skip {seen : List ℤ} (h : isArrivalSignerEligible cfg echo.echoingReplicaId = false) :
    FreshSigners cfg seen (echo :: echoes) ↔ FreshSigners cfg seen echoes := by
  rw [FreshSigners, eligibleSigners_cons, h, if_neg (by simp), FreshSigners]

lemma freshSigners_cons {seen : List ℤ} (h : isArrivalSignerEligible cfg echo.echoingReplicaId = true) :
    FreshSigners cfg seen (echo :: echoes) ↔
      echo.echoingReplicaId ∉ seen ∧ FreshSigners cfg (echo.echoingReplicaId :: seen) echoes := by
  rw [FreshSigners, eligibleSigners_cons, if_pos h, List.nodup_cons, List.forall_mem_cons, FreshSigners]
  constructor
  · rintro ⟨⟨hfirst, hnodup⟩, hunseen, hnew⟩
    refine ⟨hunseen, hnodup, fun signer hmem hold => ?_⟩
    rcases List.mem_cons.mp hold with rfl | hold
    · exact hfirst hmem
    · exact hnew signer hmem hold
  · rintro ⟨hunseen, hnodup, hnew⟩
    exact ⟨⟨fun hmem => hnew _ hmem List.mem_cons_self, hnodup⟩, hunseen,
      fun signer hmem hold => hnew signer hmem (List.mem_cons_of_mem _ hold)⟩

lemma foldl_checkEcho (cert : ArrivalCert) (echoes : List ArrivalEcho) (c : CertCheck) (valid : ℕ) :
    (∃ c', echoes.foldl (checkEcho cfg cert) (some c) = some c' ∧ c'.valid = valid) ↔
      FreshSigners cfg c.seen echoes ∧
        valid = c.valid + echoes.countP fun echo => isValidArrivalEchoForCert cfg cert echo := by
  induction echoes generalizing c with
  | nil =>
    have hfresh : FreshSigners cfg c.seen [] := ⟨List.nodup_nil, fun _ h => absurd h List.not_mem_nil⟩
    simp [hfresh, eq_comm]
  | cons echo echoes ih =>
    rw [List.foldl_cons, checkEcho, List.countP_cons]
    cases heligible : isArrivalSignerEligible cfg echo.echoingReplicaId with
    | false =>
      have hinvalid : isValidArrivalEchoForCert cfg cert echo = false := by
        by_contra hvalid
        rw [eligible_of_valid (by simpa using hvalid)] at heligible
        cases heligible
      rw [Bool.not_false, if_pos rfl, ih, freshSigners_skip heligible, hinvalid, if_neg (by simp), Nat.add_zero]
    | true =>
      rw [Bool.not_true, if_neg (by simp), freshSigners_cons heligible]
      by_cases hseen : echo.echoingReplicaId ∈ c.seen
      · rw [if_pos hseen, foldl_checkEcho_none]
        simp [hseen]
      · rw [if_neg hseen, and_iff_right hseen]
        cases hvalid : isValidArrivalEchoForCert cfg cert echo with
        | true => rw [if_pos rfl, ih, if_pos rfl, Nat.add_right_comm, Nat.add_assoc]
        | false => rw [if_neg (by simp), ih, if_neg (by simp), Nat.add_zero]

structure Accepted (cfg : ArrivalConfig) (cert : ArrivalCert) : Prop where
  direction : cert.direction ≠ .unknown
  carId : cert.carId ≠ []
  lane : certifiableLane cfg cert.physicalLaneIndex cert.lateralClaimCm = true
  size : (cert.echoes.length : ℤ) ≤ max 0 cfg.totalVehicles
  once : (eligibleSigners cfg cert.echoes).Nodup
  quorum : cfg.faults + 1 ≤ (cert.echoes.countP fun echo => isValidArrivalEchoForCert cfg cert echo : ℕ)

lemma validateArrivalCert_iff : validateArrivalCert cfg cert = true ↔ Accepted cfg cert := by
  have hcount := List.countP_le_length (p := fun echo => isValidArrivalEchoForCert cfg cert echo) (l := cert.echoes)
  have hloop := @foldl_checkEcho cfg cert cert.echoes ⟨[], 0⟩
  rw [validateArrivalCert]
  constructor
  · intro h
    split at h
    next => cases h
    next hhead =>
      split at h
      next => cases h
      next hsize =>
        push Not at hhead hsize
        split at h
        next => cases h
        next c hfold =>
          obtain ⟨hfresh, hvalid⟩ := (hloop c.valid).mp ⟨c, hfold, rfl⟩
          rw [decide_eq_true_eq, hvalid, Nat.zero_add] at h
          exact ⟨hhead.1, hhead.2.1, by simpa using hhead.2.2, hsize.2, hfresh.1, h⟩
  · intro h
    have hquorum := h.quorum
    have hsize := h.size
    obtain ⟨c, hfold, hvalid⟩ := (hloop _).mpr ⟨⟨h.once, fun _ _ => List.not_mem_nil⟩, rfl⟩
    rw [if_neg (by simp [h.direction, h.carId, h.lane]), if_neg (by omega), hfold]
    dsimp only
    rw [decide_eq_true_eq, hvalid, Nat.zero_add]
    exact hquorum

end V2vBft.Arrival
