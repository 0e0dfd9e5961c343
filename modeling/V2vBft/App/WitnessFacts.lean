import V2vBft.App.WitnessCert

namespace V2vBft.App

open Wire

variable {ctx : WitnessContext} {stmt : WitnessStatement}

def Signed (ctx : WitnessContext) (stmt : WitnessStatement) (signer : ℤ) : Prop :=
  ∃ pubKey sig, ctx.registeredKeys.lookup signer = some pubKey ∧
    ctx.verifyBytes pubKey (stmt.signPayload signer) sig = true

structure Counted (ctx : WitnessContext) (stmt : WitnessStatement) (s : ValidateState) (signers : Finset ℤ) : Prop where
  card : signers.card = s.valid
  seen : ∀ i ∈ signers, i ∈ s.seen
  committed : ∀ i ∈ signers, i ∈ ctx.committedOrderVehicleIds
  signed : ∀ i ∈ signers, Signed ctx stmt i

lemma Counted.see {s : ValidateState} {signers : Finset ℤ} (h : Counted ctx stmt s signers) (i : ℤ) :
    Counted ctx stmt ⟨i :: s.seen, s.valid⟩ signers :=
  ⟨h.card, fun j hj => List.mem_cons_of_mem i (h.seen j hj), h.committed, h.signed⟩

lemma Counted.count {s : ValidateState} {signers : Finset ℤ} {i : ℤ} (h : Counted ctx stmt s signers)
    (hnew : i ∉ s.seen) (hmem : i ∈ ctx.committedOrderVehicleIds) (hsigned : Signed ctx stmt i) :
    Counted ctx stmt ⟨i :: s.seen, s.valid + 1⟩ (insert i signers) where
  card := by rw [Finset.card_insert_of_notMem fun hi => hnew (h.seen i hi), h.card]
  seen := by
    intro j hj
    rcases Finset.mem_insert.mp hj with rfl | hj
    · exact List.mem_cons_self
    · exact List.mem_cons_of_mem i (h.seen j hj)
  committed := by
    intro j hj
    rcases Finset.mem_insert.mp hj with rfl | hj
    · exact hmem
    · exact h.committed j hj
  signed := by
    intro j hj
    rcases Finset.mem_insert.mp hj with rfl | hj
    · exact hsigned
    · exact h.signed j hj

lemma validateEcho_counted {s : ValidateState} {signers : Finset ℤ} (h : Counted ctx stmt s signers)
    (echo : WitnessEcho) : ∃ signers', Counted ctx stmt (validateEcho ctx stmt s echo) signers' := by
  unfold validateEcho
  split
  next => exact ⟨signers, h⟩
  next =>
    split
    next => exact ⟨signers, h⟩
    next hmem =>
      split
      next => exact ⟨signers, h⟩
      next hnew =>
        split
        next hvalid =>
          simp only [Bool.and_eq_true, WitnessContext.keyMatches, decide_eq_true_eq] at hvalid
          exact ⟨_, h.count hnew (not_not.mp hmem) ⟨_, _, hvalid.1, hvalid.2⟩⟩
        next => exact ⟨signers, h.see echo.signerId⟩

lemma foldl_validateEcho_counted (echoes : List WitnessEcho) {s : ValidateState} {signers : Finset ℤ}
    (h : Counted ctx stmt s signers) :
    ∃ signers', Counted ctx stmt (echoes.foldl (validateEcho ctx stmt) s) signers' := by
  induction echoes generalizing s signers with
  | nil => exact ⟨signers, h⟩
  | cons echo echoes ih =>
    obtain ⟨signers', h'⟩ := validateEcho_counted h echo
    exact ih h'

theorem validateWitnesses_signers {f : ℤ} {echoes : List WitnessEcho}
    (h : validateWitnesses ctx f stmt echoes = true) :
    ∃ signers : Finset ℤ, f + 1 ≤ signers.card ∧ (∀ i ∈ signers, i ∈ ctx.committedOrderVehicleIds) ∧
      ∀ i ∈ signers, Signed ctx stmt i := by
  unfold validateWitnesses at h
  dsimp only at h
  split at h
  next => exact absurd h (by simp)
  next =>
    obtain ⟨signers, hs⟩ := foldl_validateEcho_counted echoes
      (⟨rfl, by simp, by simp, by simp⟩ : Counted ctx stmt ⟨[], 0⟩ ∅)
    refine ⟨signers, ?_, hs.committed, hs.signed⟩
    rw [hs.card]
    exact of_decide_eq_true h

lemma validateCancelCert_signers {cert : CancelCert} (h : validateCancelCert ctx cert = true) :
    ∃ signers : Finset ℤ, anchoredFaults ctx.toleratedFaults ctx.totalVehicles + 1 ≤ signers.card ∧
      (∀ i ∈ signers, i ∈ ctx.committedOrderVehicleIds) ∧ ∀ i ∈ signers, Signed ctx cert.statement i := by
  unfold validateCancelCert at h
  split at h
  next => exact absurd h (by simp)
  next => exact validateWitnesses_signers h

theorem validateCancelCert_witnessed {cert : CancelCert} (h : validateCancelCert ctx cert = true)
    (faulty : Finset ℤ)
    (hf : ((ctx.committedOrderVehicleIds.toFinset ∩ faulty).card : ℤ) ≤
      anchoredFaults ctx.toleratedFaults ctx.totalVehicles)
    (witnessed : ℤ → WitnessStatement → Prop)
    (hsign : ∀ i ∉ faulty, ∀ stmt, Signed ctx stmt i → witnessed i stmt) :
    ∃ i ∈ ctx.committedOrderVehicleIds, i ∉ faulty ∧ witnessed i cert.statement := by
  obtain ⟨signers, hcard, hmem, hsigned⟩ := validateCancelCert_signers h
  obtain ⟨i, hi, hcorrect⟩ : ∃ i ∈ signers, i ∉ faulty := by
    by_contra hnone
    push Not at hnone
    have hsub : signers ⊆ ctx.committedOrderVehicleIds.toFinset ∩ faulty := fun i hi =>
      Finset.mem_inter.mpr ⟨List.mem_toFinset.mpr (hmem i hi), hnone i hi⟩
    have hle := Finset.card_le_card hsub
    omega
  exact ⟨i, hmem i hi, hcorrect, hsign i hcorrect _ (hsigned i hi)⟩

end V2vBft.App
