import V2vBft.Rollback.ClearTrailer

namespace V2vBft.Rollback

open Wire App

variable {ctx : WitnessContext} {stmt : WitnessStatement} {echoes : List WitnessEcho} {signer : ℤ}

def genuine (ctx : WitnessContext) (stmt : WitnessStatement) (signer : ℤ) (e : WitnessEcho) : Bool :=
  decide (e.signerId = signer) &&
    (ctx.keyMatches signer e.pubKey && ctx.verifyBytes e.pubKey (stmt.signPayload signer) e.sig)

def supporters (ctx : WitnessContext) (stmt : WitnessStatement) (echoes : List WitnessEcho) : Finset ℤ :=
  ctx.committedOrderVehicleIds.toFinset.filter fun signer => echoes.any (genuine ctx stmt signer) = true

def Exact (ctx : WitnessContext) (f : ℤ) (stmt : WitnessStatement) (echoes : List WitnessEcho) : Prop :=
  validateWitnesses ctx f stmt echoes = true ↔ f + 1 ≤ ((supporters ctx stmt echoes).card : ℤ)

def shadowed (ctx : WitnessContext) (stmt : WitnessStatement) (echoes : List WitnessEcho) : Finset ℤ :=
  (supporters ctx stmt echoes).filter fun signer => standsBehind ctx stmt echoes signer = false

lemma standsBehind_genuine (h : standsBehind ctx stmt echoes signer = true) :
    echoes.any (genuine ctx stmt signer) = true := by
  obtain ⟨-, hfirst⟩ := Bool.and_eq_true_iff.mp h
  obtain ⟨e, hfind, hvalid⟩ := (Option.any_eq_true _ _).mp hfirst
  have hfound := List.find?_some hfind
  have hid : e.signerId = signer := of_decide_eq_true (Bool.and_eq_true_iff.mp hfound).1
  refine List.any_eq_true.mpr ⟨e, List.mem_of_find?_eq_some hfind, ?_⟩
  rw [genuine, decide_eq_true hid, Bool.true_and, ← hid]
  exact hvalid

lemma counted_eq {ctx : WitnessContext} {stmt : WitnessStatement} {heard bucket : List WitnessEcho} (h : bucket ⊆ heard) :
    (backers ctx stmt bucket).filter (fun signer => signer ∈ ctx.committedOrderVehicleIds) =
      (supporters ctx stmt heard).filter fun signer => ¬standsBehind ctx stmt bucket signer = false := by
  ext signer
  rw [Finset.mem_filter, mem_backers, Finset.mem_filter, supporters, Finset.mem_filter, List.mem_toFinset,
    Bool.not_eq_false]
  constructor
  · rintro ⟨hstands, hmem⟩
    obtain ⟨e, he, hgenuine⟩ := List.any_eq_true.mp (standsBehind_genuine hstands)
    exact ⟨⟨hmem, List.any_eq_true.mpr ⟨e, h he, hgenuine⟩⟩, hstands⟩
  · rintro ⟨⟨hmem, -⟩, hstands⟩
    exact ⟨hstands, hmem⟩

theorem validate_exact_iff (ctx : WitnessContext) (f : ℤ) (stmt : WitnessStatement) (echoes : List WitnessEcho) :
    Exact ctx f stmt echoes ↔
      ((supporters ctx stmt echoes).card : ℤ) < f + 1 ∨
        f + 1 + (shadowed ctx stmt echoes).card ≤ ((supporters ctx stmt echoes).card : ℤ) := by
  have hsplit := Finset.card_filter_add_card_filter_not (s := supporters ctx stmt echoes)
    fun signer => standsBehind ctx stmt echoes signer = false
  rw [Exact, validateWitnesses_eq, counted_eq (List.Subset.refl echoes), decide_eq_true_eq, shadowed]
  omega

def signedBy (signer : ℤ) (key : UInt8) (stmt : WitnessStatement) : WitnessEcho :=
  ⟨signer, [key], key :: stmt.signPayload signer⟩

def fourMembers : WitnessContext where
  toleratedFaults := 1
  totalVehicles := 4
  committedOrderVehicleIds := [0, 1, 2, 3]
  registeredKeys := [(0, [10]), (1, [11]), (2, [12]), (3, [13])]
  verifyBytes := fun pubKey msg sig => decide (sig = pubKey ++ msg)

def batchBlocked : WitnessStatement := ⟨0, .cancelCrash, ascii "blocked_batch:0:1"⟩

-- one junk echo under the id of car 0, before or behind its own
theorem junkEcho_hides_signer :
    ¬Exact fourMembers 1 batchBlocked
        [⟨0, [13], [1]⟩, signedBy 0 10 batchBlocked, signedBy 1 11 batchBlocked] ∧
      Exact fourMembers 1 batchBlocked
        [signedBy 0 10 batchBlocked, ⟨0, [13], [1]⟩, signedBy 1 11 batchBlocked] := by
  refine ⟨?_, ?_⟩
  · unfold Exact
    decide +kernel
  · unfold Exact
    decide +kernel

end V2vBft.Rollback
