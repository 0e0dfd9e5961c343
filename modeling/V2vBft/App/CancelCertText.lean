import V2vBft.App.EchoText

namespace V2vBft.App

open Wire

variable {cert : CancelCert}

def cleanRef (ref : Bytes) : Bytes := ref.map fun b => if b = 124 then 95 else b

def cancelEchoPart (echo : CancelEcho) : Bytes :=
  decimalInt echo.echoingReplicaId ++ ascii ":" ++ toHex echo.signerPubKey ++ ascii "," ++ toHex echo.signature

def serializeCancelCert (cert : CancelCert) : Bytes :=
  ascii "CANCEL_CERT|" ++ decimalNat cert.cancelledEpoch ++ ascii "|" ++ decimalInt cert.reason ++ ascii "|" ++
    cleanRef cert.reasonRef ++ cert.echoes.flatMap fun echo => ascii "|" ++ cancelEchoPart echo

structure CancelEcho.Fits (cert : CancelCert) (e : CancelEcho) : Prop where
  epoch : e.cancelledEpoch = cert.cancelledEpoch
  reason : e.reason = cert.reason
  reasonRef : e.reasonRef = cert.reasonRef
  echo : e.toWitnessEcho.Fits

structure CancelCert.Formed (cert : CancelCert) : Prop where
  epoch : cert.cancelledEpoch < uint32Modulus
  reason : -2147483648 ≤ cert.reason ∧ cert.reason < 2147483648
  reasonRef : 124 ∉ cert.reasonRef
  echoes : ∀ e ∈ cert.echoes, e.Fits cert

lemma cleanRef_eq {ref : Bytes} (h : 124 ∉ ref) : cleanRef ref = ref := by
  refine (List.map_congr_left fun b hb => ?_).trans (List.map_id ref)
  exact if_neg fun heq : b = 124 => h (heq ▸ hb)

lemma cleanRef_notMem (ref : Bytes) : (124 : UInt8) ∉ cleanRef ref := by
  intro h
  obtain ⟨b, -, hb⟩ := List.mem_map.mp h
  split at hb
  next => exact absurd hb (by decide)
  next hne => exact hne hb

lemma cancelEchoPart_eq (e : CancelEcho) : cancelEchoPart e = e.toWitnessEcho.part := rfl

lemma split_serializeCancelCert (cert : CancelCert) :
    splitStr (serializeCancelCert cert) 124 =
      [ascii "CANCEL_CERT", decimalNat cert.cancelledEpoch, decimalInt cert.reason, cleanRef cert.reasonRef] ++
        (cert.echoes.map CancelEcho.toWitnessEcho).map WitnessEcho.part := by
  have htag : ascii "CANCEL_CERT|" = ascii "CANCEL_CERT" ++ [124] := by decide
  have hbar : ascii "|" = [124] := by decide
  have hfields : ∀ p ∈ [ascii "CANCEL_CERT", decimalNat cert.cancelledEpoch, decimalInt cert.reason,
      cleanRef cert.reasonRef], (124 : UInt8) ∉ p := by
    simp only [List.forall_mem_cons, List.not_mem_nil, false_imp_iff, implies_true, and_true]
    exact ⟨by decide, decimalNat_notMem (by decide), decimalInt_notMem (by decide) (by decide), cleanRef_notMem _⟩
  rw [← splitStr_parts _ (by simp) hfields, serializeCancelCert, htag, List.flatMap_map]
  simp only [List.intercalate_cons_cons, List.intercalate_singleton, hbar, cancelEchoPart_eq, List.append_assoc]

theorem deserialize_serializeCancelCert (h : cert.Formed) :
    deserializeCancelCert (serializeCancelCert cert) = some cert := by
  have hechoes : cert.echoes.map (fun e => (⟨e.echoingReplicaId, cert.cancelledEpoch, cert.reason, cert.reasonRef,
      e.signerPubKey, e.signature⟩ : CancelEcho)) = cert.echoes := by
    refine (List.map_congr_left fun e he => ?_).trans (List.map_id cert.echoes)
    have hfits := h.echoes e he
    rw [← hfits.epoch, ← hfits.reason, ← hfits.reasonRef]
    rfl
  have hfits : ∀ e ∈ cert.echoes.map CancelEcho.toWitnessEcho, e.Fits := by
    intro e he
    obtain ⟨echo, hmem, rfl⟩ := List.mem_map.mp he
    exact (h.echoes echo hmem).echo
  have hepoch := h.epoch
  have hmod : toUint32 cert.cancelledEpoch = cert.cancelledEpoch := Nat.mod_eq_of_lt hepoch
  rw [uint32Modulus] at hepoch
  rw [deserializeCancelCert, split_serializeCancelCert, if_neg (by simp)]
  simp only [List.cons_append, List.nil_append, List.getD_cons_succ, List.getD_cons_zero, List.drop_succ_cons,
    List.drop_zero, stoul_decimalNat (by omega : cert.cancelledEpoch < 18446744073709551616),
    stoi_decimalInt h.reason, parseEchoParts_parts hfits, hmod, cleanRef_eq h.reasonRef]
  simp only [List.map_map, Function.comp_def, CancelEcho.toWitnessEcho, hechoes]

lemma deserializeCancelCert_formed {payload : Bytes} (h : deserializeCancelCert payload = some cert) : cert.Formed := by
  rw [deserializeCancelCert] at h
  dsimp only at h
  split at h
  next =>
    obtain rfl := Option.some.inj h
    exact ⟨by decide, by decide, List.not_mem_nil, fun e he => absurd he List.not_mem_nil⟩
  next =>
    split at h
    next epoch reason echoes _ hreason hechoes =>
      obtain rfl := Option.some.inj h
      refine ⟨Nat.mod_lt _ (by decide), stoi_range hreason, getD_splitStr_notMem _ _ _, fun e he => ?_⟩
      obtain ⟨read, hread, rfl⟩ := List.mem_map.mp he
      exact ⟨rfl, rfl, rfl, parseEchoParts_fits hechoes read hread⟩
    next => cases h

end V2vBft.App
