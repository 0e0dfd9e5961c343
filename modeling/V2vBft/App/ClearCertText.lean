import V2vBft.App.EchoText

namespace V2vBft.App

open Wire

def ClearEcho.part (echo : ClearEcho) : Bytes :=
  decimalInt echo.echoingReplicaId ++ ascii ":" ++ toHex echo.signerPubKey ++ ascii "," ++ toHex echo.signature

def serializeClearCert (cert : ClearCert) : Bytes :=
  ascii "CLEAR_CERT|" ++ decimalNat cert.cancelledEpoch ++ ascii "|" ++ decimalNat cert.executingBatch ++
    cert.echoes.flatMap fun echo => ascii "|" ++ echo.part

structure ClearEcho.Fits (cert : ClearCert) (e : ClearEcho) : Prop where
  epoch : e.cancelledEpoch = cert.cancelledEpoch
  batch : e.executingBatch = cert.executingBatch
  replicaId : -2147483648 ≤ e.echoingReplicaId ∧ e.echoingReplicaId < 2147483648
  pubKey : e.signerPubKey.length = cryptoPubkeyBytes
  signature : e.signature.length ≤ cryptoSigMaxBytes

structure ClearCert.Formed (cert : ClearCert) : Prop where
  epoch : cert.cancelledEpoch < uint32Modulus
  batch : cert.executingBatch < uint32Modulus
  echoes : ∀ e ∈ cert.echoes, e.Fits cert

instance (cert : ClearCert) (e : ClearEcho) : Decidable (e.Fits cert) :=
  decidable_of_iff (e.cancelledEpoch = cert.cancelledEpoch ∧ e.executingBatch = cert.executingBatch ∧
      (-2147483648 ≤ e.echoingReplicaId ∧ e.echoingReplicaId < 2147483648) ∧ e.signerPubKey.length = cryptoPubkeyBytes ∧
      e.signature.length ≤ cryptoSigMaxBytes)
    ⟨fun ⟨h₁, h₂, h₃, h₄, h₅⟩ => ⟨h₁, h₂, h₃, h₄, h₅⟩, fun h => ⟨h.1, h.2, h.3, h.4, h.5⟩⟩

instance (cert : ClearCert) : Decidable cert.Formed :=
  decidable_of_iff (cert.cancelledEpoch < uint32Modulus ∧ cert.executingBatch < uint32Modulus ∧
      ∀ e ∈ cert.echoes, e.Fits cert)
    ⟨fun ⟨h₁, h₂, h₃⟩ => ⟨h₁, h₂, h₃⟩, fun h => ⟨h.1, h.2, h.3⟩⟩

lemma ClearEcho.part_eq (e : ClearEcho) : e.part = e.toWitnessEcho.part := rfl

lemma ClearEcho.Fits.echo {cert : ClearCert} {e : ClearEcho} (h : e.Fits cert) : e.toWitnessEcho.Fits :=
  ⟨h.replicaId, h.pubKey, h.signature⟩

lemma split_serializeClearCert (cert : ClearCert) :
    splitStr (serializeClearCert cert) 124 =
      [ascii "CLEAR_CERT", decimalNat cert.cancelledEpoch, decimalNat cert.executingBatch] ++
        (cert.echoes.map ClearEcho.toWitnessEcho).map WitnessEcho.part := by
  have htag : ascii "CLEAR_CERT|" = ascii "CLEAR_CERT" ++ [124] := by decide
  have hbar : ascii "|" = [124] := by decide
  have hfields : ∀ p ∈ [ascii "CLEAR_CERT", decimalNat cert.cancelledEpoch, decimalNat cert.executingBatch],
      (124 : UInt8) ∉ p := by
    simp only [List.forall_mem_cons, List.not_mem_nil, false_imp_iff, implies_true, and_true]
    exact ⟨by decide, decimalNat_notMem (by decide), decimalNat_notMem (by decide)⟩
  rw [← splitStr_parts _ (by simp) hfields, serializeClearCert, htag, List.flatMap_map]
  simp only [List.intercalate_cons_cons, List.intercalate_singleton, hbar, ClearEcho.part_eq, List.append_assoc]

theorem deserialize_serializeClearCert {cert : ClearCert} (h : cert.Formed) :
    deserializeClearCert (serializeClearCert cert) = some cert := by
  have hechoes : cert.echoes.map (fun e =>
      (⟨e.echoingReplicaId, cert.cancelledEpoch, cert.executingBatch, e.signerPubKey, e.signature⟩ : ClearEcho)) =
        cert.echoes := by
    conv_rhs => rw [← List.map_id cert.echoes]
    refine List.map_congr_left fun e he => ?_
    rw [← (h.echoes e he).epoch, ← (h.echoes e he).batch]
    rfl
  have hmod : ∀ n, n < uint32Modulus → stoul (decimalNat n) = some n ∧ toUint32 n = n := by
    intro n hn
    rw [uint32Modulus] at hn
    exact ⟨stoul_decimalNat (by omega), Nat.mod_eq_of_lt hn⟩
  have hfits : ∀ e ∈ cert.echoes.map ClearEcho.toWitnessEcho, e.Fits := by
    intro e he
    obtain ⟨echo, hmem, rfl⟩ := List.mem_map.mp he
    exact (h.echoes echo hmem).echo
  rw [deserializeClearCert, split_serializeClearCert, if_neg (by simp)]
  simp only [List.cons_append, List.nil_append, List.getD_cons_succ, List.getD_cons_zero, List.drop_succ_cons,
    List.drop_zero, (hmod _ h.epoch).1, (hmod _ h.batch).1, parseEchoParts_parts hfits, (hmod _ h.epoch).2,
    (hmod _ h.batch).2]
  simp only [List.map_map, Function.comp_def, ClearEcho.toWitnessEcho, hechoes]

lemma deserializeClearCert_formed {payload : Bytes} {cert : ClearCert} (h : deserializeClearCert payload = some cert) :
    cert.Formed := by
  rw [deserializeClearCert] at h
  split at h
  next =>
    obtain rfl := Option.some.inj h
    exact ⟨by decide, by decide, fun e he => absurd he List.not_mem_nil⟩
  next =>
    split at h
    next epoch batch echoes _ _ hechoes =>
      obtain rfl := Option.some.inj h
      refine ⟨Nat.mod_lt _ (by decide), Nat.mod_lt _ (by decide), fun e he => ?_⟩
      obtain ⟨read, hread, rfl⟩ := List.mem_map.mp he
      have hfits := parseEchoParts_fits hechoes read hread
      exact ⟨rfl, rfl, hfits.signerId, hfits.pubKey, hfits.sig⟩
    next => cases h

end V2vBft.App
