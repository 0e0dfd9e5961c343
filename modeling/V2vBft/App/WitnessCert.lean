import V2vBft.Wire.Text

namespace V2vBft.App

open Wire

def cryptoPubkeyBytes : ℕ := 33
def cryptoSigMaxBytes : ℕ := 72

inductive WitnessKind
  | cancelCrash
  | cancelEmergency
  | clear
  deriving DecidableEq, Repr

def WitnessKind.code : WitnessKind → ℕ
  | .cancelCrash => 0
  | .cancelEmergency => 1
  | .clear => 2

structure WitnessStatement where
  epoch : ℕ
  kind : WitnessKind
  subjectRef : Bytes
  deriving DecidableEq, Repr

def WitnessStatement.collectorKey (stmt : WitnessStatement) : Bytes :=
  decimalNat stmt.epoch ++ ascii ":" ++ decimalNat stmt.kind.code ++ ascii ":" ++ stmt.subjectRef

def WitnessStatement.signPayload (stmt : WitnessStatement) (signerId : ℤ) : Bytes :=
  stmt.collectorKey ++ ascii ":" ++ decimalInt signerId

structure WitnessEcho where
  signerId : ℤ
  pubKey : Bytes
  sig : Bytes
  deriving DecidableEq, Repr

abbrev Verifier := Bytes → Bytes → Bytes → Bool

structure WitnessContext where
  toleratedFaults : ℤ
  totalVehicles : ℤ
  committedOrderVehicleIds : List ℤ
  registeredKeys : List (ℤ × Bytes)
  verifyBytes : Verifier

def WitnessContext.keyMatches (ctx : WitnessContext) (signerId : ℤ) (pubKey : Bytes) : Bool :=
  decide (ctx.registeredKeys.lookup signerId = some pubKey)

def anchoredFaults (configuredF totalVehicles : ℤ) : ℤ :=
  if configuredF ≥ 0 then configuredF else (totalVehicles - 1).tdiv 3

structure ValidateState where
  seen : List ℤ
  valid : ℕ

def validateEcho (ctx : WitnessContext) (stmt : WitnessStatement) (s : ValidateState) (echo : WitnessEcho) :
    ValidateState :=
  if echo.signerId < 0 ∨ echo.sig = [] then s
  else if echo.signerId ∉ ctx.committedOrderVehicleIds then s
  else if echo.signerId ∈ s.seen then s
  else if ctx.keyMatches echo.signerId echo.pubKey &&
      ctx.verifyBytes echo.pubKey (stmt.signPayload echo.signerId) echo.sig then
    ⟨echo.signerId :: s.seen, s.valid + 1⟩
  else ⟨echo.signerId :: s.seen, s.valid⟩

def validateWitnesses (ctx : WitnessContext) (f : ℤ) (stmt : WitnessStatement) (echoes : List WitnessEcho) : Bool :=
  let required := f + 1
  if (echoes.length : ℤ) < required then false
  else decide (required ≤ (echoes.foldl (validateEcho ctx stmt) ⟨[], 0⟩).valid)

structure CancelEcho where
  echoingReplicaId : ℤ
  cancelledEpoch : ℕ
  reason : ℤ
  reasonRef : Bytes
  signerPubKey : Bytes
  signature : Bytes
  deriving DecidableEq, Repr

structure CancelCert where
  cancelledEpoch : ℕ
  reason : ℤ
  reasonRef : Bytes
  echoes : List CancelEcho
  deriving DecidableEq, Repr

def cancelCrash : ℤ := 0
def cancelEmergency : ℤ := 1

def toWitnessKind (reason : ℤ) : WitnessKind := if reason = cancelCrash then .cancelCrash else .cancelEmergency

def CancelEcho.toWitnessEcho (e : CancelEcho) : WitnessEcho := ⟨e.echoingReplicaId, e.signerPubKey, e.signature⟩

-- one "signer:pubkey,signature" part; none: a number or hex conversion throws, some none: the part is skipped
def parseEchoPart (part : Bytes) : Option (Option WitnessEcho) :=
  if 58 ∉ part then some none
  else
    let tail := (part.dropWhile (· ≠ 58)).drop 1
    if 44 ∉ tail then some none
    else
      match stoi (part.takeWhile (· ≠ 58)), fromHex (tail.takeWhile (· ≠ 44)),
          fromHex ((tail.dropWhile (· ≠ 44)).drop 1) with
      | some signer, some pub, some sig =>
        some (some
          { signerId := signer
            pubKey := if pub.length = cryptoPubkeyBytes then pub else zeros cryptoPubkeyBytes
            sig := if sig.length ≤ cryptoSigMaxBytes then sig else [] })
      | _, _, _ => none

def parseEchoParts (parts : List Bytes) : Option (List WitnessEcho) :=
  (parts.mapM parseEchoPart).map fun echoes => echoes.filterMap id

def emptyCancelCert : CancelCert := ⟨0, cancelCrash, [], []⟩

def deserializeCancelCert (payload : Bytes) : Option CancelCert :=
  let parts := splitStr payload 124
  if parts.length < 4 ∨ parts.head? ≠ some (ascii "CANCEL_CERT") then some emptyCancelCert
  else
    match stoul (parts.getD 1 []), stoi (parts.getD 2 []), parseEchoParts (parts.drop 4) with
    | some epoch, some reason, some echoes =>
      let ref := parts.getD 3 []
      some ⟨toUint32 epoch, reason, ref,
        echoes.map fun e => ⟨e.signerId, toUint32 epoch, reason, ref, e.pubKey, e.sig⟩⟩
    | _, _, _ => none

def CancelCert.statement (cert : CancelCert) : WitnessStatement :=
  ⟨cert.cancelledEpoch, toWitnessKind cert.reason, cert.reasonRef⟩

def validateCancelCert (ctx : WitnessContext) (cert : CancelCert) : Bool :=
  if cert.reason ≠ cancelCrash ∧ cert.reason ≠ cancelEmergency then false
  else
    let echoes := cert.echoes.filter fun e =>
      decide (e.cancelledEpoch = cert.cancelledEpoch) && decide (e.reason = cert.reason) &&
        decide (e.reasonRef = cert.reasonRef) && decide (e.signature ≠ [])
    validateWitnesses ctx (anchoredFaults ctx.toleratedFaults ctx.totalVehicles) cert.statement
      (echoes.map CancelEcho.toWitnessEcho)

structure ClearEcho where
  echoingReplicaId : ℤ
  cancelledEpoch : ℕ
  executingBatch : ℕ
  signerPubKey : Bytes
  signature : Bytes
  deriving DecidableEq, Repr

structure ClearCert where
  cancelledEpoch : ℕ
  executingBatch : ℕ
  echoes : List ClearEcho
  deriving DecidableEq, Repr

def ClearEcho.toWitnessEcho (e : ClearEcho) : WitnessEcho := ⟨e.echoingReplicaId, e.signerPubKey, e.signature⟩

def formatBlockedBatchRef (cancelledEpoch executingBatch : ℕ) : Bytes :=
  ascii "blocked_batch:" ++ decimalNat cancelledEpoch ++ ascii ":" ++ decimalNat executingBatch

def deserializeClearCert (payload : Bytes) : Option ClearCert :=
  let parts := splitStr payload 124
  if parts.length < 3 ∨ parts.head? ≠ some (ascii "CLEAR_CERT") then some ⟨0, 0, []⟩
  else
    match stoul (parts.getD 1 []), stoul (parts.getD 2 []), parseEchoParts (parts.drop 3) with
    | some epoch, some batch, some echoes =>
      some ⟨toUint32 epoch, toUint32 batch,
        echoes.map fun e => ⟨e.signerId, toUint32 epoch, toUint32 batch, e.pubKey, e.sig⟩⟩
    | _, _, _ => none

def validateClearCert (ctx : WitnessContext) (cert : ClearCert) : Bool :=
  let echoes := cert.echoes.filter fun e =>
    decide (e.cancelledEpoch = cert.cancelledEpoch) && decide (e.executingBatch = cert.executingBatch) &&
      decide (e.signature ≠ [])
  validateWitnesses ctx (anchoredFaults ctx.toleratedFaults ctx.totalVehicles)
    ⟨cert.cancelledEpoch, .clear, formatBlockedBatchRef cert.cancelledEpoch cert.executingBatch⟩
    (echoes.map ClearEcho.toWitnessEcho)

end V2vBft.App
