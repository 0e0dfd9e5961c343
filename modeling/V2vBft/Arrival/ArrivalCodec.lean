import V2vBft.Arrival.Cert

namespace V2vBft.Arrival

open Wire App

def claimHashBytes : ℕ := 32

def cueFromCode (code : ℕ) : ObservedCue :=
  match code with
  | 0 => .straight
  | 1 => .left
  | 2 => .right
  | _ => .unknown

def cueOfField (v : ℤ) : ObservedCue := cueFromCode (v % 256).toNat

def emptyArrivalEcho : ArrivalEcho where
  echoingReplicaId := -1
  targetCarId := []
  lane := []
  positionInLane := 1
  physicalLaneIndex := 0
  lateralClaimCm := 0
  direction := .straight
  observedCue := .unknown
  claimHash := zeros claimHashBytes
  isAmbulance := false
  epoch := 0
  signerPubKey := zeros cryptoPubkeyBytes
  signature := []

def emptyArrivalCert : ArrivalCert := ⟨[], [], 1, 0, 0, .straight, zeros claimHashBytes, false, 0, []⟩

-- "pubkey,length,signature buffer": the key and the used bytes of the buffer; none: a conversion throws
def parseSignatureField (sf : Bytes) : Option (Bytes × Bytes) :=
  if 44 ∉ sf then some (zeros cryptoPubkeyBytes, [])
  else
    let tail := (sf.dropWhile (· ≠ 44)).drop 1
    if 44 ∉ tail then some (zeros cryptoPubkeyBytes, [])
    else
      match fromHex (sf.takeWhile (· ≠ 44)), stoi (tail.takeWhile (· ≠ 44)),
          fromHex ((tail.dropWhile (· ≠ 44)).drop 1) with
      | some pub, some sigLen, some buffer =>
        some (if pub.length = cryptoPubkeyBytes then pub else zeros cryptoPubkeyBytes,
          if 0 < sigLen ∧ sigLen ≤ cryptoSigMaxBytes ∧ buffer.length = cryptoSigMaxBytes then
            buffer.take sigLen.toNat
          else [])
      | _, _, _ => none

def deserializeArrivalEcho (payload : Bytes) : Option ArrivalEcho :=
  let parts := splitStr payload 124
  if parts.length < 12 then some emptyArrivalEcho
  else
    let part := fun i => parts.getD i []
    match stoi (part 0), stoi (part 3), stolInt32 (part 4), stoi (part 5), stoi (part 7), fromHex (part 8),
        stoi (part 10), parseSignatureField (part 11) with
    | some signer, some physical, some lateral, some position, some cue, some hash, some epoch, some (pub, sig) =>
      some
        { echoingReplicaId := signer
          targetCarId := part 1
          lane := part 2
          positionInLane := position
          physicalLaneIndex := physical
          lateralClaimCm := lateral
          direction := strToDir (part 6)
          observedCue := cueOfField cue
          claimHash := if hash.length = claimHashBytes then hash else zeros claimHashBytes
          isAmbulance := decide (part 9 = ascii "1")
          epoch := epoch
          signerPubKey := pub
          signature := sig }
    | _, _, _, _, _, _, _, _ => none

def certEcho (cert : ArrivalCert) (signer : ℤ) (cue : ObservedCue) (pub sig : Bytes) : ArrivalEcho where
  echoingReplicaId := signer
  targetCarId := cert.carId
  lane := cert.lane
  positionInLane := cert.positionInLane
  physicalLaneIndex := cert.physicalLaneIndex
  lateralClaimCm := cert.lateralClaimCm
  direction := cert.direction
  observedCue := cue
  claimHash := cert.claimHash
  isAmbulance := cert.isAmbulance
  epoch := cert.epoch
  signerPubKey := pub
  signature := sig

-- "signer:cue:signature field"; none: a conversion throws, some none: the part is skipped
def parseArrivalPart (cert : ArrivalCert) (part : Bytes) : Option (Option ArrivalEcho) :=
  if 58 ∉ part then some none
  else
    let tail := (part.dropWhile (· ≠ 58)).drop 1
    if 58 ∉ tail then some none
    else
      match stoi (part.takeWhile (· ≠ 58)), stoi (tail.takeWhile (· ≠ 58)),
          parseSignatureField ((tail.dropWhile (· ≠ 58)).drop 1) with
      | some signer, some cue, some (pub, sig) => some (some (certEcho cert signer (cueOfField cue) pub sig))
      | _, _, _ => none

def deserializeArrivalCert (payload : Bytes) : Option ArrivalCert :=
  let parts := splitStr payload 124
  if parts.length < 9 then some emptyArrivalCert
  else
    let part := fun i => parts.getD i []
    match stoi (part 2), stolInt32 (part 3), stoi (part 4), fromHex (part 6) with
    | some physical, some lateral, some position, some hash =>
      if hash.length ≠ claimHashBytes then some emptyArrivalCert
      else
        match stoi (part 8) with
        | none => none
        | some epoch =>
          let cert : ArrivalCert :=
            { carId := part 0
              lane := part 1
              positionInLane := position
              physicalLaneIndex := physical
              lateralClaimCm := lateral
              direction := strToDir (part 5)
              claimHash := hash
              isAmbulance := decide (part 7 = ascii "1")
              epoch := epoch
              echoes := [] }
          ((parts.drop 9).mapM (parseArrivalPart cert)).map fun echoes => { cert with echoes := echoes.filterMap id }
    | _, _, _, _ => none

end V2vBft.Arrival
