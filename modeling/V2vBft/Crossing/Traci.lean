import V2vBft.Arrival.Announcement

/-! What a vehicle reads from TraCI about the junction, and what it concludes about the batches of the ORDER. -/

namespace V2vBft.Crossing

open Wire App Arrival

structure TraciVehicle where
  laneId : Bytes
  roadId : Bytes
  lanePosition : ℚ
  deriving DecidableEq

abbrev Traci := List (Bytes × TraciVehicle)

def internalLane (laneId : Bytes) : Bool := decide (laneId.head? = some 58)

def toUpper (c : UInt8) : UInt8 := if 97 ≤ c ∧ c ≤ 122 then c - 32 else c

def onDepartureLeg (roadId : Bytes) : Bool := decide ((roadId.take 2).map toUpper = ascii "C2")

def vehicleHasClearedIntersectionTraCI (traci : Traci) (carId : Bytes) : Bool :=
  match traci.lookup carId with
  | none => true
  | some v =>
    if v.laneId = [] then false
    else if internalLane v.laneId then false
    else if onDepartureLeg v.roadId then decide (3 ≤ v.lanePosition)
    else false

def vehicleInConflictBoxTraCI (traci : Traci) (carId : Bytes) : Bool :=
  match traci.lookup carId with
  | none => false
  | some v => !decide (v.laneId = []) && internalLane v.laneId

def isInOrPastConflictBox (departed : Bool) (traci : Traci) (carId : Bytes) : Bool :=
  if departed then true
  else
    match traci.lookup carId with
    | none => true
    | some v =>
      if v.laneId = [] then true else if internalLane v.laneId then true else onDepartureLeg v.roadId

def hasCleared (traci : Traci) (rid : ℤ) : Bool := vehicleHasClearedIntersectionTraCI traci (myCarId rid)

def inBox (traci : Traci) (rid : ℤ) : Bool := vehicleInConflictBoxTraCI traci (myCarId rid)

def hasEntered (traci : Traci) (rid : ℤ) : Bool := isInOrPastConflictBox false traci (myCarId rid)

def committedOrderBatches (order : OrderDecision) : List (List ℤ) :=
  (List.range order.nBatches).map fun b =>
    (order.decisions.filter fun d => decide (d.batchIndex = b)).map VehicleDecision.replicaId

def perceivedActiveBatch (batches : List (List ℤ)) (traci : Traci) : ℤ :=
  match batches.findIdx? fun batch => batch.any fun rid => !hasCleared traci rid with
  | some batch => batch
  | none => -1

def cancelLeaderCandidatesForBatch (batches : List (List ℤ)) (traci : Traci) (activeBatch : ℤ) : List ℤ :=
  if activeBatch < 0 then []
  else
    match ((batches.drop (activeBatch + 1).toNat).map (List.filter fun rid => !hasCleared traci rid)).find?
        fun waiting => !waiting.isEmpty with
    | none => []
    | some waiting => waiting.insertionSort (· ≤ ·)

variable {traci : Traci} {rid : ℤ}

lemma hasEntered_of_hasCleared (h : hasCleared traci rid = true) : hasEntered traci rid = true := by
  unfold hasCleared vehicleHasClearedIntersectionTraCI at h
  unfold hasEntered isInOrPastConflictBox
  cases hv : traci.lookup (myCarId rid) with
  | none => rfl
  | some v =>
    simp only [hv] at h
    simp only [Bool.false_eq_true, if_false]
    split at h
    next => simp at h
    next hlane =>
      split at h
      next => simp at h
      next hinternal =>
        split at h
        next hleg => rw [if_neg hlane, if_neg hinternal, hleg]
        next => simp at h

lemma hasEntered_of_inBox (h : inBox traci rid = true) : hasEntered traci rid = true := by
  unfold inBox vehicleInConflictBoxTraCI at h
  unfold hasEntered isInOrPastConflictBox
  cases hv : traci.lookup (myCarId rid) with
  | none => simp [hv] at h
  | some v => simp_all

lemma not_hasCleared_of_inBox (h : inBox traci rid = true) : hasCleared traci rid = false := by
  unfold inBox vehicleInConflictBoxTraCI at h
  unfold hasCleared vehicleHasClearedIntersectionTraCI
  cases hv : traci.lookup (myCarId rid) with
  | none => simp [hv] at h
  | some v => simp_all

end V2vBft.Crossing
