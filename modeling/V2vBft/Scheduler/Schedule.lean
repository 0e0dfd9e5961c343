import V2vBft.Wire.Records

/-! The intersection scheduler: the work queue, the greedy batches and the decision vector. -/

namespace V2vBft.Scheduler

open Wire

def kSafe : List (ℕ × ℕ × ℕ × ℕ) :=
  [(0, 0, 1, 0), (2, 0, 3, 0), (0, 2, 1, 2), (0, 2, 2, 2),
   (0, 2, 3, 2), (1, 2, 2, 2), (1, 2, 3, 2), (2, 2, 3, 2),
   (0, 2, 1, 0), (1, 2, 0, 0), (2, 2, 3, 0), (3, 2, 2, 0)]

def isSafeToBatch (laneA dirA laneB dirB : ℕ) : Bool :=
  if laneA = laneB then false
  else kSafe.any fun p =>
    decide (laneA = p.1 ∧ dirA = p.2.1 ∧ laneB = p.2.2.1 ∧ dirB = p.2.2.2) ||
      decide (laneA = p.2.2.1 ∧ dirA = p.2.2.2 ∧ laneB = p.1 ∧ dirB = p.2.1)

def isQuietEntry (e : VehicleEntry) : Bool := decide (e.cyberStatus = 0) || decide (e.simTimeUs = uint64Max)

def compareLaneQueueOrder (a b : VehicleEntry) : ℤ :=
  if a.positionInLane ≠ b.positionInLane then (a.positionInLane : ℤ) - b.positionInLane
  else if a.replicaId < b.replicaId then -1
  else if a.replicaId > b.replicaId then 1
  else 0

def allSameLaneFrontPlaced (candidate : VehicleEntry) (view : List VehicleEntry) (placed : List ℤ) : Bool :=
  view.all fun v =>
    decide (v.lane ≠ candidate.lane) ||
      !(decide (compareLaneQueueOrder v candidate < 0) && decide (v.replicaId ∉ placed))

def safeWithWholeBatch (e : VehicleEntry) (batch : List VehicleEntry) : Bool :=
  if isQuietEntry e then false
  else batch.all fun b => isSafeToBatch e.lane e.direction b.lane b.direction

def isPriorityAmbulance (e : VehicleEntry) : Bool := decide (e.isAmbulance ≠ 0) && decide (e.cyberStatus = 1)

def ambulanceLane (entries : List VehicleEntry) : ℤ :=
  match entries.find? isPriorityAmbulance with
  | some e => e.lane
  | none => -1

-- the comparators of the three std::sort calls; equal entries share a replica id
def queueLe (a b : VehicleEntry) : Bool :=
  if a.positionInLane ≠ b.positionInLane then decide (a.positionInLane < b.positionInLane)
  else decide (a.replicaId ≤ b.replicaId)

def remainingLe (a b : VehicleEntry) : Bool :=
  if a.positionInLane ≠ b.positionInLane then decide (a.positionInLane < b.positionInLane)
  else if a.replicaId ≠ b.replicaId then decide (a.replicaId < b.replicaId)
  else decide (a.simTimeUs ≤ b.simTimeUs)

def ambulances (entries : List VehicleEntry) : List VehicleEntry :=
  (entries.filter isPriorityAmbulance).insertionSort (queueLe · ·)

def blockers (entries : List VehicleEntry) (ambulance : VehicleEntry) : List VehicleEntry :=
  (entries.filter fun v =>
    !(decide (v.lane ≠ ambulance.lane) || decide (v.isAmbulance ≠ 0)) &&
      decide (compareLaneQueueOrder v ambulance < 0)).insertionSort (queueLe · ·)

structure PriorityQueue where
  priorityIds : List ℤ
  workQueue : List VehicleEntry

def PriorityQueue.push (s : PriorityQueue) (e : VehicleEntry) : PriorityQueue :=
  if e.replicaId ∈ s.priorityIds then s
  else ⟨e.replicaId :: s.priorityIds, s.workQueue ++ [e]⟩

def PriorityQueue.pushAmbulance (entries : List VehicleEntry) (s : PriorityQueue) (ambulance : VehicleEntry) :
    PriorityQueue :=
  ((blockers entries ambulance).foldl PriorityQueue.push s).push ambulance

def priorityQueue (entries : List VehicleEntry) : PriorityQueue :=
  (ambulances entries).foldl (PriorityQueue.pushAmbulance entries) ⟨[], []⟩

def remainingEntries (entries : List VehicleEntry) : List VehicleEntry :=
  (entries.filter fun e => decide (e.replicaId ∉ (priorityQueue entries).priorityIds)).insertionSort
    (remainingLe · ·)

def workQueue (entries : List VehicleEntry) : List VehicleEntry :=
  (priorityQueue entries).workQueue ++ remainingEntries entries

def isHead (entries : List VehicleEntry) (placed : List ℤ) (cand : VehicleEntry) : Bool :=
  decide (cand.replicaId ∉ placed) && allSameLaneFrontPlaced cand entries placed

structure BatchState where
  placed : List ℤ
  batch : List VehicleEntry
  grew : Bool

def admits (entries : List VehicleEntry) (s : BatchState) (cand : VehicleEntry) : Bool :=
  isHead entries s.placed cand && !isQuietEntry cand && safeWithWholeBatch cand s.batch

def admitCandidate (entries : List VehicleEntry) (s : BatchState) (cand : VehicleEntry) : BatchState :=
  if admits entries s cand then ⟨cand.replicaId :: s.placed, s.batch ++ [cand], true⟩ else s

def growPass (entries queue : List VehicleEntry) (s : BatchState) : BatchState :=
  queue.foldl (admitCandidate entries) { s with grew := false }

-- do { ... } while (grew): every pass that grows places a vehicle, so the queue's length bounds the passes
def growBatch (entries queue : List VehicleEntry) : ℕ → BatchState → BatchState
  | 0, s => s
  | fuel + 1, s =>
    let s' := growPass entries queue s
    if s'.grew then growBatch entries queue fuel s' else s'

structure ScheduleState where
  placed : List ℤ
  batchesOut : List (List VehicleEntry)
  noSchedulableHead : Bool

def placeHead (allSingleton : Bool) (entries queue : List VehicleEntry) (s : ScheduleState)
    (head : VehicleEntry) : ScheduleState :=
  let opened : BatchState := ⟨head.replicaId :: s.placed, [head], false⟩
  let closed :=
    if allSingleton then opened
    else if isQuietEntry head then opened
    else growBatch entries queue (queue.length + 1) opened
  { s with placed := closed.placed, batchesOut := s.batchesOut ++ [closed.batch] }

def placeAlone (s : ScheduleState) (e : VehicleEntry) : ScheduleState :=
  if e.replicaId ∈ s.placed then s
  else { s with placed := e.replicaId :: s.placed, batchesOut := s.batchesOut ++ [[e]] }

-- while (placed.size() < n): every turn places a vehicle, so n turns are enough
def scheduleLoop (allSingleton : Bool) (entries queue : List VehicleEntry) : ℕ → ScheduleState → ScheduleState
  | 0, s => s
  | fuel + 1, s =>
    if s.placed.length < entries.length then
      match queue.find? (isHead entries s.placed) with
      | none => { entries.foldl placeAlone s with noSchedulableHead := true }
      | some head => scheduleLoop allSingleton entries queue fuel (placeHead allSingleton entries queue s head)
    else s

def schedule (allSingleton : Bool) (entries : List VehicleEntry) : ScheduleState :=
  scheduleLoop allSingleton entries (workQueue entries) entries.length ⟨[], [], false⟩

def assign (entries : List VehicleEntry) (bi : ℕ) (decisions : List VehicleDecision) (b : VehicleEntry) :
    List VehicleDecision :=
  List.zipWith (fun e d => if e.replicaId = b.replicaId then ⟨b.replicaId, bi⟩ else d) entries decisions

def decisionsOf (entries : List VehicleEntry) (batchesOut : List (List VehicleEntry)) : List VehicleDecision :=
  batchesOut.zipIdx.foldl (fun ds b => b.1.foldl (assign entries b.2) ds)
    (entries.map fun _ => ⟨0, 0⟩)

structure IntersectionScheduleResult where
  orderBytes : Bytes
  nBatches : ℕ
  ambulanceLane : ℤ
  deriving DecidableEq

def orderBytes (hdr : OrderHdr) (decisions : List VehicleDecision) : Bytes :=
  hdr.bytes ++ decisions.flatMap VehicleDecision.bytes

def allSingletonMode (singletonEnv : Option String) : Bool := singletonEnv == some "1"

def buildIntersectionSchedule (singletonEnv : Option String) (hdr : ProposeHdr)
    (entries : List VehicleEntry) : IntersectionScheduleResult :=
  let batchesOut := (schedule (allSingletonMode singletonEnv) entries).batchesOut
  { orderBytes := orderBytes ⟨hdr.epoch, entries.length, batchesOut.length⟩ (decisionsOf entries batchesOut)
    nBatches := batchesOut.length
    ambulanceLane := ambulanceLane entries }

end V2vBft.Scheduler
