import V2vBft.Pbft.Request

/-! The vote collectors of `transaction_collector.cpp` and the ring of `lock_free_collector_pool.cpp` that holds them. -/

namespace V2vBft.Engine

open Wire Pbft

inductive TransactionStatue
  | none
  | readyPrepare
  | readyCommit
  | readyExecute
  | executed
  deriving DecidableEq, Repr

structure Vote where
  type : RequestType
  hash : Bytes
  senderId : ℤ
  deriving DecidableEq, Repr

-- other_main_request_ is ordered by address in the source, here by arrival
structure TransactionCollector where
  seq : ℕ
  isCommitted : Bool
  isPrepared : Bool
  mainRequest : Option Request
  otherMainRequests : List Request
  status : TransactionStatue
  view : ℕ
  senders : Finset Vote
  deriving DecidableEq

def TransactionCollector.fresh (seq : ℕ) : TransactionCollector :=
  ⟨seq, false, false, none, [], .none, 0, ∅⟩

def voteOf (request : Request) : Vote := ⟨request.type, request.hash, request.senderId⟩

def TransactionCollector.voters (c : TransactionCollector) (type : RequestType) (hash : Bytes) : Finset ℤ :=
  (c.senders.filter fun v => v.type = type ∧ v.hash = hash).image Vote.senderId

def TransactionCollector.voteCount (c : TransactionCollector) (type : RequestType) (hash : Bytes) : ℕ :=
  (c.voters type hash).card

def mayConsensusChangeStatus (quorum : ℕ) (type : RequestType) (receivedCount : ℕ) (status : TransactionStatue)
    (ret : Bool) : Bool × TransactionStatue :=
  match type, status with
  | .prePrepare, .none => (true, .readyPrepare)
  | .prepare, .readyPrepare => if quorum ≤ receivedCount then (true, .readyCommit) else (ret, status)
  | .commit, .readyCommit => if quorum ≤ receivedCount then (true, .readyExecute) else (ret, status)
  | _, _ => (ret, status)

-- committed is what Commit() hands to the executor
structure AddResult where
  collector : TransactionCollector
  ret : ℤ
  changed : Bool
  committed : Option Request
  deriving DecidableEq

def TransactionCollector.addMainRequest (c : TransactionCollector) (quorum : ℕ) (request : Request) : AddResult :=
  let force := decide (c.view ≠ 0) && decide (c.view < request.currentView) && !c.isPrepared
  match if force then none else c.mainRequest with
  | some _ => ⟨{ c with otherMainRequests := c.otherMainRequests ++ [request] }, -2, false, none⟩
  | none =>
    let r := mayConsensusChangeStatus quorum request.type 1 c.status force
    ⟨{ c with mainRequest := some request, view := request.currentView, status := r.2 }, 0, r.1, none⟩

def TransactionCollector.record (c : TransactionCollector) (request : Request) : TransactionCollector :=
  { c with senders := insert (voteOf request) c.senders }

def TransactionCollector.countVote (c : TransactionCollector) (quorum : ℕ) (request : Request) :
    Bool × TransactionStatue :=
  mayConsensusChangeStatus quorum request.type ((c.record request).voteCount request.type request.hash) c.status false

def TransactionCollector.replaceMain (c : TransactionCollector) (hash : Bytes) : TransactionCollector :=
  match c.mainRequest with
  | none => c
  | some main =>
    if main.hash = hash then c
    else
      { c with
        mainRequest := c.otherMainRequests.find? fun r => decide (r.hash = hash)
        otherMainRequests := [] }

def TransactionCollector.addPrepareProof (c : TransactionCollector) (quorum : ℕ) (request : Request) : AddResult :=
  if (c.status = .none ∨ c.status = .readyPrepare) ∧ c.isPrepared = false then
    let r := c.countVote quorum request
    let counted := { c.record request with status := r.2 }
    if r.2 = .readyCommit then ⟨{ counted with isPrepared := true }.replaceMain request.hash, 0, r.1, none⟩
    else ⟨counted, 0, r.1, none⟩
  else ⟨c, 0, false, none⟩

def TransactionCollector.commit (c : TransactionCollector) : TransactionCollector × Option Request :=
  match c.mainRequest with
  | none => ({ c with status := .executed }, none)
  | some main => ({ c with status := .executed, isCommitted := true }, some main)

def TransactionCollector.addVote (c : TransactionCollector) (quorum : ℕ) (request : Request) : AddResult :=
  let r := c.countVote quorum request
  let counted := { c.record request with status := r.2 }
  if r.2 = .readyExecute then ⟨counted.commit.1, 1, r.1, counted.commit.2⟩ else ⟨counted, 0, r.1, none⟩

def TransactionCollector.addRequest (c : TransactionCollector) (enableViewchange : Bool) (quorum : ℕ)
    (request : Request) : AddResult :=
  if c.isCommitted ∨ c.status = .executed then ⟨c, -2, false, none⟩
  else if c.seq ≠ request.seq then ⟨c, -2, false, none⟩
  else if request.type = .prePrepare then c.addMainRequest quorum request
  else if enableViewchange ∧ request.type = .prepare then c.addPrepareProof quorum request
  else c.addVote quorum request

-- mask_ keeps seq modulo 2 * capacity_, and flipping the bit capacity_ of an index adds capacity_ to it there
structure LockFreeCollectorPool where
  capacity : ℕ
  collector : ℕ → TransactionCollector

def getCapacity (size : ℕ) : ℕ := if size = 0 then 1 else 2 ^ (size.log2 + 1)

def LockFreeCollectorPool.create (size : ℕ) : LockFreeCollectorPool :=
  ⟨getCapacity (size * 2), TransactionCollector.fresh⟩

def LockFreeCollectorPool.index (p : LockFreeCollectorPool) (seq : ℕ) : ℕ := seq % (2 * p.capacity)

def LockFreeCollectorPool.getCollector (p : LockFreeCollectorPool) (seq : ℕ) : TransactionCollector :=
  p.collector (p.index seq)

def LockFreeCollectorPool.setCollector (p : LockFreeCollectorPool) (seq : ℕ) (c : TransactionCollector) :
    LockFreeCollectorPool :=
  { p with collector := Function.update p.collector (p.index seq) c }

def LockFreeCollectorPool.update (p : LockFreeCollectorPool) (seq : ℕ) : LockFreeCollectorPool :=
  if (p.getCollector seq).seq ≠ seq then p
  else p.setCollector (seq + p.capacity) (.fresh (seq + p.capacity))

end V2vBft.Engine
