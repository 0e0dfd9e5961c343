import V2vBft.Engine.StepFacts

/-! The honest replicas of one membership over an asynchronous network with Byzantine members. -/

namespace V2vBft.Engine

open Wire Pbft Bridge

structure Membership where
  ids : Finset ℤ
  faulty : Finset ℤ
  f : ℕ
  maxProcessTxn : ℕ
  enableViewchange : Bool
  faulty_subset : faulty ⊆ ids
  faulty_card : faulty.card ≤ f
  card_ids : 3 * f + 1 ≤ ids.card

def Membership.honest (M : Membership) : Finset ℤ := M.ids \ M.faulty

def Membership.config (M : Membership) (id : ℤ) : EngineConfig := ⟨id, M.ids.card, M.maxProcessTxn, M.enableViewchange⟩

structure Decision where
  id : ℤ
  seq : ℕ
  hash : Bytes
  electorate : Finset ℤ
  quorum : ℕ
  deriving DecidableEq

-- sent holds what honest replicas broadcast, proposals the PRE_PREPAREs that reached their collectors' door
structure Network where
  replica : ℤ → Replica
  sent : List Request
  proposals : List Request
  decisions : List Decision
  executed : List (ℤ × Execution)

def Network.initial (M : Membership) (primaryId : ℤ) : Network where
  replica id := .initial (M.config id) primaryId
  sent := []
  proposals := []
  decisions := []
  executed := []

structure NetworkEvent where
  id : ℤ
  event : EngineEvent

def electorate (M : Membership) (s : Replica) (request : Request) : Finset ℤ :=
  M.ids.filter fun id => s.isActiveForRequest request id

def decided (M : Membership) (id : ℤ) (s : Replica) : EngineEvent → List Decision
  | .receive _ request =>
    if request.type = .commit ∧ completes (M.config id) s request then
      [⟨id, request.seq, request.hash, electorate M s request, s.quorumForRequest (M.config id) request⟩]
    else []
  | _ => []

def admitted (cfg : EngineConfig) (s : Replica) : EngineEvent → List Request
  | .receive env request => if request.type = .prePrepare ∧ admits cfg env s request then [request] else []
  | _ => []

def networkStep (M : Membership) (n : Network) (e : NetworkEvent) : Network where
  replica := Function.update n.replica e.id (engineStep (M.config e.id) (n.replica e.id) e.event).2
  sent := (engineStep (M.config e.id) (n.replica e.id) e.event).1.sent ++ n.sent
  proposals := admitted (M.config e.id) (n.replica e.id) e.event ++ n.proposals
  decisions := decided M e.id (n.replica e.id) e.event ++ n.decisions
  executed := (engineStep (M.config e.id) (n.replica e.id) e.event).1.executed.map (Prod.mk e.id) ++ n.executed

-- messages may come in any order, twice or never, but under an honest sender id only what that replica sent
def authentic (M : Membership) (n : Network) (e : NetworkEvent) : Prop :=
  e.id ∈ M.honest ∧
    match e.event with
    | .receive _ request => request.type = .newTxns ∨ request.senderId ∈ M.faulty ∨ request ∈ n.sent
    | _ => True

def hashBinds (M : Membership) (n : Network) (e : NetworkEvent) : Prop :=
  ∀ r ∈ admitted (M.config e.id) (n.replica e.id) e.event, ∀ r' ∈ n.proposals,
    r'.seq = r.seq → r'.hash = r.hash → r'.data = r.data

-- a PREPARE for a sequence number committed here has the hash of the COMMIT this replica sent for it
def repeatsCommit (M : Membership) (n : Network) (e : NetworkEvent) : Prop :=
  match e.event with
  | .receive _ request =>
    request.type = .prepare ∧ request.isRecovery = false ∧
        (n.replica e.id).hears (M.config e.id) request = true ∧
        (n.replica e.id).isCommitted request.seq = true →
      ∀ m ∈ n.sent, m.type = .commit → m.senderId = e.id → m.seq = request.seq → m.hash = request.hash
  | _ => True

-- PREPAREs complete only below the sequence number whose collector the next executed batch renews
def withinRing (M : Membership) (n : Network) (e : NetworkEvent) : Prop :=
  match e.event with
  | .receive _ request =>
    request.type = .prepare ∧ completes (M.config e.id) (n.replica e.id) request →
      request.seq + 1 < (n.replica e.id).nextExecuteSeq + (n.replica e.id).pool.capacity
  | _ => True

-- COMMITs complete for the stored request, by votes of its electorate, which overlaps every earlier one's enough
def decidesSoundly (M : Membership) (n : Network) (e : NetworkEvent) : Prop :=
  match e.event with
  | .receive _ request =>
    let s := n.replica e.id
    let c := s.pool.getCollector request.seq
    request.type = .commit ∧ completes (M.config e.id) s request →
      (∀ m ∈ c.mainRequest, m.hash = request.hash) ∧
      (c.record request).voters .commit request.hash ⊆ electorate M s request ∧
      ∀ d ∈ n.decisions, d.seq = request.seq →
        (d.electorate ∪ electorate M s request).card + M.f < d.quorum + s.quorumForRequest (M.config e.id) request
  | _ => True

def agreementOk (M : Membership) (n : Network) (e : NetworkEvent) : Prop :=
  hashBinds M n e ∧ repeatsCommit M n e ∧ withinRing M n e ∧ decidesSoundly M n e

section Decidability

variable (M : Membership) (n : Network) (id : ℤ)

instance instDecidableAuthentic : ∀ ev, Decidable (authentic M n ⟨id, ev⟩)
  | .receive _ request =>
    inferInstanceAs (Decidable (id ∈ M.honest ∧
      (request.type = .newTxns ∨ request.senderId ∈ M.faulty ∨ request ∈ n.sent)))
  | .orderMessage | .executeMessage | .updateCheckPointStatus | .expireProposed _ | .expireExecuted _
  | .gossipCancel _ | .prepareLocalSubmission | .promotePrimaryFromCert _ | .setPrimary _ _ | .installPending _
  | .getVerifiedVoteProgress _ => inferInstanceAs (Decidable (id ∈ M.honest ∧ True))

instance instDecidableAgreementOk : ∀ ev, Decidable (agreementOk M n ⟨id, ev⟩)
  | .receive _ request => by
    unfold agreementOk hashBinds repeatsCommit withinRing decidesSoundly
    infer_instance
  | .orderMessage | .executeMessage | .updateCheckPointStatus | .expireProposed _ | .expireExecuted _
  | .gossipCancel _ | .prepareLocalSubmission | .promotePrimaryFromCert _ | .setPrimary _ _ | .installPending _
  | .getVerifiedVoteProgress _ =>
    inferInstanceAs (Decidable ((∀ r ∈ [], ∀ r' ∈ n.proposals, _) ∧ True ∧ True ∧ True))

instance (e : NetworkEvent) : Decidable (authentic M n e) := instDecidableAuthentic M n e.id e.event

instance (e : NetworkEvent) : Decidable (agreementOk M n e) := instDecidableAgreementOk M n e.id e.event

end Decidability

end V2vBft.Engine
