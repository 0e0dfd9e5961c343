import V2vBft.Engine.Agreement
import V2vBft.Engine.RadioNetwork

namespace V2vBft.Engine

open Wire Pbft Bridge App Library.GuardedRun

variable {P : RadioParties} {n : RadioNetwork} {e : RadioEvent} {l l' : List (ℤ × Request)}

def Genuine (P : RadioParties) (produced : List (ℤ × Request)) (r : Request) : Prop :=
  isVoteOf P r → ∃ m, (r.senderId, m) ∈ produced ∧ Copies m r

def Proposed (P : RadioParties) (produced : List (ℤ × Request)) (r : Request) : Prop :=
  r.senderId ∈ P.honest → ∃ m, (r.senderId, m) ∈ produced ∧ Copies m r

def Voted (P : RadioParties) (produced : List (ℤ × Request)) (seq : ℕ) (v : Vote) : Prop :=
  v.senderId ∈ P.honest → ∃ m, (v.senderId, m) ∈ produced ∧ voteOf m = v ∧ m.seq = seq

def GenuineMessage (P : RadioParties) (produced : List (ℤ × Request)) (message : ConsensusMessage) : Prop :=
  ∀ r ∈ message.requests, Genuine P produced r

def GenuineBytes (P : RadioParties) (produced : List (ℤ × Request)) (raw : Bytes) : Prop :=
  ∀ r ∈ P.requestsIn raw, Genuine P produced r

lemma Genuine.mono {r : Request} (h : Genuine P l r) (hl : l ⊆ l') : Genuine P l' r := by
  intro hvote
  obtain ⟨m, hm, hcopies⟩ := h hvote
  exact ⟨m, hl hm, hcopies⟩

lemma GenuineMessage.mono {message : ConsensusMessage} (h : GenuineMessage P l message) (hl : l ⊆ l') :
    GenuineMessage P l' message := fun r hr => (h r hr).mono hl

lemma GenuineBytes.mono {raw : Bytes} (h : GenuineBytes P l raw) (hl : l ⊆ l') : GenuineBytes P l' raw :=
  fun r hr => (h r hr).mono hl

lemma Proposed.mono {r : Request} (h : Proposed P l r) (hl : l ⊆ l') : Proposed P l' r := by
  intro hhonest
  obtain ⟨m, hm, hcopies⟩ := h hhonest
  exact ⟨m, hl hm, hcopies⟩

lemma Voted.mono {seq : ℕ} {v : Vote} (h : Voted P l seq v) (hl : l ⊆ l') : Voted P l' seq v := by
  intro hhonest
  obtain ⟨m, hm, heq⟩ := h hhonest
  exact ⟨m, hl hm, heq⟩

lemma Copies.trans {m m' r : Request} (h : Copies m m') (h' : Copies m' r) : Copies m r := by
  rw [Copies] at h h' ⊢
  rw [← h', ← h]

lemma Copies.same {α : Type} {m r : Request} (h : Copies m r) (field : Request → α)
    (hfield : ∀ a b, field { m with isRecovery := a, forceRecovery := b } = field m) : field m = field r := by
  rw [Copies] at h
  exact (hfield _ _).symm.trans (congrArg field h)

lemma Copies.isVoteOf {m r : Request} (h : Copies m r) (hvote : isVoteOf P r) : isVoteOf P m := by
  rw [V2vBft.Engine.isVoteOf, h.same Request.type fun _ _ => rfl, h.same Request.senderId fun _ _ => rfl]
  exact hvote

lemma Genuine.copy {m r : Request} (h : Genuine P l m) (hcopies : Copies m r) : Genuine P l r := by
  intro hvote
  obtain ⟨m', hm', hcopies'⟩ := h (hcopies.isVoteOf hvote)
  rw [hcopies.same Request.senderId fun _ _ => rfl] at hm'
  exact ⟨m', hm', hcopies'.trans hcopies⟩

lemma GenuineBytes.of_parse {raw : Bytes} {message : ConsensusMessage} (hparse : P.parse raw = some message)
    (h : GenuineMessage P l message) : GenuineBytes P l raw := by
  intro r hr
  rw [RadioParties.requestsIn, hparse, Option.toList_some, List.flatMap_singleton] at hr
  exact h r hr

lemma GenuineBytes.message {raw : Bytes} {message : ConsensusMessage} (h : GenuineBytes P l raw)
    (hparse : P.parse raw = some message) : GenuineMessage P l message := by
  intro r hr
  refine h r ?_
  rw [RadioParties.requestsIn, hparse, Option.toList_some, List.flatMap_singleton]
  exact hr

structure EngineInv (P : RadioParties) (produced : List (ℤ × Request)) (s : Replica) : Prop where
  calm : s.Calm
  waits : s.Waits (Proposed P produced)
  stored : ∀ i, ∀ r ∈ (s.pool.collector i).stored, Proposed P produced r
  votes : ∀ i, ∀ v ∈ (s.pool.collector i).senders, Voted P produced (s.pool.collector i).seq v

structure VehicleInv (P : RadioParties) (produced : List (ℤ × Request)) (v : RadioVehicle) : Prop where
  engine : EngineInv P produced v.node.engine
  waiting : ∀ m ∈ v.node.waiting, Genuine P produced m
  inbox : ∀ raw ∈ v.inbox, GenuineBytes P produced raw
  log : ∀ message ∈ v.log, GenuineMessage P produced message
  pending : ∀ p ∈ v.relay.pending, p.raw ≠ [] ∧ GenuineBytes P produced p.raw

inductive Stands (P : RadioParties) (produced : List (ℤ × Request)) (σ : PacketSignature) : Prop
  | packet (hrole : σ.role = some .resdbConsensus) (hbytes : GenuineBytes P produced σ.bytes)
  | relay (epoch : ℕ) (raw : Bytes) (hrole : σ.role = some .consensusRelay)
      (hbytes : σ.bytes = gossipSerialize epoch raw) (hne : raw ≠ []) (hraw : GenuineBytes P produced raw)
  | other (hrole : σ.role = none)

lemma Stands.mono {σ : PacketSignature} (h : Stands P l σ) (hl : l ⊆ l') : Stands P l' σ := by
  cases h with
  | packet hrole hbytes => exact .packet hrole (hbytes.mono hl)
  | relay epoch raw hrole hbytes hne hraw => exact .relay epoch raw hrole hbytes hne (hraw.mono hl)
  | other hrole => exact .other hrole

structure RadioInv (P : RadioParties) (n : RadioNetwork) : Prop where
  vehicle : ∀ id ∈ P.honest, VehicleInv P n.produced (n.vehicle id)
  signed : ∀ σ ∈ n.signed, Stands P n.produced σ

lemma EngineInv.mono {s : Replica} (h : EngineInv P l s) (hl : l ⊆ l') : EngineInv P l' s where
  calm := h.calm
  waits r hr := ⟨(h.waits r hr).1, (h.waits r hr).2.mono hl⟩
  stored i r hr := (h.stored i r hr).mono hl
  votes i v hv := (h.votes i v hv).mono hl

lemma VehicleInv.mono {v : RadioVehicle} (h : VehicleInv P l v) (hl : l ⊆ l') : VehicleInv P l' v where
  engine := h.engine.mono hl
  waiting m hm := (h.waiting m hm).mono hl
  inbox raw hraw := (h.inbox raw hraw).mono hl
  log message hmessage := (h.log message hmessage).mono hl
  pending p hp := ⟨(h.pending p hp).1, (h.pending p hp).2.mono hl⟩

lemma engineInv_initial (cfg : EngineConfig) (primaryId : ℤ) : EngineInv P [] (.initial cfg primaryId) where
  calm _ := by simp [Replica.initial, LockFreeCollectorPool.create]
  waits _ hr := absurd hr (by simp [Replica.initial])
  stored _ _ hr := absurd hr (by simp [Replica.initial, LockFreeCollectorPool.create])
  votes _ _ hv := absurd hv (by simp [Replica.initial, LockFreeCollectorPool.create])

lemma radioInv_initial (P : RadioParties) (primaryId : ℤ) : RadioInv P (.initial P primaryId) where
  vehicle id _ := ⟨engineInv_initial (P.membership.config id) primaryId, fun _ h => absurd h List.not_mem_nil,
    fun _ h => absurd h List.not_mem_nil, fun _ h => absurd h List.not_mem_nil, fun _ h => absurd h List.not_mem_nil⟩
  signed _ hσ := absurd hσ List.not_mem_nil

lemma gossipParse_serialize_raw {epoch epoch' : ℕ} {raw raw' : Bytes}
    (h : gossipParse (gossipSerialize epoch raw) = some (epoch', raw')) : raw' = raw := by
  have hdrop : (gossipSerialize epoch raw).drop 4 = raw := List.drop_left' (putU32_length epoch)
  rw [gossipParse, hdrop] at h
  split at h
  next => exact absurd h (by simp)
  next =>
    split at h
    next => exact absurd h (by simp)
    next => exact (Prod.mk.inj (Option.some.inj h)).2.symm

lemma voteOn_sender {cfg : EngineConfig} {s : Replica} {request answer : Request} {self : ℤ}
    (h : answer.senderId = self) : ∀ m ∈ (voteOn cfg s request answer).1, m.senderId = self := by
  intro m hm
  rw [voteOn] at hm
  dsimp only at hm
  split at hm
  next =>
    rw [List.mem_singleton.mp hm]
    exact h
  next => exact absurd hm (by simp)

lemma acceptPropose_sender {cfg : EngineConfig} {s : Replica} {request : Request} :
    ∀ m ∈ (acceptPropose cfg s request).1, m.senderId = cfg.selfId := by
  intro m hm
  rw [acceptPropose] at hm
  split at hm
  next => exact absurd hm (by simp)
  next =>
    split at hm
    next => exact absurd hm (by simp)
    next =>
      split at hm
      next => exact voteOn_sender rfl m hm
      next =>
        split at hm
        next => exact absurd hm (by simp)
        next => exact voteOn_sender rfl m hm

lemma processProposeMsg_sender {cfg : EngineConfig} {env : BridgeEnv} {s : Replica} {request : Request} :
    ∀ m ∈ (processProposeMsg cfg env s request).1.sent, m.senderId = cfg.selfId := by
  intro m hm
  rw [processProposeMsg] at hm
  split at hm
  next => exact absurd hm (by simp [Output.none])
  next =>
    split at hm
    next => exact acceptPropose_sender m hm
    next =>
      dsimp only at hm
      split at hm
      next => exact acceptPropose_sender m hm
      next => exact absurd hm (by simp [Output.none])

lemma processPrepareMsg_sender {cfg : EngineConfig} {s : Replica} {request : Request} :
    ∀ m ∈ (processPrepareMsg cfg s request).1, m.senderId = cfg.selfId := by
  intro m hm
  rw [processPrepareMsg] at hm
  split at hm
  next => exact absurd hm (by simp)
  next =>
    split at hm
    next => exact absurd hm (by simp)
    next => exact voteOn_sender rfl m hm

lemma processNewRequest_sender {cfg : EngineConfig} {env : BridgeEnv} {s : Replica} {request : Request}
    (htype : request.type = .newTxns) :
    ∀ m ∈ (processNewRequest cfg env s request).1.sent, m.type = .newTxns ∨ m.senderId = cfg.selfId := by
  intro m hm
  rw [processNewRequest] at hm
  split at hm
  next => exact absurd hm (by simp [Output.none])
  next =>
    split at hm
    next =>
      rw [List.mem_singleton.mp hm]
      exact Or.inl htype
    next =>
      dsimp only at hm
      split at hm
      next =>
        dsimp only at hm
        rw [propose] at hm
        split at hm
        next => exact absurd hm (by simp)
        next =>
          split at hm
          next => exact absurd hm (by simp)
          next =>
            rw [List.mem_singleton.mp hm]
            exact Or.inr rfl
      next => exact absurd hm (by simp [Output.none])

theorem engineStep_sender (cfg : EngineConfig) (s : Replica) (ev : EngineEvent) :
    ∀ m ∈ (engineStep cfg s ev).1.sent, m.type = .newTxns ∨ m.senderId = cfg.selfId := by
  intro m hm
  cases ev with
  | receive env request =>
    rw [engineStep, internalConsensusCommit] at hm
    cases htype : request.type with
    | newTxns =>
      rw [htype] at hm
      exact processNewRequest_sender htype m hm
    | prePrepare =>
      rw [htype] at hm
      exact Or.inr (processProposeMsg_sender m hm)
    | prepare =>
      rw [htype] at hm
      exact Or.inr (processPrepareMsg_sender m hm)
    | commit =>
      rw [htype] at hm
      exact absurd hm (by simp [Output.none])
  | _ => exact absurd hm (by simp [engineStep, Output.none])

lemma Genuine.proposed {r : Request} (h : Genuine P l r) (htype : r.type = .prePrepare) (force : Bool) :
    Proposed P l { r with forceRecovery := force } := by
  intro hhonest
  obtain ⟨m, hm, hcopies⟩ := h ⟨by simp [htype], hhonest⟩
  exact ⟨m, hm, hcopies.trans rfl⟩

lemma Genuine.voted {r : Request} (h : Genuine P l r) (htype : r.type = .prepare ∨ r.type = .commit) :
    Voted P l r.seq (voteOf r) := by
  intro hhonest
  obtain ⟨m, hm, hcopies⟩ := h ⟨by rcases htype with htype | htype <;> simp [htype], hhonest⟩
  exact ⟨m, hm, hcopies.same voteOf fun _ _ => rfl, hcopies.same Request.seq fun _ _ => rfl⟩

lemma EngineInv.step {cfg : EngineConfig} {s : Replica} {ev : EngineEvent}
    (h : EngineInv P l s) (hgenuine : ∀ env r, ev = .receive env r → Genuine P l r) :
    EngineInv P l (engineStep cfg s ev).2 := by
  have hspec := engineStep_spec cfg ev h.calm h.waits fun env r hev htype _ =>
    ⟨(hgenuine env r hev).proposed htype r.forceRecovery, (hgenuine env r hev).proposed htype false⟩
  refine ⟨hspec.calm h.calm, hspec.waits, fun i r hr => ?_, fun i v hv => ?_⟩
  · cases hspec.slots i with
    | proposals hslot =>
      rcases hslot.stored r hr with hold | ⟨hnew, _⟩
      · exact h.stored i r hold
      · exact hnew
    | fresh seq hseq hfresh =>
      rw [hfresh] at hr
      exact absurd hr (by simp)
    | vote env request hev htype hhears hopen hindex hcollect =>
      rw [hcollect] at hr
      obtain ⟨_, hstored, _⟩ := collect_vote cfg h.calm htype
      exact h.stored _ r (hstored r hr)
  · cases hspec.slots i with
    | proposals hslot =>
      rw [hslot.senders] at hv
      rw [hslot.seq]
      exact h.votes i v hv
    | fresh seq hseq hfresh =>
      rw [hfresh] at hv
      exact absurd hv (by simp)
    | vote env request hev htype hhears hopen hindex hcollect =>
      rw [hcollect] at hv ⊢
      obtain ⟨hseq, _, hsenders⟩ := collect_vote cfg h.calm htype
      rw [hseq]
      rcases hsenders v hv with hold | ⟨rfl, hsame⟩
      · exact h.votes _ v hold
      · rw [hsame]
        exact (hgenuine env request hev).voted htype

lemma reset_collector (p : LockFreeCollectorPool) (start : ℤ) (i : ℕ) :
    ∃ seq, (p.reset start).collector i = .fresh seq := ⟨_, rfl⟩

lemma EngineInv.setNextCommitSeq {s : Replica} (h : EngineInv P l s) (seq : ℕ) : EngineInv P l (s.setNextCommitSeq seq) := by
  have hfresh : ∀ i, ∃ q, (s.setNextCommitSeq seq).pool.collector i = .fresh q := fun i => reset_collector _ _ i
  refine ⟨fun i => ?_, h.waits, fun i r hr => ?_, fun i v hv => ?_⟩ <;> obtain ⟨q, hq⟩ := hfresh i
  · rw [hq]
    exact TransactionStatue.noConfusion
  · rw [hq] at hr
    exact absurd hr (by simp)
  · rw [hq] at hv
    exact absurd hv (by simp)

lemma EngineInv.managerStep {cfg : EngineConfig} {s : Replica} {ev : ManagerEvent} (h : EngineInv P l s)
    (hgenuine : ∀ m ∈ ev.requests, Genuine P l m) : EngineInv P l (managerStep cfg s ev).2 := by
  cases ev with
  | engine ev =>
    refine h.step fun env r hev => hgenuine r ?_
    rw [hev]
    exact List.mem_singleton_self r
  | setInfo info => exact ⟨h.calm, h.waits, h.stored, h.votes⟩
  | setNextCommitSeq seq => exact h.setNextCommitSeq seq

lemma EngineInv.managerRun {cfg : EngineConfig} {s : Replica} {moves : List ManagerEvent} (h : EngineInv P l s)
    (hgenuine : ∀ ev ∈ moves, ∀ m ∈ ev.requests, Genuine P l m) : EngineInv P l (managerRun cfg s moves).2 := by
  induction moves generalizing s with
  | nil => exact h
  | cons ev rest ih =>
    exact ih (h.managerStep (hgenuine ev List.mem_cons_self)) fun e he => hgenuine e (List.mem_cons_of_mem _ he)

lemma managerRun_sender {cfg : EngineConfig} {s : Replica} {moves : List ManagerEvent} :
    ∀ o ∈ (managerRun cfg s moves).1, ∀ m ∈ o.sent, m.type = .newTxns ∨ m.senderId = cfg.selfId := by
  induction moves generalizing s with
  | nil => exact fun o ho => absurd ho List.not_mem_nil
  | cons ev rest ih =>
    intro o ho
    rcases List.mem_append.mp ho with hfirst | hothers
    · cases ev with
      | engine ev =>
        rw [List.mem_singleton.mp hfirst]
        exact engineStep_sender cfg s ev
      | setInfo info | setNextCommitSeq seq => exact absurd hfirst List.not_mem_nil
    · exact ih o hothers

lemma RadioInv.genuine_of_packet (h : RadioInv P n) {id : ℤ} {bytes : Bytes}
    (hsigned : ⟨id, some .resdbConsensus, bytes⟩ ∈ n.signed) : GenuineBytes P n.produced bytes := by
  cases h.signed _ hsigned with
  | packet _ hbytes => exact hbytes
  | relay _ _ hrole => exact absurd hrole (by simp)
  | other hrole => exact absurd hrole (by simp)

lemma RadioInv.genuine_of_relay (h : RadioInv P n) {id : ℤ} {bytes raw : Bytes} {epoch : ℕ}
    (hsigned : ⟨id, some .consensusRelay, bytes⟩ ∈ n.signed) (hparse : gossipParse bytes = some (epoch, raw)) :
    GenuineBytes P n.produced raw := by
  cases h.signed _ hsigned with
  | packet hrole => exact absurd hrole (by simp)
  | relay epoch' raw' _ hbytes _ hraw =>
    dsimp only at hbytes
    rw [hbytes] at hparse
    rwa [gossipParse_serialize_raw hparse]
  | other hrole => exact absurd hrole (by simp)

lemma RadioInv.genuine_of_sentAs (h : RadioInv P n) {r : Request} (hsent : n.sentAs P r) : Genuine P n.produced r := by
  obtain ⟨⟨id, role, bytes⟩, hσ, rfl, rfl, m, hparse, hcopies⟩ := hsent
  have hmessage : P.parse bytes = some (.request m) := by
    rw [RadioParties.parse, Option.mem_def.mp hparse]
  have hgenuine := (h.genuine_of_packet hσ).message hmessage m (by simp [ConsensusMessage.requests])
  exact hgenuine.copy hcopies

lemma mem_brings {frame : RadioFrame} {cfg : RelayConfig} {raw : Bytes} (hbrings : Brings cfg frame raw) :
    P.requestsIn raw ⊆ P.brings frame := by
  cases hbrings with
  | packet htype _ hraw =>
    rw [RadioParties.brings, htype, hraw]
    exact List.Subset.refl _
  | relay epoch htype _ _ hparse =>
    rw [RadioParties.brings, htype, hparse, Option.toList_some, List.flatMap_singleton]
    exact List.Subset.refl _

lemma RadioInv.brings (h : RadioInv P n) {id : ℤ} {frame : RadioFrame} {currentEpoch : ℕ} {departed : Bool}
    (hunf : radioUnforgeable P n ⟨id, .receive frame currentEpoch departed⟩)
    (hkeyed : senderKeyed P n ⟨id, .receive frame currentEpoch departed⟩) {raw : Bytes}
    (hbrings : Brings (P.config id) frame raw) : GenuineBytes P n.produced raw := by
  have hverify : P.radio.verifyBytes frame.pubKey frame.resdbBytes frame.sig = true := by
    cases hbrings with
    | packet _ hverify => exact hverify
    | relay _ _ hverify => exact hverify
  rcases hkeyed hverify with ⟨honest, hhonest, hholds, hdomain⟩ | hsent
  · have hsigned := hdomain (hunf.2 hverify honest hhonest hholds)
    cases hbrings with
    | packet htype _ hraw =>
      rw [htype, hraw] at hsigned
      exact h.genuine_of_packet hsigned
    | relay epoch htype _ _ hparse =>
      rw [htype] at hsigned
      exact h.genuine_of_relay hsigned hparse
  · exact fun r hr hvote => h.genuine_of_sentAs (hsent r (mem_brings hbrings hr) hvote) hvote

lemma VehicleInv.taken {v : RadioVehicle} (h : VehicleInv P l v) {index : ℕ} {message : ConsensusMessage}
    (htaken : v.taken P index = some message) : GenuineMessage P l message := by
  obtain ⟨raw, hraw, hparse⟩ := Option.bind_eq_some_iff.mp htaken
  exact (h.inbox raw (List.mem_of_getElem? hraw)).message hparse

lemma afterTake_rest (v : RadioVehicle) (action : RadioAction) :
    (v.afterTake P action).node = v.node ∧ (v.afterTake P action).relay = v.relay := by
  cases action <;> exact ⟨rfl, rfl⟩

lemma VehicleInv.afterTake {v : RadioVehicle} (h : VehicleInv P l v) (action : RadioAction) :
    VehicleInv P l (v.afterTake P action) := by
  cases action with
  | process env index =>
    refine ⟨h.engine, h.waiting, fun raw hraw => h.inbox raw (List.mem_of_mem_eraseIdx hraw), fun message hm => ?_,
      h.pending⟩
    rcases List.mem_append.mp hm with hold | hnew
    · exact h.log message hold
    · exact h.taken (Option.mem_toList.mp (List.mem_of_mem_filter hnew))
  | _ => exact h

lemma VehicleInv.genuine_event {ev : ViewEvent} (h : VehicleInv P n.produced (n.vehicle e.id))
    (hev : e.viewEvent P n = some ev) : ∀ r ∈ ev.requests, Genuine P n.produced r := by
  rw [RadioEvent.viewEvent] at hev
  cases haction : e.action with
  | process env index =>
    rw [haction] at hev
    obtain ⟨message, htaken, rfl⟩ := Option.map_eq_some_iff.mp hev
    exact h.taken htaken
  | node ev' =>
    rw [haction] at hev
    dsimp only at hev
    split at hev
    next => exact absurd hev (by simp)
    next hno =>
      rw [← Option.some.inj hev]
      cases ev' with
      | commit env message => exact absurd rfl hno
      | _ => exact fun r hr => absurd hr List.not_mem_nil
  | _ =>
    rw [haction] at hev
    exact absurd hev (by simp)

lemma update_vehicle {v : RadioVehicle} (hothers : ∀ id ∈ P.honest, VehicleInv P l (n.vehicle id))
    (hv : VehicleInv P l v) : ∀ id ∈ P.honest, VehicleInv P l (Function.update n.vehicle e.id v id) := by
  intro id hid
  by_cases hsame : id = e.id
  · rw [hsame, Function.update_self]
    exact hv
  · rw [Function.update_of_ne hsame]
    exact hothers id hid

lemma redo_broadcast {r : RedoRequest} {message : ConsensusMessage} (hm : message ∈ r.broadcast) :
    message.requests = r.requests := by
  rw [RedoRequest.broadcast] at hm
  split at hm
  · exact absurd hm List.not_mem_nil
  next hother =>
    rw [List.mem_singleton.mp hm, RedoRequest.message, RedoRequest.requests]
    cases htype : r.type with
    | consensus type =>
      rw [htype] at hother
      have hne : type ≠ .prePrepare := fun heq => hother (congrArg _ heq)
      simp only [if_neg hne, ConsensusMessage.requests]
    | _ => simp [ConsensusMessage.requests, ViewPacket.requests, RecoveryResponse.requests]

lemma mem_outgoing {out : ViewOutput} {message : ConsensusMessage} (hm : message ∈ out.outgoing) :
    (∃ r ∈ out.requests, message = .request r) ∨ ∀ r ∈ message.requests, r ∈ out.repeated := by
  simp only [ViewOutput.outgoing, ViewOutput.broadcast, List.mem_append, List.mem_map, List.mem_flatMap] at hm
  rcases hm with ⟨r, hr, rfl⟩ | (⟨r, hr, rfl⟩ | ⟨packet, hpacket, rfl⟩) | ⟨r, hr, hmessage⟩
  · exact Or.inl ⟨r, List.mem_of_mem_filter hr, rfl⟩
  · exact Or.inl ⟨r, List.mem_of_mem_filter hr, rfl⟩
  · refine Or.inr fun r hr => List.mem_append_left _ (List.mem_flatMap.mpr ⟨packet, hpacket, ?_⟩)
    rwa [ConsensusMessage.requests] at hr
  · exact Or.inr fun q hq => List.mem_append_right _ (List.mem_flatMap.mpr ⟨r, hr, redo_broadcast hmessage ▸ hq⟩)

lemma RadioInv.transmit (h : RadioInv P n) {v : RadioVehicle} {out : ViewOutput} (hv : VehicleInv P n.produced v)
    (hsender : ∀ m ∈ out.requests, m.type = .newTxns ∨ m.senderId = e.id)
    (hagain : ∀ m ∈ out.repeated, Genuine P n.produced m)
    (hwire : ∀ message ∈ out.outgoing, P.parse (P.serialize message) = some message) :
    RadioInv P (n.transmit P e.id v out) := by
  have hgrow : n.produced ⊆ out.requests.map (Prod.mk e.id) ++ n.produced := List.subset_append_right _ _
  have hout : ∀ message ∈ out.outgoing, GenuineBytes P (out.requests.map (Prod.mk e.id) ++ n.produced)
      (P.serialize message) := by
    refine fun message hm => .of_parse (hwire message hm) ?_
    rcases mem_outgoing hm with ⟨m, hin, rfl⟩ | hrepeated
    · intro r hr hvote
      rw [ConsensusMessage.requests, List.mem_singleton] at hr
      subst hr
      rw [(hsender r hin).resolve_left hvote.1]
      exact ⟨r, List.mem_append_left _ (List.mem_map_of_mem hin), rfl⟩
    · exact fun r hr => (hagain r (hrepeated r hr)).mono hgrow
  refine ⟨update_vehicle (fun id hid => (h.vehicle id hid).mono hgrow) ?_, fun σ hσ => ?_⟩
  · have hkept := hv.mono hgrow
    refine ⟨hkept.engine, hkept.waiting, fun raw hraw => ?_, hkept.log, hkept.pending⟩
    rcases List.mem_append.mp hraw with hold | hback
    · exact hkept.inbox raw hold
    · obtain ⟨message, hm, rfl⟩ := List.mem_map.mp hback
      exact hout message (List.mem_append_right _ hm)
  · rcases List.mem_append.mp hσ with hnew | hold
    · obtain ⟨message, hm, rfl⟩ := List.mem_map.mp hnew
      exact .packet rfl (hout message hm)
    · exact (h.signed σ hold).mono hgrow

lemma RadioInv.viewStep (h : RadioInv P n) (hid : e.id ∈ P.honest) {ev : ViewEvent} (hev : e.viewEvent P n = some ev)
    (hwire : wireFaithful P n e) : RadioInv P (radioStep P n e) := by
  have hv := h.vehicle e.id hid
  have hnode : ((n.vehicle e.id).afterTake P e.action).node = (n.vehicle e.id).node := (afterTake_rest _ e.action).1
  have hstep := @viewStep_carries (P.membership.config e.id) (Genuine P n.produced) (n.vehicle e.id).node ev hv.waiting
    (hv.genuine_event hev)
  obtain ⟨moves, hrun, hgenuine⟩ := hstep.moves
  have hengine := @EngineInv.managerRun P n.produced (P.membership.config e.id) _ moves hv.engine hgenuine
  have hsender := @managerRun_sender (P.membership.config e.id) (n.vehicle e.id).node.engine moves
  rw [hrun] at hengine hsender
  rw [wireFaithful, RadioEvent.outgoing, hev] at hwire
  have htaken := hv.afterTake e.action
  simp only [radioStep, hev, hnode]
  refine h.transmit ⟨hengine, hstep.waiting, htaken.inbox, htaken.log, htaken.pending⟩ (fun m hm => ?_) hstep.again hwire
  obtain ⟨o, ho, hsent⟩ := List.mem_flatMap.mp hm
  exact hsender o ho m hsent

lemma RadioInv.flush (h : RadioInv P n) (due complete : List RelayKey) (currentEpoch : ℕ) (inactive : Bool)
    (hid : e.id ∈ P.honest) :
    let r := flushDueConsensusRelays (P.config e.id) (n.vehicle e.id).relay due complete currentEpoch inactive
    VehicleInv P n.produced { n.vehicle e.id with relay := r.2 } ∧
      ∀ bytes ∈ r.1, Stands P n.produced ⟨e.id, some .consensusRelay, bytes⟩ := by
  have hv := h.vehicle e.id hid
  refine ⟨⟨hv.engine, hv.waiting, hv.inbox, hv.log, fun p hp => hv.pending p (List.mem_of_mem_filter hp)⟩,
    fun bytes hbytes => ?_⟩
  obtain ⟨p, hp, rfl⟩ := List.mem_map.mp hbytes
  obtain ⟨hne, hraw⟩ := hv.pending p (List.mem_of_mem_filter (List.mem_of_mem_filter hp))
  exact .relay p.relayEpoch p.raw rfl rfl hne hraw

lemma RadioInv.receive (h : RadioInv P n) {frame : RadioFrame} {currentEpoch : ℕ} {departed : Bool}
    (haction : e.action = .receive frame currentEpoch departed) (hunf : radioUnforgeable P n e)
    (hkeyed : senderKeyed P n e) :
    let v := n.vehicle e.id
    let r := handleFrame (P.config e.id) v.relay frame currentEpoch departed
    VehicleInv P n.produced { v with relay := r.2, inbox := v.inbox ++ r.1.toList } := by
  obtain ⟨id, action⟩ := e
  dsimp only at haction
  subst haction
  have hv := h.vehicle id hunf.1
  have hstep := handleFrame_step (P.config id) (n.vehicle id).relay frame currentEpoch departed
  refine ⟨hv.engine, hv.waiting, fun raw hraw => ?_, hv.log, fun p hp => ?_⟩
  · rcases List.mem_append.mp hraw with hold | hnew
    · exact hv.inbox raw hold
    · exact h.brings hunf hkeyed (hstep.delivered raw (Option.mem_toList.mp hnew))
  · rcases hstep.pending p hp with hold | ⟨hbrings, hne⟩
    · exact hv.pending p hold
    · exact ⟨hne, h.brings hunf hkeyed hbrings⟩

lemma outgoing_quiet (hev : e.viewEvent P n = none) : e.outgoing P n = e.action.outgoing (n.vehicle e.id) := by
  rw [RadioEvent.outgoing, hev]

lemma RadioInv.submit (h : RadioInv P n) {request : Request} (hid : e.id ∈ P.honest)
    (hparse : P.parse (P.radio.serializePacket request) = some (.request request)) (htype : request.type = .newTxns) :
    VehicleInv P n.produced
      { n.vehicle e.id with inbox := (n.vehicle e.id).inbox ++ [P.radio.serializePacket request] } := by
  have hv := h.vehicle e.id hid
  refine ⟨hv.engine, hv.waiting, fun raw hraw => ?_, hv.log, hv.pending⟩
  rcases List.mem_append.mp hraw with hold | hnew
  · exact hv.inbox raw hold
  · rw [List.mem_singleton.mp hnew]
    refine .of_parse hparse fun r hr hvote => ?_
    rw [ConsensusMessage.requests, List.mem_singleton] at hr
    exact absurd (hr ▸ htype) hvote.1

lemma GenuineMessage.logged {message : ConsensusMessage} (h : GenuineMessage P l message) :
    GenuineMessage P l message.logged := by
  cases message with
  | request r =>
    intro q hq
    rw [ConsensusMessage.logged, ConsensusMessage.requests, List.mem_singleton] at hq
    subst hq
    exact (h r (by simp [ConsensusMessage.requests])).copy rfl
  | view packet =>
    cases packet with
    | viewChange senderId data => exact h
    | newView senderId isRecovery data =>
      intro q hq
      exact absurd hq (by simp [ConsensusMessage.logged, ConsensusMessage.requests, ViewPacket.requests])
  | recoveryDataResp response | other => exact h

lemma GenuineMessage.forced {message : ConsensusMessage} (h : GenuineMessage P l message) :
    GenuineMessage P l message.forced := by
  cases message with
  | request r =>
    intro q hq
    rw [ConsensusMessage.forced, ConsensusMessage.requests, List.mem_singleton] at hq
    subst hq
    exact (h r (by simp [ConsensusMessage.requests])).copy rfl
  | _ => exact h

lemma answerFrom_genuine {log : List ConsensusMessage} (hlog : ∀ message ∈ log, GenuineMessage P l message)
    (picks : List (ℕ × ℕ × ℕ)) : GenuineMessage P l (.recoveryDataResp (answerFrom log picks)) := by
  induction picks with
  | nil =>
    intro r hr
    exact absurd hr (by simp [answerFrom, ConsensusMessage.requests, RecoveryResponse.requests])
  | cons pick picks ih =>
    obtain ⟨index, seq, currentView⟩ := pick
    rw [answerFrom]
    split
    next => exact ih
    next message hget =>
      intro r hr
      rw [ConsensusMessage.requests, requests_cons] at hr
      rcases List.mem_append.mp hr with hfirst | hothers
      · exact (hlog message (List.mem_of_getElem? hget)).logged.forced r hfirst
      · exact ih r (by rwa [ConsensusMessage.requests])

theorem RadioInv.step (n : RadioNetwork) (e : RadioEvent) (h : RadioInv P n)
    (hguard : (radioUnforgeable P n e ∧ wireFaithful P n e) ∧ senderKeyed P n e) : RadioInv P (radioStep P n e) := by
  obtain ⟨⟨hunf, hwire⟩, hkeyed⟩ := hguard
  have hid : e.id ∈ P.honest := hunf.1
  cases hev : e.viewEvent P n with
  | some ev => exact h.viewStep hid hev hwire
  | none =>
    have hv := (h.vehicle e.id hid).afterTake e.action
    rw [wireFaithful, outgoing_quiet hev] at hwire
    simp only [radioStep, hev]
    cases haction : e.action with
    | receive frame currentEpoch departed =>
      exact ⟨update_vehicle h.vehicle (h.receive haction hunf hkeyed), h.signed⟩
    | submit request =>
      rw [haction] at hwire
      dsimp only
      split
      next htype =>
        exact ⟨update_vehicle h.vehicle (h.submit hid (hwire _ (List.mem_singleton_self _)) htype), h.signed⟩
      next => exact h
    | flush due complete currentEpoch inactive =>
      obtain ⟨hvehicle, hstands⟩ := h.flush due complete currentEpoch inactive hid
      refine ⟨update_vehicle h.vehicle hvehicle, fun σ hσ => ?_⟩
      rcases List.mem_append.mp hσ with hnew | hold
      · obtain ⟨bytes, hbytes, rfl⟩ := List.mem_map.mp hnew
        exact hstands bytes hbytes
      · exact h.signed σ hold
    | answer picks =>
      rw [haction] at hwire
      refine ⟨h.vehicle, fun σ hσ => ?_⟩
      rcases List.mem_cons.mp hσ with rfl | hold
      · exact .packet rfl (.of_parse (hwire _ (List.mem_singleton_self _))
          (answerFrom_genuine (h.vehicle e.id hid).log picks))
      · exact h.signed σ hold
    | signOther bytes =>
      refine ⟨h.vehicle, fun σ hσ => ?_⟩
      rcases List.mem_cons.mp hσ with rfl | hold
      · exact .other rfl
      · exact h.signed σ hold
    | process env index =>
      rw [haction] at hv
      exact ⟨update_vehicle h.vehicle hv, h.signed⟩
    | node ev =>
      rw [haction] at hv
      exact ⟨update_vehicle h.vehicle hv, h.signed⟩

theorem votes_authentic (P : RadioParties) (primaryId : ℤ) (events : List RadioEvent)
    (hunf : Guarded (radioStep P) (radioUnforgeable P) (.initial P primaryId) events)
    (hwire : Guarded (radioStep P) (wireFaithful P) (.initial P primaryId) events)
    (hkeyed : Guarded (radioStep P) (senderKeyed P) (.initial P primaryId) events) :
    let n := run (radioStep P) (.initial P primaryId) events
    ∀ id ∈ P.honest, ∀ i,
      (∀ v ∈ ((n.vehicle id).node.engine.pool.collector i).senders, v.senderId ∈ P.honest →
        ∃ m, (v.senderId, m) ∈ n.produced ∧ voteOf m = v ∧ m.seq = ((n.vehicle id).node.engine.pool.collector i).seq) ∧
      ∀ r ∈ ((n.vehicle id).node.engine.pool.collector i).stored, r.senderId ∈ P.honest →
        ∃ m, (r.senderId, m) ∈ n.produced ∧ Copies m r := by
  intro n id hid i
  have hinv := ((hunf.and hwire).and hkeyed).invariant RadioInv.step (radioInv_initial P primaryId)
  have hv := (hinv.vehicle id hid).engine
  exact ⟨hv.votes i, hv.stored i⟩

-- the protobuf encoding of the fields that the model keeps, below 2 ^ 14
def varint (value : ℕ) : Bytes :=
  if value < 128 then putU8 value else putU8 (value % 128 + 128) ++ putU8 (value / 128)

def intField (number value : ℕ) : Bytes := if value = 0 then [] else varint (8 * number) ++ varint value

def bytesField (number : ℕ) (bytes : Bytes) : Bytes :=
  if bytes = [] then [] else varint (8 * number + 2) ++ varint bytes.length ++ bytes

def typeNumber : RequestType → ℕ
  | .newTxns => 14
  | .prePrepare => 3
  | .prepare => 4
  | .commit => 5

def batchBytes : BatchData → Bytes
  | .malformed raw _ => raw
  | .batch payloads => payloads.flatMap fun payload => bytesField 1 (bytesField 1 (bytesField 2 payload))

def requestBytes (r : Request) : Bytes :=
  intField 1 (typeNumber r.type) ++ bytesField 2 (batchBytes r.data) ++ intField 4 r.currentView ++ intField 5 r.seq ++
    bytesField 6 r.hash ++ intField 7 r.senderId.toNat ++ intField 16 r.isRecovery.toNat ++
    intField 27 r.forceRecovery.toNat

def dataBytes (type : ℕ) (data : Bytes) (senderId : ℤ) (isRecovery : Bool) : Bytes :=
  intField 1 type ++ bytesField 2 data ++ intField 7 senderId.toNat ++ intField 16 isRecovery.toNat

def envelope (data : Bytes) : Bytes := bytesField 1 data ++ bytesField 2 (bytesField 3 (ascii "x"))

def packetBytes (r : Request) : Bytes := envelope (requestBytes r)

def responseBytes : RecoveryResponse → Bytes
  | .cons _ _ (.request r) rest => bytesField 1 (requestBytes r) ++ bytesField 2 (bytesField 3 (ascii "x")) ++ responseBytes rest
  | _ => []

def newViewBytes (message : NewViewMessage) : Bytes :=
  intField 1 message.viewNumber ++
    message.request.flatMap fun r => r.requests.flatMap fun request => bytesField 2 (requestBytes request)

def otherBytes : ConsensusMessage → Bytes
  | .recoveryDataResp response => envelope (dataBytes 9 (responseBytes response) 3 false)
  | .view (.newView senderId isRecovery (some message)) =>
    envelope (dataBytes 17 (newViewBytes message) senderId isRecovery)
  | _ => []

def radioKey (radioId : ℤ) : Bytes := putU8 radioId.toNat

def primaryProposal : Request := batchRequest .prePrepare 1 [listingPayload 0 [0, 1, 2, 3]]

def commitOfTwo : Request := batchRequest .commit 2 []

def recoveryOf (request : Request) : ConsensusMessage :=
  .recoveryDataResp (.cons request.seq request.currentView (.request request) .nil)

-- the COMMITs in the name of replica 2 are the requests to send again
def newViewWithCommits : ConsensusMessage :=
  .view (.newView 1 false (some ⟨2, [0, 1].map fun seq =>
    ⟨.consensus .commit, seq + 1, 2, 2, commitOfTwo.hash, [], false, false⟩, []⟩))

def eightRadios : RadioParties where
  membership := eightMembers
  radio :=
    { replicaId := 0
      totalVehicles := 8
      toleratedFaults := 1
      carrierCap := 2
      gossipEnabled := true
      registeredKey := fun id => if 0 ≤ id ∧ id < 8 then some (radioKey id) else none
      verifyBytes := fun pubKey _ sig => decide (sig = pubKey)
      sha256Hex := id
      parsePacket := fun raw =>
        ([primaryProposal, batchRequest .prepare 2 [], commitOfTwo] ++ newViewWithCommits.requests).find? fun r =>
          packetBytes r = raw
      serializePacket := packetBytes }
  parseOther := fun raw =>
    [recoveryOf { batchRequest .prepare 2 [] with isRecovery := true }, recoveryOf commitOfTwo, newViewWithCommits].find?
      fun message => otherBytes message = raw
  serializeOther := otherBytes

def packetFrame (senderId : ℤ) (raw : Bytes) : RadioFrame :=
  ⟨.resdbConsensus, senderId - 1, -1, radioKey (senderId - 1), radioKey (senderId - 1), raw⟩

def relayFrame (carrier : ℤ) (raw : Bytes) : RadioFrame :=
  ⟨.consensusRelay, carrier - 1, -1, radioKey (carrier - 1), radioKey (carrier - 1), gossipSerialize 0 raw⟩

def heardAt (id : ℤ) (frame : RadioFrame) : List RadioEvent :=
  [⟨id, .receive frame 0 false⟩, ⟨id, .process eightCarEnv 0⟩]

def recoveredAt (id : ℤ) : List RadioEvent :=
  [⟨id, .node (.remoteRecovery eightCarEnv)⟩, ⟨id, .node (.remoteRecovery eightCarEnv)⟩]

def prepareKey : RelayKey := ⟨.prepare, 1, 1, 2, packetBytes (batchRequest .prepare 2 [])⟩

-- the PREPARE of replica 2 reaches replica 3 as a packet, replica 4 through 3's relay and replica 5 through 3's recovery
def relayedPrepare : List RadioEvent :=
  heardAt 2 (packetFrame 1 (packetBytes primaryProposal)) ++
    heardAt 3 (packetFrame 2 (packetBytes (batchRequest .prepare 2 []))) ++
    [⟨3, .flush [prepareKey] [] 0 false⟩] ++ heardAt 4 (relayFrame 3 (packetBytes (batchRequest .prepare 2 []))) ++
    [⟨3, .answer [(0, 1, 1)]⟩] ++
    heardAt 5 (packetFrame 3 (otherBytes (recoveryOf { batchRequest .prepare 2 [] with isRecovery := true }))) ++
    recoveredAt 5

theorem votes_authentic_relayed :
    let n := run (radioStep eightRadios) (.initial eightRadios 1) relayedPrepare
    ∀ id ∈ eightRadios.honest, ∀ i,
      (∀ v ∈ ((n.vehicle id).node.engine.pool.collector i).senders, v.senderId ∈ eightRadios.honest →
        ∃ m, (v.senderId, m) ∈ n.produced ∧ voteOf m = v ∧ m.seq = ((n.vehicle id).node.engine.pool.collector i).seq) ∧
      ∀ r ∈ ((n.vehicle id).node.engine.pool.collector i).stored, r.senderId ∈ eightRadios.honest →
        ∃ m, (r.senderId, m) ∈ n.produced ∧ Copies m r :=
  votes_authentic eightRadios 1 relayedPrepare (by decide +kernel) (by decide +kernel) (by decide +kernel)

def votesAt (events : List RadioEvent) (id : ℤ) (seq : ℕ) : Finset Vote :=
  (((run (radioStep eightRadios) (.initial eightRadios 1) events).vehicle id).node.engine.pool.getCollector seq).senders

example : [4, 5].map (fun id => votesAt relayedPrepare id 1) =
    [{voteOf (batchRequest .prepare 2 [])}, {voteOf (batchRequest .prepare 2 [])}] := by decide +kernel

-- replica 1 signs a COMMIT in the name of 2 with its own key: in a packet, in a relay, in a recovery, in a NEWVIEW
def forgedCommits : List (List RadioEvent × ℕ) :=
  [(heardAt 3 (packetFrame 1 (packetBytes commitOfTwo)), 1), (heardAt 3 (relayFrame 1 (packetBytes commitOfTwo)), 1),
    (heardAt 3 (packetFrame 1 (otherBytes (recoveryOf commitOfTwo))) ++ recoveredAt 3, 1),
    (heardAt 3 (packetFrame 1 (otherBytes newViewWithCommits)) ++
      [⟨3, .process eightCarEnv 0⟩, ⟨3, .process eightCarEnv 0⟩], 2)]

theorem forged_vote_counted :
    2 ∈ eightRadios.honest ∧ 3 ∈ eightRadios.honest ∧
      ∀ forged ∈ forgedCommits,
        Guarded (radioStep eightRadios) (radioUnforgeable eightRadios) (.initial eightRadios 1) forged.1 ∧
          Guarded (radioStep eightRadios) (wireFaithful eightRadios) (.initial eightRadios 1) forged.1 ∧
          votesAt forged.1 3 forged.2 = {⟨.commit, ascii "omnet-tx-3", 2⟩} ∧
          (run (radioStep eightRadios) (.initial eightRadios 1) forged.1).produced = [] := by
  decide +kernel

end V2vBft.Engine
