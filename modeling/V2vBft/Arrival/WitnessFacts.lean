import V2vBft.Arrival.Cert

namespace V2vBft.Arrival

open Wire App

variable {cfg : ArrivalConfig} {s : ArrivalState} {ann : ArrivalAnnouncement}

def cacheKey (variant claimHash : Bytes) : Bytes := variant ++ ascii ":" ++ toHex claimHash

lemma cacheKey_inj {v v' h h' : Bytes} (heq : cacheKey v h = cacheKey v' h') : v = v' ∧ h = h' := by
  have hno : ∀ bs : Bytes, ∀ b ∈ (toHex bs).reverse, (b != 58) = true := by
    intro bs b hb
    have hrange := toHex_bytes (List.mem_reverse.mp hb)
    rw [bne_iff_ne]
    rintro rfl
    simp at hrange
  have hrev : ∀ v h : Bytes, (cacheKey v h).reverse = (toHex h).reverse ++ 58 :: v.reverse := by
    intro v h
    simp [cacheKey, ascii]
  have hsplit : ∀ v h : Bytes, (cacheKey v h).reverse.takeWhile (· != 58) = (toHex h).reverse := by
    intro v h
    rw [hrev, List.takeWhile_append_of_pos (hno h)]
    simp
  have hhex : toHex h = toHex h' := by
    have hcut := hsplit v h
    rw [heq, hsplit v' h'] at hcut
    exact (List.reverse_injective hcut).symm
  have hhash := toHex_injective hhex
  subst hhash
  exact ⟨List.append_cancel_right (List.append_cancel_right heq), rfl⟩

lemma variantKey_inj {ann ann' : ArrivalAnnouncement} (h : variantKey ann = variantKey ann') :
    ann.epoch = ann'.epoch ∧ ann.carId = ann'.carId := by
  have hcut : ∀ a : ArrivalAnnouncement, (variantKey a).takeWhile (· != 58) = decimalInt a.epoch := by
    intro a
    have hno : ∀ b ∈ decimalInt a.epoch, (b != 58) = true := by
      intro b hb
      rw [bne_iff_ne]
      rintro rfl
      exact decimalInt_notMem (by decide) (by decide) hb
    rw [variantKey, List.append_assoc, List.takeWhile_append_of_pos hno]
    simp [ascii]
  have hepoch : decimalInt ann.epoch = decimalInt ann'.epoch := by rw [← hcut, ← hcut, h]
  rw [variantKey, variantKey, hepoch] at h
  exact ⟨decimalInt_injective hepoch, List.append_cancel_left h⟩

def ArrivalEcho.variant (echo : ArrivalEcho) : Bytes := decimalInt echo.epoch ++ ascii ":" ++ echo.targetCarId

@[simp] lemma echoOf_variant (cfg : ArrivalConfig) (ann : ArrivalAnnouncement) (cue : ObservedCue) :
    (echoOf cfg ann cue).variant = variantKey ann := rfl

structure Keyed (s : ArrivalState) : Prop where
  samples : ∀ p ∈ s.arrivalPerceptionSamples,
    ∃ v h, s.firstArrivalClaimHashes.lookup v = some h ∧ p.1 = cacheKey v h
  echoes : ∀ p ∈ s.cachedArrivalEchoes,
    s.firstArrivalClaimHashes.lookup p.2.variant = some p.2.claimHash ∧ p.1 = cacheKey p.2.variant p.2.claimHash
  rejections : ∀ k ∈ s.cachedArrivalRejections,
    ∃ v h, (s.firstArrivalClaimHashes.lookup v).isSome ∧ k = cacheKey v h

lemma Keyed.initial : Keyed .initial := ⟨by simp [ArrivalState.initial], by simp [ArrivalState.initial], by
  simp [ArrivalState.initial]⟩

lemma mem_of_lookup {α β : Type*} [BEq α] [LawfulBEq α] {l : List (α × β)} {a : α} {b : β} (h : l.lookup a = some b) :
    (a, b) ∈ l := by
  induction l with
  | nil => simp at h
  | cons p l ih =>
    obtain ⟨k, v⟩ := p
    rw [List.lookup_cons] at h
    split at h
    next heq =>
      rw [beq_iff_eq] at heq
      rw [heq, Option.some.inj h]
      exact List.mem_cons_self
    next => exact List.mem_cons_of_mem _ (ih h)

lemma Keyed.sample {sample : ArrivalPerceptionSample} (h : Keyed s)
    (hsample : s.arrivalPerceptionSamples.lookup (arrivalCacheKey cfg ann) = some sample) :
    s.firstArrivalClaimHashes.lookup (variantKey ann) = some (arrivalAnnouncementHash cfg ann) := by
  obtain ⟨v, claimHash, hfirst, hkey⟩ := h.samples _ (mem_of_lookup hsample)
  obtain ⟨hv, hh⟩ := cacheKey_inj hkey
  rw [hv, hh, hfirst]

lemma Keyed.echo {echo : ArrivalEcho} (h : Keyed s)
    (hecho : s.cachedArrivalEchoes.lookup (arrivalCacheKey cfg ann) = some echo) :
    echo.variant = variantKey ann ∧ echo.claimHash = arrivalAnnouncementHash cfg ann ∧
      s.firstArrivalClaimHashes.lookup (variantKey ann) = some (arrivalAnnouncementHash cfg ann) := by
  obtain ⟨hfirst, hkey⟩ := h.echoes _ (mem_of_lookup hecho)
  obtain ⟨hv, hh⟩ := cacheKey_inj hkey
  exact ⟨hv.symm, hh.symm, by rw [hv, hh]; exact hfirst⟩

lemma Keyed.untouched (h : Keyed s) (cfg : ArrivalConfig)
    (hnone : s.firstArrivalClaimHashes.lookup (variantKey ann) = none) :
    s.cachedArrivalEchoes.lookup (arrivalCacheKey cfg ann) = none ∧
      s.arrivalPerceptionSamples.lookup (arrivalCacheKey cfg ann) = none ∧
      arrivalCacheKey cfg ann ∉ s.cachedArrivalRejections := by
  refine ⟨?_, ?_, ?_⟩
  · cases hecho : s.cachedArrivalEchoes.lookup (arrivalCacheKey cfg ann) with
    | none => rfl
    | some echo =>
      have hfirst := (h.echo hecho).2.2
      rw [hnone] at hfirst
      cases hfirst
  · cases hsample : s.arrivalPerceptionSamples.lookup (arrivalCacheKey cfg ann) with
    | none => rfl
    | some sample =>
      have hfirst := h.sample hsample
      rw [hnone] at hfirst
      cases hfirst
  · intro hrej
    obtain ⟨v, claimHash, hfirst, hkey⟩ := h.rejections _ hrej
    obtain ⟨hv, -⟩ := cacheKey_inj hkey
    rw [← hv, hnone] at hfirst
    cases hfirst

lemma Keyed.reject (h : Keyed s) (hfirst : (s.firstArrivalClaimHashes.lookup (variantKey ann)).isSome) :
    Keyed (s.reject (arrivalCacheKey cfg ann)) where
  samples := h.samples
  echoes := h.echoes
  rejections := by
    intro k hk
    rcases List.mem_cons.mp hk with rfl | hk
    · exact ⟨_, _, hfirst, rfl⟩
    · exact h.rejections k hk

lemma Keyed.perceive (h : Keyed s) (sample : ArrivalPerceptionSample)
    (hfirst : s.firstArrivalClaimHashes.lookup (variantKey ann) = some (arrivalAnnouncementHash cfg ann)) :
    Keyed { s with
      arrivalPerceptionSamples := (arrivalCacheKey cfg ann, sample) :: s.arrivalPerceptionSamples } where
  samples := by
    intro p hp
    rcases List.mem_cons.mp hp with rfl | hp
    · exact ⟨_, _, hfirst, rfl⟩
    · exact h.samples p hp
  echoes := h.echoes
  rejections := h.rejections

lemma Keyed.store (h : Keyed s) (vs : VehicleState) (claimHash : Bytes) : Keyed (s.store vs claimHash) :=
  ⟨h.samples, h.echoes, h.rejections⟩

lemma lookup_cons_of_none {l : List (Bytes × Bytes)} {k k' : Bytes} {v v' : Bytes} (hnone : l.lookup k = none)
    (h : l.lookup k' = some v') : ((k, v) :: l).lookup k' = some v' := by
  rw [List.lookup_cons]
  split
  next heq =>
    rw [beq_iff_eq.mp heq, hnone] at h
    cases h
  next => exact h

inductive Admitted (cfg : ArrivalConfig) (s : ArrivalState) (ann : ArrivalAnnouncement) :
    ArrivalState × Bool → Prop
  | adopted (hnone : s.firstArrivalClaimHashes.lookup (variantKey ann) = none) :
      Admitted cfg s ann
        ({ s with
          firstArrivalClaimHashes := (variantKey ann, arrivalAnnouncementHash cfg ann) :: s.firstArrivalClaimHashes },
          true)
  | known (hfirst : s.firstArrivalClaimHashes.lookup (variantKey ann) = some (arrivalAnnouncementHash cfg ann)) :
      Admitted cfg s ann (s, true)
  | conflicting (first : Bytes) (hfirst : s.firstArrivalClaimHashes.lookup (variantKey ann) = some first)
      (hne : first ≠ arrivalAnnouncementHash cfg ann) : Admitted cfg s ann (s.reject (arrivalCacheKey cfg ann), false)

lemma admitVariant_admitted (cfg : ArrivalConfig) (s : ArrivalState) (ann : ArrivalAnnouncement) :
    Admitted cfg s ann (admitVariant cfg s ann) := by
  rw [admitVariant]
  split
  next hnone => exact .adopted hnone
  next first hfirst =>
    split
    next heq => exact .known (by rw [hfirst, heq])
    next hne => exact .conflicting first hfirst hne

structure FirstsGrow (cfg : ArrivalConfig) (s s' : ArrivalState) (ann : ArrivalAnnouncement) : Prop where
  kept : ∀ v h, s.firstArrivalClaimHashes.lookup v = some h → s'.firstArrivalClaimHashes.lookup v = some h
  adopted : ∀ v h, s'.firstArrivalClaimHashes.lookup v = some h → s.firstArrivalClaimHashes.lookup v = some h ∨
    s.firstArrivalClaimHashes.lookup v = none ∧ v = variantKey ann ∧ h = arrivalAnnouncementHash cfg ann

lemma FirstsGrow.of_eq {s' : ArrivalState} (h : s'.firstArrivalClaimHashes = s.firstArrivalClaimHashes) :
    FirstsGrow cfg s s' ann :=
  ⟨fun _ _ => by rw [h]; exact id, fun _ _ => by rw [h]; exact Or.inl⟩

lemma Admitted.firsts {r : ArrivalState × Bool} (h : Admitted cfg s ann r) : FirstsGrow cfg s r.1 ann := by
  cases h with
  | adopted hnone =>
    refine ⟨fun v c hc => lookup_cons_of_none hnone hc, fun v c hc => ?_⟩
    rw [List.lookup_cons] at hc
    split at hc
    next heq =>
      obtain rfl := beq_iff_eq.mp heq
      exact Or.inr ⟨hnone, rfl, (Option.some.inj hc).symm⟩
    next => exact Or.inl hc
  | known => exact .of_eq rfl
  | conflicting => exact .of_eq rfl

lemma Admitted.keyed {r : ArrivalState × Bool} (h : Admitted cfg s ann r) (hkeyed : Keyed s) : Keyed r.1 := by
  cases h with
  | adopted hnone =>
    refine ⟨fun p hp => ?_, fun p hp => ?_, fun k hk => ?_⟩
    · obtain ⟨v, c, hfirst, hkey⟩ := hkeyed.samples p hp
      exact ⟨v, c, lookup_cons_of_none hnone hfirst, hkey⟩
    · obtain ⟨hfirst, hkey⟩ := hkeyed.echoes p hp
      exact ⟨lookup_cons_of_none hnone hfirst, hkey⟩
    · obtain ⟨v, c, hfirst, hkey⟩ := hkeyed.rejections k hk
      obtain ⟨first, hfirst⟩ := Option.isSome_iff_exists.mp hfirst
      exact ⟨v, c, by rw [lookup_cons_of_none hnone hfirst]; rfl, hkey⟩
  | known => exact hkeyed
  | conflicting first hfirst =>
    exact hkeyed.reject (by rw [hfirst]; rfl)

lemma Admitted.first {r : ArrivalState × Bool} (h : Admitted cfg s ann r) (hadm : r.2 = true) :
    r.1.firstArrivalClaimHashes.lookup (variantKey ann) = some (arrivalAnnouncementHash cfg ann) := by
  cases h with
  | adopted => simp
  | known hfirst => exact hfirst
  | conflicting => cases hadm

inductive EchoSent (cfg : ArrivalConfig) (s : ArrivalState) (ann : ArrivalAnnouncement)
    (sign : Bytes → Option Bytes) : ArrivalState × ArrivalEffects → Prop
  | cached (echo : ArrivalEcho) (hecho : s.cachedArrivalEchoes.lookup (arrivalCacheKey cfg ann) = some echo) :
      EchoSent cfg s ann sign (s, { ArrivalEffects.none with echoes := [echo] })
  | silent : EchoSent cfg s ann sign (s, .none)
  | rejected : EchoSent cfg s ann sign (s.reject (arrivalCacheKey cfg ann), .none)
  | signed (sample : ArrivalPerceptionSample) (echo : ArrivalEcho)
      (hsample : s.arrivalPerceptionSamples.lookup (arrivalCacheKey cfg ann) = some sample)
      (hecho : echo = { echoOf cfg ann sample.observedCue with signature := echo.signature })
      (hsign : sign (arrivalEchoSigningPayload (echoOf cfg ann sample.observedCue)) = some echo.signature) :
      EchoSent cfg s ann sign
        ({ s with cachedArrivalEchoes := (arrivalCacheKey cfg ann, echo) :: s.cachedArrivalEchoes },
          { ArrivalEffects.none with signed := [echo], echoes := [echo] })

lemma sendArrivalEcho_sent (cfg : ArrivalConfig) (s : ArrivalState) (ann : ArrivalAnnouncement)
    (sign : Bytes → Option Bytes) : EchoSent cfg s ann sign (sendArrivalEcho cfg s ann sign) := by
  rw [sendArrivalEcho]
  split
  next echo hecho => exact .cached echo hecho
  next =>
    split
    next => exact .silent
    next =>
      split
      next => exact .rejected
      next sample hsample =>
        dsimp only
        split
        next => exact .silent
        next signature hsign => exact .signed sample _ hsample rfl hsign

structure AboutFirst (s' : ArrivalState) (fx : ArrivalEffects) : Prop where
  echoes : ∀ e ∈ fx.echoes, s'.firstArrivalClaimHashes.lookup e.variant = some e.claimHash

lemma EchoSent.firsts {r : ArrivalState × ArrivalEffects} {sign : Bytes → Option Bytes}
    (h : EchoSent cfg s ann sign r) : r.1.firstArrivalClaimHashes = s.firstArrivalClaimHashes := by
  cases h <;> rfl

lemma EchoSent.keyed {r : ArrivalState × ArrivalEffects} {sign : Bytes → Option Bytes}
    (h : EchoSent cfg s ann sign r) (hkeyed : Keyed s)
    (hfirst : (s.firstArrivalClaimHashes.lookup (variantKey ann)).isSome) : Keyed r.1 := by
  cases h with
  | cached => exact hkeyed
  | silent => exact hkeyed
  | rejected => exact hkeyed.reject hfirst
  | signed sample echo hsample hecho =>
    refine ⟨hkeyed.samples, fun p hp => ?_, hkeyed.rejections⟩
    rcases List.mem_cons.mp hp with rfl | hp
    · rw [hecho]
      exact ⟨hkeyed.sample hsample, rfl⟩
    · exact hkeyed.echoes p hp

lemma EchoSent.aboutFirst {r : ArrivalState × ArrivalEffects} {sign : Bytes → Option Bytes}
    (h : EchoSent cfg s ann sign r) (hkeyed : Keyed s) : AboutFirst r.1 r.2 := by
  constructor
  intro e he
  rw [h.firsts]
  cases h with
  | cached echo hecho =>
    obtain rfl := List.mem_singleton.mp he
    obtain ⟨hv, hh, hfirst⟩ := hkeyed.echo hecho
    rw [hv, hh, hfirst]
  | silent => cases he
  | rejected => cases he
  | signed sample echo hsample hecho =>
    obtain rfl := List.mem_singleton.mp he
    rw [hecho]
    exact hkeyed.sample hsample

lemma perceiveArrival_echoes (cfg : ArrivalConfig) (s : ArrivalState) (ann : ArrivalAnnouncement)
    (fresh : ArrivalPerceptionSample) :
    (perceiveArrival cfg s ann fresh).1.cachedArrivalEchoes = s.cachedArrivalEchoes := by
  rw [perceiveArrival]
  split <;> rfl

lemma refuseAnnouncement_echoes (cfg : ArrivalConfig) (s : ArrivalState) (ann : ArrivalAnnouncement)
    (sample : ArrivalPerceptionSample) :
    (refuseAnnouncement cfg s ann sample).1.cachedArrivalEchoes = s.cachedArrivalEchoes ∧
      ∀ vs, (refuseAnnouncement cfg s ann sample).2 = some vs → vs.isAmbulance = false := by
  rw [refuseAnnouncement]
  dsimp only
  split
  next => exact ⟨rfl, fun vs hvs => by rw [← Option.some.inj hvs]; rfl⟩
  next => exact ⟨rfl, by simp⟩

def acceptsAnnouncement (cfg : ArrivalConfig) (s : ArrivalState) (ann : ArrivalAnnouncement)
    (fresh : ArrivalPerceptionSample) : Bool :=
  (admitVariant cfg s ann).2 && (s.cachedArrivalEchoes.lookup (arrivalCacheKey cfg ann)).isNone &&
    decide (arrivalCacheKey cfg ann ∉ s.cachedArrivalRejections) && laneMatch cfg ann (sampleFor cfg s ann fresh)

-- how considerAnnouncement ends; `s` is the state behind the first-variant rule in every case but the first
inductive Considered (cfg : ArrivalConfig) (app : AppState) (s : ArrivalState) (ann : ArrivalAnnouncement)
    (fresh : ArrivalPerceptionSample) (sign : Bytes → Option Bytes) : ArrivalState × ArrivalEffects → Prop
  | ignored : Considered cfg app s ann fresh sign ((admitVariant cfg s ann).1, .none)
  | resent (echo : ArrivalEcho) (hadm : (admitVariant cfg s ann).2 = true)
      (hecho : s.cachedArrivalEchoes.lookup (arrivalCacheKey cfg ann) = some echo) :
      Considered cfg app s ann fresh sign ((admitVariant cfg s ann).1, { ArrivalEffects.none with echoes := [echo] })
  | refused (hadm : (admitVariant cfg s ann).2 = true)
      (hnew : s.cachedArrivalEchoes.lookup (arrivalCacheKey cfg ann) = none) :
      Considered cfg app s ann fresh sign
        ((refuseAnnouncement cfg (perceiveArrival cfg (admitVariant cfg s ann).1 ann fresh).1 ann
            (sampleFor cfg s ann fresh)).1,
          { ArrivalEffects.none with
            perceived := (perceiveArrival cfg (admitVariant cfg s ann).1 ann fresh).2
            stored := (refuseAnnouncement cfg (perceiveArrival cfg (admitVariant cfg s ann).1 ann fresh).1 ann
              (sampleFor cfg s ann fresh)).2 })
  | accepted (haccept : acceptsAnnouncement cfg s ann fresh = true) (hadm : (admitVariant cfg s ann).2 = true) :
      Considered cfg app s ann fresh sign
        ((acceptAnnouncement cfg app (perceiveArrival cfg (admitVariant cfg s ann).1 ann fresh).1 ann sign).1,
          { (acceptAnnouncement cfg app (perceiveArrival cfg (admitVariant cfg s ann).1 ann fresh).1 ann sign).2 with
            perceived := (perceiveArrival cfg (admitVariant cfg s ann).1 ann fresh).2 })

lemma Admitted.caches {r : ArrivalState × Bool} (h : Admitted cfg s ann r) :
    r.1.cachedArrivalEchoes = s.cachedArrivalEchoes ∧
      r.1.arrivalPerceptionSamples = s.arrivalPerceptionSamples ∧
      (r.2 = true → r.1.cachedArrivalRejections = s.cachedArrivalRejections) := by
  cases h with
  | adopted => exact ⟨rfl, rfl, fun _ => rfl⟩
  | known => exact ⟨rfl, rfl, fun _ => rfl⟩
  | conflicting => exact ⟨rfl, rfl, fun h => absurd h (by simp)⟩

lemma considerAnnouncement_considered (cfg : ArrivalConfig) (app : AppState) (s : ArrivalState)
    (ann : ArrivalAnnouncement) (fresh : ArrivalPerceptionSample) (sign : Bytes → Option Bytes) :
    Considered cfg app s ann fresh sign (considerAnnouncement cfg app s ann fresh sign) := by
  obtain ⟨hechoes, hsamples, hrejections⟩ := (admitVariant_admitted cfg s ann).caches
  rw [considerAnnouncement]
  split
  next => exact .ignored
  next hadm =>
    have hadm : (admitVariant cfg s ann).2 = true := by simpa using hadm
    rw [hechoes, hrejections hadm]
    split
    next hcached =>
      obtain ⟨echo, hecho⟩ := Option.isSome_iff_exists.mp hcached
      split
      next => exact .ignored
      next =>
        have hsend : sendArrivalEcho cfg (admitVariant cfg s ann).1 ann sign =
            ((admitVariant cfg s ann).1, { ArrivalEffects.none with echoes := [echo] }) := by
          rw [sendArrivalEcho]
          simp only [hechoes, hecho]
        rw [hsend]
        exact .resent echo hadm hecho
    next hnew =>
      have hnew : s.cachedArrivalEchoes.lookup (arrivalCacheKey cfg ann) = none :=
        Option.not_isSome_iff_eq_none.mp hnew
      split
      next => exact .ignored
      next hrej =>
        have hsample : sampleFor cfg (admitVariant cfg s ann).1 ann fresh = sampleFor cfg s ann fresh := by
          rw [sampleFor, sampleFor, hsamples]
        rw [evaluateAnnouncement]
        dsimp only
        rw [hsample]
        split
        next hlane =>
          exact .accepted (by simp [acceptsAnnouncement, hadm, hnew, hrej, hlane]) hadm
        next => exact .refused hadm hnew

lemma considerAnnouncement_accepts {app : AppState} {fresh : ArrivalPerceptionSample} {sign : Bytes → Option Bytes}
    (h : acceptsAnnouncement cfg s ann fresh = true) :
    (considerAnnouncement cfg app s ann fresh sign).2.stored =
      some (vehicleStateOf ann ann.lane (gatedIsAmbulance cfg ann)) := by
  obtain ⟨hechoes, hsamples, hrejections⟩ := (admitVariant_admitted cfg s ann).caches
  simp only [acceptsAnnouncement, Bool.and_eq_true, decide_eq_true_eq, Option.isNone_iff_eq_none] at h
  obtain ⟨⟨⟨hadm, hnew⟩, hrej⟩, hlane⟩ := h
  have hsample : sampleFor cfg (admitVariant cfg s ann).1 ann fresh = sampleFor cfg s ann fresh := by
    rw [sampleFor, sampleFor, hsamples]
  rw [considerAnnouncement]
  simp only [hadm, hechoes, hrejections hadm, hnew, hrej, Bool.not_true, Bool.false_eq_true, if_false,
    Option.isSome_none]
  rw [evaluateAnnouncement]
  simp only [hsample, hlane, if_true]
  rfl

def ArrivalEvent.witness : ArrivalEvent → Option (ArrivalPerceptionSample × (Bytes → Option Bytes))
  | .announcement _ _ fresh sign => some (fresh, sign)
  | .announcementGossip _ _ fresh sign => some (fresh, sign)
  | _ => none

lemma arrivalStep_witness (cfg : ArrivalConfig) (n : ArrivalNode) {ev : ArrivalEvent}
    {fresh : ArrivalPerceptionSample} {sign : Bytes → Option Bytes} (h : ev.witness = some (fresh, sign)) :
    arrivalStep cfg n ev = match heard cfg n ev with
      | none => (n, .none)
      | some ann =>
        (⟨n.app, (considerAnnouncement cfg n.app n.arrival ann fresh sign).1⟩,
          (considerAnnouncement cfg n.app n.arrival ann fresh sign).2) := by
  cases ev with
  | announcement g payload fresh' sign' =>
    obtain ⟨rfl, rfl⟩ := Prod.mk.inj (Option.some.inj h)
    simp only [arrivalStep, heard, handleArrivalAnnouncement]
    split
    next => rfl
    next => cases authenticAnnouncement cfg payload <;> rfl
  | announcementGossip g inner fresh' sign' =>
    obtain ⟨rfl, rfl⟩ := Prod.mk.inj (Option.some.inj h)
    simp only [arrivalStep, heard, handleArrivalAnnouncementGossip]
    cases hparse : gossipParse inner with
    | none => rfl
    | some parsed =>
      obtain ⟨epoch, announceBytes⟩ := parsed
      simp only [handleArrivalAnnouncement]
      split
      next => rfl
      next =>
        split
        next => rfl
        next =>
          split
          next => rfl
          next => cases authenticAnnouncement cfg announceBytes <;> rfl
  | _ => cases h

structure SameCaches (s s' : ArrivalState) : Prop where
  samples : s'.arrivalPerceptionSamples = s.arrivalPerceptionSamples
  echoes : s'.cachedArrivalEchoes = s.cachedArrivalEchoes
  rejections : s'.cachedArrivalRejections = s.cachedArrivalRejections
  firsts : s'.firstArrivalClaimHashes = s.firstArrivalClaimHashes

lemma SameCaches.refl (s : ArrivalState) : SameCaches s s := ⟨rfl, rfl, rfl, rfl⟩

lemma SameCaches.keyed {s' : ArrivalState} (h : SameCaches s s') (hkeyed : Keyed s) : Keyed s' := by
  obtain ⟨hsamples, hechoes, hrejections, hfirsts⟩ := h
  constructor
  · rw [hsamples, hfirsts]
    exact hkeyed.samples
  · rw [hechoes, hfirsts]
    exact hkeyed.echoes
  · rw [hrejections, hfirsts]
    exact hkeyed.rejections

lemma collectArrivalEcho_sameCaches (cfg : ArrivalConfig) (g : Gates) (app : AppState) (s : ArrivalState)
    (echo : ArrivalEcho) : SameCaches s (collectArrivalEcho cfg g app s echo) := by
  rw [collectArrivalEcho]
  repeat' split
  all_goals exact ⟨rfl, rfl, rfl, rfl⟩

lemma addLocalSelfAttestation_cases (cfg : ArrivalConfig) (g : Gates) (app : AppState) (s : ArrivalState)
    (ann : ArrivalAnnouncement) (sign : Bytes → Option Bytes) :
    addLocalSelfAttestation cfg g app s ann sign = (s, []) ∨
      ∃ echo : ArrivalEcho, echo.epoch = ann.epoch ∧
        addLocalSelfAttestation cfg g app s ann sign = (collectArrivalEcho cfg g app s echo, [echo]) := by
  rw [addLocalSelfAttestation]
  dsimp only
  split
  next => exact Or.inl rfl
  next =>
    split
    next => exact Or.inl rfl
    next => exact Or.inr ⟨_, rfl, rfl⟩

lemma broadcastArrivalAnnouncement_sameCaches (cfg : ArrivalConfig) (g : Gates) (app : AppState) (s : ArrivalState)
    (measured : ArrivalAnnouncement) (sign : Bytes → Option Bytes) :
    SameCaches s (broadcastArrivalAnnouncement cfg g app s measured sign).1 := by
  rw [broadcastArrivalAnnouncement]
  split
  next => exact .refl s
  next =>
    split
    next => exact .refl s
    next =>
      dsimp only
      rcases addLocalSelfAttestation_cases cfg g app _ (ownAnnouncement cfg app measured sign) sign with
        hself | ⟨echo, -, hself⟩
      · rw [hself]
        exact ⟨rfl, rfl, rfl, rfl⟩
      · rw [hself]
        have h := collectArrivalEcho_sameCaches cfg g app
        exact ⟨(h _ echo).samples, (h _ echo).echoes, (h _ echo).rejections, (h _ echo).firsts⟩

structure ClaimantStep (n n' : ArrivalNode) (fx : ArrivalEffects) : Prop where
  caches : SameCaches n.arrival n'.arrival ∨ n'.arrival = .initial
  echoes : fx.echoes = []
  perceived : fx.perceived = none

lemma arrivalStep_claimant (cfg : ArrivalConfig) (n : ArrivalNode) {ev : ArrivalEvent} (h : ev.witness = none) :
    heard cfg n ev = none ∧ ClaimantStep n (arrivalStep cfg n ev).1 (arrivalStep cfg n ev).2 := by
  cases ev with
  | app ev =>
    refine ⟨rfl, ⟨?_, rfl, rfl⟩⟩
    simp only [arrivalStep]
    split
    next => exact Or.inr rfl
    next => exact Or.inl (.refl _)
  | announcement => cases h
  | announcementGossip => cases h
  | announce g measured sign =>
    refine ⟨rfl, ⟨Or.inl (broadcastArrivalAnnouncement_sameCaches cfg g n.app n.arrival measured sign), ?_, ?_⟩⟩
    all_goals
      simp only [arrivalStep, broadcastArrivalAnnouncement]
      repeat' split
      all_goals rfl
  | echo g echo =>
    refine ⟨rfl, ⟨Or.inl ?_, rfl, rfl⟩⟩
    simp only [arrivalStep, handleArrivalEcho]
    split
    next => exact .refl _
    next => exact collectArrivalEcho_sameCaches cfg g n.app n.arrival echo
  | cert cert =>
    refine ⟨rfl, ?_⟩
    simp only [arrivalStep, handleArrivalCert]
    split
    all_goals exact ⟨Or.inl ⟨rfl, rfl, rfl, rfl⟩, rfl, rfl⟩
  | finalizeCert =>
    refine ⟨rfl, ?_⟩
    simp only [arrivalStep, finalizeLocalArrivalCert]
    repeat' split
    all_goals exact ⟨Or.inl ⟨rfl, rfl, rfl, rfl⟩, rfl, rfl⟩

end V2vBft.Arrival
