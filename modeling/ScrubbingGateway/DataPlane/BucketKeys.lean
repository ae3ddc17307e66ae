import ScrubbingGateway.DataPlane.Isolation

/-!
# Which buckets a packet makes

A bucket is never removed. A packet makes buckets of its own service only, when that service is
enabled, and it is lost to a map without room only when there is none for those.
-/

namespace ScrubbingGateway.DataPlane

open Prog

/-- The packet was dropped for a map error in a stage that asks a bucket of its service. -/
def Passage.Starved (p : Passage) : Prop :=
  p.dropped = some DropReason.mapError.code ∧ p.stage.limits = true

/-- New buckets of services are those of an enabled service the frame reaches. -/
def Grows (c : ConfigMaps) (frame : Frame) (k k' : Kernel) : Prop :=
  ∀ map, map ≠ .nodeBurstState → ∀ id ∈ k'.runtime.buckets map,
    id ∈ k.runtime.buckets map ∨ ServedAs c frame id

section Packet

variable {c : ConfigMaps} {frame : Frame} {owner : UInt32} {stage : Stage}
  {prog : PacketProg Verdict} {k k₁ k₂ k₃ : Kernel} {p : Passage}

theorem Grows.trans (first : Grows c frame k₁ k₂) (second : Grows c frame k₂ k₃) :
    Grows c frame k₁ k₃ := by
  intro map keyed id present
  rcases second map keyed id present with before | new
  · exact first map keyed id before
  · exact .inr new

theorem Grows.of_steady (same : k₁.steady = k₂.steady) : Grows c frame k₁ k₂ := by
  simp only [Kernel.steady, Prod.mk.injEq] at same
  obtain ⟨_, _, _, _, _, buckets⟩ := same
  intro map _ id present
  rw [buckets]
  exact .inl present

variable {map : BucketMap} {key : UInt32}

theorem grows_setBucket (bucket : RlBucket) (served : map ≠ .nodeBurstState → ServedAs c frame key) :
    Grows c frame k (k.ticked.setBucket map key bucket) := by
  intro map' keyed id present
  rw [buckets_setBucket] at present
  split at present
  next same =>
    rcases (AList.mem_insert _).mp present with rfl | before
    · exact .inr (served (same ▸ keyed))
    · exact .inl before
  · exact .inl present

theorem grows_askNode (config : FairNodeConfig) (len : UInt64) :
    Grows c frame k (k.askNode config len).2 := by
  unfold Kernel.askNode
  split
  · exact grows_setBucket _ fun node => absurd rfl node
  · exact .of_steady rfl

theorem Staged.grows (staged : Staged c frame owner stage prog) (config : k.config = c) :
    Grows c frame k (eval packetMachine prog k).2 :=
  staged.related config Grows.trans Grows.of_steady
    (fun _ _ _ _ _ served => by
      unfold Kernel.askBucket
      split
      · exact grows_setBucket _ fun _ => served
      · exact .of_steady rfl)
    fun _ config len => grows_askNode config len

/-- Every bucket stays. -/
def Keeps (k k' : Kernel) : Prop := ∀ map, ∀ id ∈ k.runtime.buckets map, id ∈ k'.runtime.buckets map

theorem Keeps.trans (first : Keeps k₁ k₂) (second : Keeps k₂ k₃) : Keeps k₁ k₃ :=
  fun map id present => second map id (first map id present)

theorem keeps_setBucket {bucket : RlBucket} : Keeps k (k.setBucket map key bucket) := by
  intro map' id present
  rw [buckets_setBucket]
  split
  · exact (AList.mem_insert _).mpr (.inr present)
  · exact present

theorem exec_keeps (q : PacketCall) (k : Kernel) : Keeps k (q.exec k).2 := by
  cases q with
  | bucketWrite map key bucket => exact keeps_setBucket
  | bucketUpdate map key bucket =>
    rw [PacketCall.exec]
    split
    · exact keeps_setBucket
    · exact fun _ _ present => present
  | svcStatInsert id =>
    rw [PacketCall.exec]
    split <;> exact fun _ _ present => present
  | svcStatAddClean | svcStatAddDrop =>
    rw [PacketCall.exec, Runtime.modifySvcStat]
    split <;> exact fun _ _ present => present
  | _ => exact fun _ _ present => present

theorem eval_keeps {α : Type} (prog : PacketProg α) (k : Kernel) :
    Keeps k (eval packetMachine prog k).2 := by
  induction prog generalizing k with
  | ret | fail | unfinished => exact fun _ _ present => present
  | call q next ih => exact (exec_keeps q k).trans (ih _ _)

theorem eval_nodeControl (staged : Staged c frame owner stage prog) (config : k.config = c) :
    k.runtime.nodeControl = (eval packetMachine prog k).2.runtime.nodeControl := by
  refine staged.related (R := fun k k' => k.runtime.nodeControl = k'.runtime.nodeControl) config
    Eq.trans ?_ ?_ ?_
  · intro k₁ k₂ same
    simp only [Kernel.steady, Prod.mk.injEq] at same
    exact same.2.2.2.1
  · intro k l map len _ _
    unfold Kernel.askBucket
    split <;> rfl
  · intro k config len
    unfold Kernel.askNode
    split <;> rfl

/-! ## A packet with room for its buckets -/

theorem not_starved_redirectOut (undropped : p.dropped = none) (pkt : PktMeta) :
    ¬ (p.through (redirectOut frame pkt) k).Starved := by
  rw [through_redirectOut]
  rintro ⟨error, _⟩
  split at error
  · cases DropReason.code_injective (Option.some.inj error)
  · rw [undropped] at error
    cases error

/-- With its config in the active slot and room for its buckets, a service loses no packet to a
map error in the stages that ask those buckets. -/
theorem Staged.not_starved (staged : Staged c frame owner stage prog) (config : k.config = c)
    (configured : Configured c owner) (fits : BucketsFit owner k) (here : p.stage = stage)
    (undropped : p.dropped = none) : ¬ (p.through prog k).Starved := by
  induction staged generalizing k p with
  | @look stage q next looks rest ih =>
    show ¬ ((p.after q).through (next (q.exec k).1) (q.exec k).2).Starved
    rw [exec_of_looks looks, after_of_looks looks]
    refine ih k config config fits ?_ ?_
    · rw [Passage.enter_stage, here]
    · rw [Passage.enter_dropped, undropped]
  | @control stage next rest ih =>
    show ¬ ((p.after .nodeControl).through _ _).Starved
    have stays : p.after .nodeControl = p := p.enter_self
    rw [stays]
    exact ih _ config fits here undropped
  | @falsePositive stage bloom next rest ih =>
    show ¬ ((p.after (.bloomFpAdd bloom)).through _ _).Starved
    have stays : p.after (.bloomFpAdd bloom) = p := p.enter_self
    rw [stays]
    exact ih config fits here undropped
  | @bucket stage l map pkt len next ofService limited served full rest ih =>
    have ran := eval_bucketAdmit (k := k) l map owner len
    rw [Kernel.askBucket, if_pos (fits map ofService)] at ran
    rw [through_bind ran, through_bucketAdmit]
    refine ih _ config (fits.setBucket _) ?_ ?_
    · rw [Passage.enter_stage, here]
    · rw [Passage.enter_dropped, undropped]
  | @node nodeConfig pkt len next limited served missing refused passed =>
    rw [through_bind (eval_fairNodeAdmit nodeConfig len), through_fairNodeAdmit]
    -- in the node stage even an error is not one of a service bucket
    have elsewhere (reason : DropReason) (now : Kernel) :
        ¬ (p.through (recordDrop pkt reason) now).Starved := by
      rw [through_recordDrop]
      rintro ⟨_, limits⟩
      rw [show (p.drop reason).stage = .node from here] at limits
      cases limits
    cases (k.askNode nodeConfig len).1 with
    | none =>
      rw [missing]
      exact elsewhere _ _
    | some admitted =>
      cases admitted with
      | false =>
        rw [refused]
        exact elsewhere _ _
      | true =>
        rw [passed]
        exact not_starved_redirectOut undropped pkt
  | @drop stage pkt reason owned located =>
    rw [through_recordDrop]
    rintro ⟨error, limits⟩
    have same : reason = .mapError := DropReason.code_injective (Option.some.inj error)
    rw [show (p.drop reason).stage = stage from here, located same configured] at limits
    cases limits
  | out | arp => exact not_starved_redirectOut undropped _
  | bypass length =>
    rw [through_redirectOutBypass]
    rintro ⟨error, _⟩
    rw [undropped] at error
    cases error

end Packet

/-! ## The way to the ingress cap -/

/-- Two programs that make the same calls at a kernel from two passages on, apart from looks that
one of them has behind it. -/
structure Leads (k : Kernel) (p : Passage) (prog : PacketProg Verdict) (p' : Passage)
    (prog' : PacketProg Verdict) : Prop where
  eval : eval packetMachine prog k = eval packetMachine prog' k
  through : p.through prog k = p'.through prog' k

namespace Leads

variable {k : Kernel} {p p' p'' : Passage} {prog prog' prog'' : PacketProg Verdict}

theorem trans (first : Leads k p prog p' prog') (second : Leads k p' prog' p'' prog'') :
    Leads k p prog p'' prog'' :=
  ⟨first.eval.trans second.eval, first.through.trans second.through⟩

theorem look {q : PacketCall} {f : q.Answer → PacketProg Verdict} (unmoved : (q.exec k).2 = k) :
    Leads k p (ask q >>= f) (p.after q) (f (q.exec k).1) :=
  ⟨by rw [eval_ask, unmoved], by rw [through_ask, unmoved]⟩

theorem outer {o : Outer} {slot : UInt32} {id : MapId} {f : Option MapId → PacketProg Verdict}
    (installed : k.config.outer o slot = some id) :
    Leads k p (ask (.outer o slot) >>= f) (p.after (.outer o slot)) (f (some id)) := by
  have looked := look (k := k) (p := p) (q := .outer o slot) (f := f) rfl
  rwa [show (PacketCall.exec (.outer o slot) k).1 = some id from installed] at looked

theorem inner {o : Outer} {id : MapId} {key : o.Key} {v : o.Val}
    {f : Option o.Val → PacketProg Verdict}
    (stored : ((k.config.inner o)[id]?.bind fun t => Inner.find o t key) = some v) :
    Leads k p (ask (.inner o id key) >>= f) p (f (some v)) := by
  have looked := look (k := k) (p := p) (q := .inner o id key) (f := f) rfl
  rw [show (PacketCall.exec (.inner o id key) k).1 = some v from stored] at looked
  rwa [show p.after (.inner o id key) = p from p.enter_self] at looked

end Leads

theorem xdpGateway_of_reaches {frame : Frame} (reaches : reachesLookup frame = true) :
    xdpGateway frame = nodeControlBypass >>= fun bypass =>
      if bypass = true then redirectOutBypass (parsedPacket frame)
      else serviceLookupRedirect frame (parsedPacket frame) := by
  simp only [reachesLookup, decide_eq_true_eq] at reaches
  obtain ⟨eth, ipv4, ip, l4⟩ := reaches
  simp only [xdpGateway, ipv4Stage, eth, ipv4, ip, l4]
  rfl

section Cap

variable {k : Kernel} {frame : Frame} {active : ActiveConfig} {service : ServiceVal}
  {config : FairConfig}

theorem serviceStages_leads {slot : UInt32} (frame : Frame) (pkt : PktMeta) (service : ServiceVal)
    (fair : slotLookup k.config slot .fairConfigMap pkt.serviceId = some config) :
    ∃ next, next none = recordDrop pkt .mapError ∧
      Leads k .start (serviceStages frame pkt slot service) ⟨[.lookup], .ingressCap, none⟩
        ((fairCapLimiter config).bucketAdmit .serviceIngressCapState pkt.serviceId
          (UInt64.ofNat frame.length) >>= next) := by
  obtain ⟨id, installed, stored⟩ := Option.bind_eq_some_iff.mp fair
  apply Exists.intro
  refine And.intro ?full ?leads
  case leads =>
    rw [serviceStages, ingressCapStage, bind_assoc, fairConfigLookup, bind_assoc]
    refine (Leads.outer installed).trans ?_
    refine (Leads.inner (o := .fairConfigMap) stored).trans ?_
    show Leads k _ ((fairCapAdmit config pkt _ >>= _) >>= _) _ _
    rw [bind_assoc, fairCapAdmit]
    exact ⟨rfl, rfl⟩
  case full =>
    dsimp only
    rw [bind_assoc]
    exact bind_ret_self _

/-- A packet of an enabled service gets to the ingress cap, unless the node is bypassed. -/
theorem xdpGateway_leads (found : serviceFor k.config frame = some service)
    (enabled : service.enabled ≠ 0) (read : k.config.activeConfig = some active)
    (fair : slotLookup k.config active.activeSlot .fairConfigMap service.serviceId = some config)
    (control : ∀ bypass ∈ k.runtime.nodeControl, bypass = 0) :
    ∃ pkt next, next none = recordDrop pkt .mapError ∧
      Leads k .start (xdpGateway frame) ⟨[.lookup], .ingressCap, none⟩
        ((fairCapLimiter config).bucketAdmit .serviceIngressCapState service.serviceId
          (UInt64.ofNat frame.length) >>= next) := by
  obtain ⟨reaches, entry⟩ : reachesLookup frame = true ∧
      slotLookup k.config active.activeSlot .serviceMap
        (serviceKey 32 (parsedPacket frame).dstIp) = some service := by
    obtain ⟨reaches, found⟩ := Option.ite_none_right_eq_some.mp found
    rw [read, Option.bind_some] at found
    exact ⟨reaches, found⟩
  obtain ⟨id, installed, stored⟩ := Option.bind_eq_some_iff.mp entry
  -- the node is not bypassed, so the service is looked up
  have looked : Leads k .start (xdpGateway frame) .start
      (serviceLookupRedirect frame (parsedPacket frame)) := by
    rw [xdpGateway_of_reaches reaches, nodeControlBypass, bind_assoc]
    refine (Leads.look rfl).trans ?_
    show Leads k .start (_ >>= _) .start _
    dsimp only [PacketCall.exec]
    cases answer : k.runtime.nodeControl with
    | none => exact ⟨rfl, rfl⟩
    | some bypass =>
      rw [control bypass answer]
      exact ⟨rfl, rfl⟩
  have served : Leads k .start (serviceLookupRedirect frame (parsedPacket frame)) .start
      (serviceStages frame { parsedPacket frame with serviceId := service.serviceId }
        active.activeSlot service) := by
    rw [serviceLookupRedirect]
    refine (Leads.look rfl).trans ?_
    rw [show (PacketCall.exec .activeConfig k).1 = some active from read]
    refine (Leads.outer installed).trans ?_
    refine (Leads.inner (o := .serviceMap) stored).trans ?_
    dsimp only
    rw [if_neg enabled]
    exact ⟨rfl, rfl⟩
  obtain ⟨next, full, capped⟩ := serviceStages_leads frame
    { parsedPacket frame with serviceId := service.serviceId } service fair
  exact ⟨_, next, full, looked.trans (served.trans capped)⟩

variable (found : serviceFor k.config frame = some service) (enabled : service.enabled ≠ 0)
  (read : k.config.activeConfig = some active)
  (fair : slotLookup k.config active.activeSlot .fairConfigMap service.serviceId = some config)
  (control : ∀ bypass ∈ k.runtime.nodeControl, bypass = 0)

include found enabled read fair control

theorem mem_capState_of_room
    (room : k.runtime.bucketRoom .serviceIngressCapState service.serviceId = true) :
    service.serviceId ∈
      (eval packetMachine (xdpGateway frame) k).2.runtime.buckets .serviceIngressCapState := by
  obtain ⟨pkt, next, full, leads⟩ := xdpGateway_leads found enabled read fair control
  rw [leads.eval, eval_bind (eval_bucketAdmit ..)]
  refine eval_keeps _ _ .serviceIngressCapState service.serviceId ?_
  rw [Kernel.askBucket, if_pos room, buckets_setBucket, if_pos rfl]
  exact (AList.mem_insert _).mpr (.inl rfl)

theorem starved_of_full
    (full : k.runtime.bucketRoom .serviceIngressCapState service.serviceId = false) :
    (passage k frame).Starved := by
  obtain ⟨pkt, next, dropped, leads⟩ := xdpGateway_leads found enabled read fair control
  have ran := eval_bucketAdmit (k := k) (fairCapLimiter config) .serviceIngressCapState
    service.serviceId (UInt64.ofNat frame.length)
  rw [Kernel.askBucket, full] at ran
  rw [passage, leads.through, through_bind ran, through_bucketAdmit]
  show ((Passage.enter _ _).through (next none) _).Starved
  rw [dropped, through_recordDrop]
  exact ⟨rfl, rfl⟩

end Cap

end ScrubbingGateway.DataPlane
