import ScrubbingGateway.DataPlane.Passage

/-!
# Isolation of services

Two traces with the same packets of one service and arbitrary other frames in between. All a packet
of the service reads, apart from the node bucket, is either never written by packets or kept under
the id of the service, so the two runs go through its packets in lockstep until the node bucket
decides.
-/

namespace ScrubbingGateway.DataPlane

open Prog

/-- Two kernels that packets of a service cannot tell apart before they ask the node bucket. -/
structure Agree (owner : UInt32) (k₁ k₂ : Kernel) : Prop where
  config : k₁.config = k₂.config
  ncpus : k₁.runtime.rlNcpus = k₂.runtime.rlNcpus
  rateLimitConfig : k₁.runtime.rateLimitConfig = k₂.runtime.rateLimitConfig
  nodeControl : k₁.runtime.nodeControl = k₂.runtime.nodeControl
  nexthopMap : k₁.runtime.nexthopMap = k₂.runtime.nexthopMap
  buckets : ∀ map, map ≠ .nodeBurstState →
    (k₁.runtime.buckets map).lookup owner = (k₂.runtime.buckets map).lookup owner
  node : ((k₁.runtime.buckets .nodeBurstState).lookup 0).isSome =
    ((k₂.runtime.buckets .nodeBurstState).lookup 0).isSome

/-- The maps of buckets have room for those of a service. -/
def BucketsFit (owner : UInt32) (k : Kernel) : Prop :=
  ∀ map, map ≠ .nodeBurstState → k.runtime.bucketRoom map owner = true

namespace Agree

variable {owner : UInt32} {k k₁ k₂ k₃ : Kernel}

theorem refl (owner : UInt32) (k : Kernel) : Agree owner k k :=
  ⟨rfl, rfl, rfl, rfl, rfl, fun _ _ => rfl, rfl⟩

theorem symm (agree : Agree owner k₁ k₂) : Agree owner k₂ k₁ :=
  ⟨agree.config.symm, agree.ncpus.symm, agree.rateLimitConfig.symm, agree.nodeControl.symm,
    agree.nexthopMap.symm, fun map keyed => (agree.buckets map keyed).symm, agree.node.symm⟩

theorem trans (first : Agree owner k₁ k₂) (second : Agree owner k₂ k₃) : Agree owner k₁ k₃ :=
  ⟨first.config.trans second.config, first.ncpus.trans second.ncpus,
    first.rateLimitConfig.trans second.rateLimitConfig,
    first.nodeControl.trans second.nodeControl, first.nexthopMap.trans second.nexthopMap,
    fun map keyed => (first.buckets map keyed).trans (second.buckets map keyed),
    first.node.trans second.node⟩

theorem move {k₁' k₂' : Kernel} (agree : Agree owner k₁ k₂) (left : Agree owner k₁ k₁')
    (right : Agree owner k₂ k₂') : Agree owner k₁' k₂' :=
  left.symm.trans (agree.trans right)

theorem of_steady (same : k₁.steady = k₂.steady) : Agree owner k₁ k₂ := by
  simp only [Kernel.steady, Prod.mk.injEq] at same
  obtain ⟨config, ncpus, rates, control, nexthops, buckets⟩ := same
  exact ⟨config, ncpus, rates, control, nexthops, fun map _ => by rw [buckets], by rw [buckets]⟩

end Agree

/-! ## Asking buckets -/

section Buckets

variable {owner key : UInt32} {k k₁ k₂ : Kernel} {map : BucketMap}

theorem buckets_setBucket (k : Kernel) (map : BucketMap) (key : UInt32) (bucket : RlBucket)
    (map' : BucketMap) : (k.setBucket map key bucket).runtime.buckets map' =
      if map' = map then (k.runtime.buckets map').insert key bucket
      else k.runtime.buckets map' := by
  show Function.update k.runtime.buckets map _ map' = _
  split
  next same => rw [same, Function.update_self]
  next other => exact Function.update_of_ne other ..

theorem agree_setBucket (bucket : RlBucket)
    (elsewhere : map ≠ .nodeBurstState ∧ key ≠ owner ∨ map = .nodeBurstState ∧
      ((k.runtime.buckets map).lookup key).isSome) :
    Agree owner k (k.ticked.setBucket map key bucket) where
  config := rfl
  ncpus := rfl
  rateLimitConfig := rfl
  nodeControl := rfl
  nexthopMap := rfl
  buckets map' keyed := by
    rw [buckets_setBucket]
    split
    next same =>
      have other : key ≠ owner := by
        rcases elsewhere with ⟨_, other⟩ | ⟨node, _⟩
        · exact other
        · exact absurd (same.trans node) keyed
      rw [AList.lookup_insert_ne other.symm]
      rfl
    · rfl
  node := by
    rw [buckets_setBucket]
    split
    next same =>
      have present := (elsewhere.resolve_left fun service => service.1 same.symm).2
      rw [Table.lookup_insert_ite]
      split
      next zero =>
        subst zero same
        rw [present]
        rfl
      · rfl
    · rfl

theorem agree_askNode (config : FairNodeConfig) (len : UInt64) :
    Agree owner k (k.askNode config len).2 := by
  unfold Kernel.askNode
  split
  next present => exact agree_setBucket _ (.inr ⟨rfl, present⟩)
  · exact .of_steady rfl

/-- Two runs in the middle of a packet of the service. -/
structure InStep (owner : UInt32) (k₁ k₂ : Kernel) : Prop extends Agree owner k₁ k₂ where
  clock : k₁.runtime.clock = k₂.runtime.clock
  fits₁ : BucketsFit owner k₁
  fits₂ : BucketsFit owner k₂

theorem BucketsFit.setBucket (fits : BucketsFit owner k) (bucket : RlBucket) :
    BucketsFit owner (k.ticked.setBucket map owner bucket) := by
  intro map' keyed
  rw [Runtime.bucketRoom, buckets_setBucket]
  split
  · rw [AList.lookup_insert]
    rfl
  · exact fits map' keyed

theorem InStep.served (inStep : InStep owner k₁ k₂) (keyed : map ≠ .nodeBurstState) (l : Limiter)
    (len : UInt64) : k₁.served l map owner len = k₂.served l map owner len := by
  simp only [Kernel.served, Runtime.cpuCount, Runtime.noRefill, inStep.ncpus,
    inStep.rateLimitConfig, inStep.buckets map keyed, inStep.clock]

/-- A bucket of the service decides the same on both sides and is left the same. -/
theorem InStep.askBucket (inStep : InStep owner k₁ k₂) (keyed : map ≠ .nodeBurstState)
    (l : Limiter) (len : UInt64) :
    ∃ admitted, (k₁.askBucket l map owner len).1 = some admitted ∧
      (k₂.askBucket l map owner len).1 = some admitted ∧
      InStep owner (k₁.askBucket l map owner len).2 (k₂.askBucket l map owner len).2 := by
  unfold Kernel.askBucket
  rw [if_pos (inStep.fits₁ map keyed), if_pos (inStep.fits₂ map keyed), inStep.served keyed]
  refine ⟨_, rfl, rfl, ⟨inStep.config, inStep.ncpus, inStep.rateLimitConfig, inStep.nodeControl,
    inStep.nexthopMap, ?_, ?_⟩, ?_, inStep.fits₁.setBucket _, inStep.fits₂.setBucket _⟩
  · intro map' keyed'
    rw [buckets_setBucket, buckets_setBucket]
    split
    · rw [AList.lookup_insert, AList.lookup_insert]
    · exact inStep.buckets map' keyed'
  · rw [buckets_setBucket, buckets_setBucket, if_neg keyed.symm, if_neg keyed.symm]
    exact inStep.node
  · show (fun n => k₁.runtime.clock (n + 1)) = fun n => k₂.runtime.clock (n + 1)
    rw [inStep.clock]

end Buckets

/-! ## One packet -/

/-- One of two packets the burst bucket admitted passed the node bucket, the other was dropped. -/
structure NodeSplit (passed refused : Passage) : Prop where
  visited : passed.visited = refused.visited
  stage : passed.stage = .node ∧ refused.stage = .node
  passes : passed.dropped = none ∨ passed.dropped = some DropReason.nexthopUnresolved.code
  congested : refused.dropped = some DropReason.congestionDrop.code

/-- The same outcome in every stage before the node bucket. -/
def SameUntilNode (a b : Passage) : Prop := a = b ∨ NodeSplit a b ∨ NodeSplit b a

section Packet

variable {c : ConfigMaps} {frame : Frame} {owner other : UInt32} {stage : Stage}
  {prog : PacketProg Verdict} {k k₁ k₂ : Kernel} {p : Passage}

/-- A packet of another service leaves everything alone that this one reads. -/
theorem Staged.agree (staged : Staged c frame other stage prog) (different : other ≠ owner)
    (config : k.config = c) : Agree owner k (eval packetMachine prog k).2 :=
  staged.related config Agree.trans Agree.of_steady
    (fun _ _ _ _ keyed _ => by
      unfold Kernel.askBucket
      split
      · exact agree_setBucket _ (.inl ⟨keyed, different⟩)
      · exact .of_steady rfl)
    fun _ config len => agree_askNode config len

/-- What two runs make of the rest of a packet. -/
structure Lockstep (owner : UInt32) (prog : PacketProg Verdict) (k₁ k₂ : Kernel) (p : Passage) :
    Prop where
  outcome : SameUntilNode (p.through prog k₁) (p.through prog k₂)
  agree : Agree owner (eval packetMachine prog k₁).2 (eval packetMachine prog k₂).2

theorem lockstep_recordDrop (agree : Agree owner k₁ k₂) (pkt : PktMeta) (reason : DropReason) :
    Lockstep owner (recordDrop pkt reason) k₁ k₂ p where
  outcome := .inl (by rw [through_recordDrop, through_recordDrop])
  agree := agree.move (.of_steady (steady_recordDrop pkt reason).symm)
    (.of_steady (steady_recordDrop pkt reason).symm)

theorem lockstep_redirectOut (agree : Agree owner k₁ k₂) (frame : Frame) (pkt : PktMeta) :
    Lockstep owner (redirectOut frame pkt) k₁ k₂ p where
  outcome := .inl (by rw [through_redirectOut, through_redirectOut, agree.nexthopMap])
  agree := agree.move (.of_steady (steady_redirectOut frame pkt).symm)
    (.of_steady (steady_redirectOut frame pkt).symm)

theorem Lockstep.call {q : PacketCall} {next : q.Answer → PacketProg Verdict}
    (answers : (q.exec k₁).1 = (q.exec k₂).1)
    (rest : Lockstep owner (next (q.exec k₁).1) (q.exec k₁).2 (q.exec k₂).2 (p.after q)) :
    Lockstep owner (.call q next) k₁ k₂ p where
  outcome := by
    show SameUntilNode ((p.after q).through (next (q.exec k₁).1) _)
      ((p.after q).through (next (q.exec k₂).1) _)
    rw [← answers]
    exact rest.outcome
  agree := by
    show Agree owner (eval packetMachine (next (q.exec k₁).1) _).2
      (eval packetMachine (next (q.exec k₂).1) _).2
    rw [← answers]
    exact rest.agree

theorem answer_of_looks {q : PacketCall} (looks : ¬ q.Plain) (same : k₁.config = k₂.config) :
    (q.exec k₁).1 = (q.exec k₂).1 := by
  cases q with
  | activeConfig => exact congrArg ConfigMaps.activeConfig same
  | outer o slot => exact congrArg (fun c : ConfigMaps => c.outer o slot) same
  | inner o id key => simp only [PacketCall.exec, same]
  | fairNodeConfig slot => exact congrArg (fun c : ConfigMaps => c.fairNodeConfig slot) same
  | gblMeta slot => exact congrArg (fun c : ConfigMaps => c.gblMeta slot) same
  | _ => exact absurd trivial looks

theorem after_of_looks {q : PacketCall} (looks : ¬ q.Plain) (p : Passage) :
    p.after q = p.enter (p.stage.enter q) := by
  cases q <;> first | rfl | exact absurd trivial looks

/-- The node bucket may let one packet pass and not the other. -/
theorem nodeSplit_of_node (here : p.stage = .node) (undropped : p.dropped = none)
    (pkt pkt' : PktMeta) :
    NodeSplit (p.through (redirectOut frame pkt) k₁)
      (p.through (recordDrop pkt' .congestionDrop) k₂) := by
  rw [through_redirectOut, through_recordDrop]
  split
  · exact ⟨rfl, ⟨here, here⟩, .inr rfl, rfl⟩
  · exact ⟨rfl, ⟨here, here⟩, .inl undropped, rfl⟩

theorem lockstep_node {config : FairNodeConfig} {len : UInt64} {pkt : PktMeta}
    {next : Option Bool → PacketProg Verdict} (agree : Agree owner k₁ k₂)
    (missing : next none = recordDrop pkt .mapError)
    (refused : next (some false) = recordDrop pkt .congestionDrop)
    (passed : next (some true) = redirectOut frame pkt)
    (here : p.stage = .node) (undropped : p.dropped = none) :
    Lockstep owner (fairNodeAdmit config len >>= next) k₁ k₂ p := by
  -- the node bucket is there for both or for neither; it may hold different tokens
  have presence : (k₁.askNode config len).1.isSome = (k₂.askNode config len).1.isSome := by
    unfold Kernel.askNode
    rw [agree.node]
    split <;> rfl
  have moved : Agree owner (k₁.askNode config len).2 (k₂.askNode config len).2 :=
    agree.move (agree_askNode config len) (agree_askNode config len)
  have dropped (reason : DropReason) (now : Kernel) :
      Agree owner now (eval packetMachine (recordDrop pkt reason) now).2 :=
    .of_steady (steady_recordDrop pkt reason).symm
  have sent (now : Kernel) : Agree owner now (eval packetMachine (redirectOut frame pkt) now).2 :=
    .of_steady (steady_redirectOut frame pkt).symm
  -- after the question it is enough to compare what the answers lead to
  suffices rest : SameUntilNode
        (p.through (next (k₁.askNode config len).1) (k₁.askNode config len).2)
        (p.through (next (k₂.askNode config len).1) (k₂.askNode config len).2) ∧
      Agree owner
        (eval packetMachine (next (k₁.askNode config len).1) (k₁.askNode config len).2).2
        (eval packetMachine (next (k₂.askNode config len).1) (k₂.askNode config len).2).2 by
    constructor
    · rw [through_bind (eval_fairNodeAdmit config len), through_bind (eval_fairNodeAdmit config len),
        through_fairNodeAdmit, through_fairNodeAdmit]
      exact rest.1
    · rw [eval_bind (eval_fairNodeAdmit config len), eval_bind (eval_fairNodeAdmit config len)]
      exact rest.2
  generalize (k₁.askNode config len).1 = first at presence
  generalize (k₂.askNode config len).1 = second at presence
  match first, second, presence with
  | none, none, _ =>
    rw [missing]
    have both := lockstep_recordDrop (p := p) moved pkt .mapError
    exact ⟨both.outcome, both.agree⟩
  | some false, some false, _ =>
    rw [refused]
    have both := lockstep_recordDrop (p := p) moved pkt .congestionDrop
    exact ⟨both.outcome, both.agree⟩
  | some true, some true, _ =>
    rw [passed]
    have both := lockstep_redirectOut (p := p) moved frame pkt
    exact ⟨both.outcome, both.agree⟩
  -- the answers differ: one packet leaves and the other is dropped for congestion
  | some true, some false, _ =>
    rw [passed, refused]
    exact ⟨.inr (.inl (nodeSplit_of_node here undropped pkt pkt)),
      moved.move (sent _) (dropped _ _)⟩
  | some false, some true, _ =>
    rw [passed, refused]
    exact ⟨.inr (.inr (nodeSplit_of_node here undropped pkt pkt)),
      moved.move (dropped _ _) (sent _)⟩

theorem Staged.lockstep (staged : Staged c frame owner stage prog) (inStep : InStep owner k₁ k₂)
    (config : k₁.config = c) (here : p.stage = stage) (undropped : p.dropped = none) :
    Lockstep owner prog k₁ k₂ p := by
  -- by the stages still to come; both kernels answer alike up to the node bucket
  induction staged generalizing k₁ k₂ p with
  | look looks rest ih =>
    refine .call (answer_of_looks looks inStep.config) ?_
    rw [exec_of_looks looks, exec_of_looks looks, after_of_looks looks]
    refine ih k₁ config inStep config ?_ ?_
    · rw [Passage.enter_stage, here]
    · rw [Passage.enter_dropped, undropped]
  | control rest ih =>
    refine .call inStep.nodeControl ?_
    have stays : p.after .nodeControl = p := p.enter_self
    rw [stays]
    exact ih _ inStep config here undropped
  | @falsePositive stage bloom next rest ih =>
    refine .call rfl ?_
    have stays : p.after (.bloomFpAdd bloom) = p := p.enter_self
    rw [stays]
    refine ih ⟨inStep.toAgree.move (.of_steady rfl) (.of_steady rfl), inStep.clock,
      inStep.fits₁, inStep.fits₂⟩ config here undropped
  | @bucket stage l map pkt len next ofService limited served full rest ih =>
    obtain ⟨admitted, first, second, after⟩ := inStep.askBucket ofService l len
    have ran₁ := eval_bucketAdmit (k := k₁) l map owner len
    have ran₂ := eval_bucketAdmit (k := k₂) l map owner len
    rw [first] at ran₁
    rw [second] at ran₂
    have onward := ih admitted (p := p.enter (p.stage.enter (.bucketLookup map owner))) after
      ((askBucket_config ..).trans config) (by rw [Passage.enter_stage, here])
      (by rw [Passage.enter_dropped, undropped])
    constructor
    · rw [through_bind ran₁, through_bind ran₂, through_bucketAdmit, through_bucketAdmit]
      exact onward.outcome
    · rw [eval_bind ran₁, eval_bind ran₂]
      exact onward.agree
  | @node nodeConfig pkt len next limited served missing refused passed =>
    exact lockstep_node inStep.toAgree missing refused passed here undropped
  | drop owned located => exact lockstep_recordDrop inStep.toAgree _ _
  | out | arp => exact lockstep_redirectOut inStep.toAgree frame _
  | bypass length =>
    exact ⟨.inl (by rw [through_redirectOutBypass, through_redirectOutBypass]),
      inStep.toAgree.move (.of_steady (steady_redirectOutBypass _).symm)
        (.of_steady (steady_redirectOutBypass _).symm)⟩

end Packet

/-! ## Traces -/

/-- A frame and the readings of the clock while it is processed. -/
structure Incoming where
  frame : Frame
  clock : Nat → UInt64

def Kernel.at (k : Kernel) (clock : Nat → UInt64) : Kernel :=
  k.withRuntime { k.runtime with clock }

/-- The kernel after a frame. -/
def receive (k : Kernel) (incoming : Incoming) : Kernel :=
  (eval packetMachine (xdpGateway incoming.frame) (k.at incoming.clock)).2

def ofService (c : ConfigMaps) (owner : UInt32) (incoming : Incoming) : Bool :=
  ownerOf c incoming.frame = owner

/-- The outcomes of the packets of a service in a trace, in their order. -/
def outcomes (owner : UInt32) : Kernel → List Incoming → List Passage
  | _, [] => []
  | k, incoming :: rest =>
    if ofService k.config owner incoming then
      passage (k.at incoming.clock) incoming.frame :: outcomes owner (receive k incoming) rest
    else outcomes owner (receive k incoming) rest

/-- Whenever a packet of the service comes in, the state maps have room for its buckets. -/
def NeverFull (owner : UInt32) : Kernel → List Incoming → Prop
  | _, [] => True
  | k, incoming :: rest =>
    (ofService k.config owner incoming = true → BucketsFit owner k) ∧
      NeverFull owner (receive k incoming) rest

section Traces

variable {owner : UInt32} {k k₁ k₂ : Kernel}

theorem agree_at (owner : UInt32) (k : Kernel) (clock : Nat → UInt64) :
    Agree owner k (k.at clock) :=
  .of_steady rfl

theorem agree_receive {incoming : Incoming}
    (other : ofService k.config owner incoming = false) :
    Agree owner k (receive k incoming) := by
  have staged := xdpGateway_staged k.config incoming.frame
  have different : ownerOf k.config incoming.frame ≠ owner := of_decide_eq_false other
  exact (agree_at owner k incoming.clock).trans (staged.agree different rfl)

/-- The frames before the next packet of the service can be skipped. -/
theorem outcomes_skip (c : ConfigMaps) (skipped rest : List Incoming) (config : k.config = c)
    (others : ∀ incoming ∈ skipped, ofService c owner incoming = false)
    (fits : NeverFull owner k (skipped ++ rest)) :
    ∃ k', Agree owner k k' ∧ NeverFull owner k' rest ∧
      outcomes owner k (skipped ++ rest) = outcomes owner k' rest := by
  induction skipped generalizing k with
  | nil => exact ⟨k, .refl owner k, fits, rfl⟩
  | cons incoming skipped ih =>
    have other : ofService k.config owner incoming = false := by
      rw [config]
      exact others incoming List.mem_cons_self
    have moved := agree_receive other
    obtain ⟨k', agree, fits', same⟩ := ih (moved.config.symm.trans config)
      (fun later member => others later (List.mem_cons_of_mem _ member)) fits.2
    refine ⟨k', moved.trans agree, fits', ?_⟩
    rw [List.cons_append, outcomes, other, ← same]
    rfl

theorem lockstep_receive {incoming : Incoming} (agree : Agree owner k₁ k₂)
    (own : ofService k₁.config owner incoming = true) (fits₁ : BucketsFit owner k₁)
    (fits₂ : BucketsFit owner k₂) :
    SameUntilNode (passage (k₁.at incoming.clock) incoming.frame)
        (passage (k₂.at incoming.clock) incoming.frame) ∧
      Agree owner (receive k₁ incoming) (receive k₂ incoming) := by
  have staged := xdpGateway_staged k₁.config incoming.frame
  rw [of_decide_eq_true own] at staged
  have inStep : InStep owner (k₁.at incoming.clock) (k₂.at incoming.clock) :=
    ⟨agree.move (agree_at owner k₁ _) (agree_at owner k₂ _), rfl, fits₁, fits₂⟩
  have both := staged.lockstep (p := .start) inStep rfl rfl rfl
  exact ⟨both.outcome, both.agree⟩

theorem outcomes_agree (trace₁ trace₂ : List Incoming) (agree : Agree owner k₁ k₂)
    (same : trace₁.filter (ofService k₁.config owner) = trace₂.filter (ofService k₁.config owner))
    (fits₁ : NeverFull owner k₁ trace₁) (fits₂ : NeverFull owner k₂ trace₂) :
    List.Forall₂ SameUntilNode (outcomes owner k₁ trace₁) (outcomes owner k₂ trace₂) := by
  induction trace₁ generalizing k₁ k₂ trace₂ with
  | nil =>
    -- no packet of the service is left in the other trace either
    have others : ∀ incoming ∈ trace₂, ofService k₁.config owner incoming = false := by
      simpa only [List.filter_nil, eq_comm (a := []), List.filter_eq_nil_iff,
        Bool.not_eq_true] using same
    obtain ⟨k', _, _, skipped⟩ := outcomes_skip k₁.config trace₂ [] agree.config.symm others
      (by rwa [List.append_nil])
    rw [List.append_nil] at skipped
    rw [skipped]
    exact .nil
  | cons incoming trace₁ ih =>
    cases own : ofService k₁.config owner incoming with
    | false =>
      have moved := agree_receive own
      rw [List.filter_cons_of_neg (by simp [own]), moved.config] at same
      rw [outcomes, own]
      exact ih trace₂ (moved.symm.trans agree) same fits₁.2 fits₂
    | true =>
      rw [List.filter_cons_of_pos own, eq_comm, List.filter_eq_cons_iff] at same
      obtain ⟨skipped, rest, rfl, others, _, same⟩ := same
      obtain ⟨k', agree', fits', equal⟩ := outcomes_skip k₁.config skipped (incoming :: rest)
        agree.config.symm (fun other member => by simpa using others other member) fits₂
      have own' : ofService k'.config owner incoming = true := by
        rw [← agree'.config, ← agree.config]
        exact own
      obtain ⟨outcome, after⟩ :=
        lockstep_receive (agree.trans agree') own (fits₁.1 own) (fits'.1 own')
      rw [equal, outcomes, own, outcomes, own']
      refine .cons outcome (ih rest after ?_ fits₁.2 fits'.2)
      have kept : (receive k₁ incoming).config = k₁.config := eval_config ..
      rw [kept]
      exact same.symm

/-- Whatever the other services send, the packets of a service have the same outcomes up to the
node bucket. -/
theorem outcomes_isolated (k : Kernel) (owner : UInt32) (trace₁ trace₂ : List Incoming)
    (same : trace₁.filter (ofService k.config owner) = trace₂.filter (ofService k.config owner))
    (fits₁ : NeverFull owner k trace₁) (fits₂ : NeverFull owner k trace₂) :
    List.Forall₂ SameUntilNode (outcomes owner k trace₁) (outcomes owner k trace₂) :=
  outcomes_agree trace₁ trace₂ (.refl owner k) same fits₁ fits₂

end Traces

/-- A second service, 203.0.113.2, without rules. -/
def twoServiceKernel : Kernel :=
  { oneServiceKernel with
    config := (oneServiceMaps.setInner .serviceMap 0
        ((AList.insert (serviceKey 32 0xcb007101) ⟨7, 1, 0, 0⟩ ∅).insert
          (serviceKey 32 0xcb007102) ⟨8, 1, 0, 0⟩)).setInner .fairConfigMap 0
      ((AList.insert 7 ⟨1, 1000000, 0, 1000000, 1000⟩ ∅).insert 8 ⟨1, 1000000, 0, 1000000, 1000⟩) }

/-- A TCP segment from 8.8.8.8 to port 443 of 203.0.113.2. -/
def neighbourFrame : Frame := tcpFrame.set 33 2

theorem neighbourTraffic_isolated :
    let own : Incoming := ⟨tcpFrame, fun _ => 6000000000⟩
    let neighbour : Incoming := ⟨neighbourFrame, fun _ => 5000000000⟩
    outcomes 8 twoServiceKernel [neighbour] =
        [⟨[.deny, .ingressCap, .lookup], .allowRule, some DropReason.notAllowed.code⟩] ∧
      List.Forall₂ SameUntilNode (outcomes 7 twoServiceKernel [own])
        (outcomes 7 twoServiceKernel [neighbour, own, neighbour]) := by
  refine ⟨by decide +kernel, outcomes_isolated _ 7 _ _ rfl ?_ ?_⟩
  · refine ⟨fun _ map _ => ?_, trivial⟩
    cases map <;> rfl
  · refine ⟨fun own => ?_, fun _ map _ => ?_, fun own => ?_, trivial⟩
    · cases own
    · cases map <;> rfl
    · cases own

end ScrubbingGateway.DataPlane
