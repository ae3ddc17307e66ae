import ScrubbingGateway.DataPlane.BucketAsking

/-!
# The outcome of a packet in every stage

A passage is read off the calls a packet makes: the stages it went through, and the reason it was
dropped for, if it was. A packet passed every stage but the last one it is in, and it passed that
one unless it was dropped.
-/

namespace ScrubbingGateway.DataPlane

open Prog

structure Passage where
  /-- The stages left behind, the last one first. -/
  visited : List Stage
  stage : Stage
  dropped : Option UInt32
deriving DecidableEq, Repr

namespace Passage

def start : Passage := ⟨[], .lookup, none⟩

def enter (p : Passage) (stage : Stage) : Passage :=
  if stage = p.stage then p else { p with visited := p.stage :: p.visited, stage }

def after (p : Passage) : PacketCall → Passage
  | .counterAdd reason => { p with dropped := some reason }
  | q => p.enter (p.stage.enter q)

def drop (p : Passage) (reason : DropReason) : Passage := { p with dropped := some reason.code }

@[simp] theorem enter_stage (p : Passage) (stage : Stage) : (p.enter stage).stage = stage := by
  unfold enter
  split
  next same => exact same.symm
  · rfl

@[simp] theorem enter_dropped (p : Passage) (stage : Stage) :
    (p.enter stage).dropped = p.dropped := by
  unfold enter
  split <;> rfl

@[simp] theorem enter_self (p : Passage) : p.enter p.stage = p := if_pos rfl

end Passage

/-- The passage after the calls of a program. -/
def Passage.through {α : Type} (p : Passage) (prog : PacketProg α) (k : Kernel) : Passage :=
  (calls packetMachine prog k).foldl Passage.after p

def passage (k : Kernel) (frame : Frame) : Passage := Passage.start.through (xdpGateway frame) k

/-! ## Programs that decide nothing -/

section Programs

variable {α β : Type} {k : Kernel} {p : Passage}

variable {prog : PacketProg α}

theorem through_bind {f : α → PacketProg β} {a : α} {k' : Kernel}
    (ran : eval packetMachine prog k = (.returned a, k')) :
    p.through (prog >>= f) k = (p.through prog k).through (f a) k' := by
  unfold Passage.through
  rw [calls_bind ran, List.foldl_append]

variable {q : PacketCall}

theorem after_of_books (books : q.Books) (p : Passage) : p.after q = p := by
  cases q <;> first | exact books.elim | exact p.enter_self

theorem foldl_after_books {qs : List PacketCall} (books : ∀ q ∈ qs, q.Books) (p : Passage) :
    qs.foldl Passage.after p = p := by
  induction qs with
  | nil => rfl
  | cons q qs ih =>
    rw [List.foldl_cons, after_of_books (books q List.mem_cons_self)]
    exact ih fun other member => books other (List.mem_cons_of_mem _ member)

theorem through_books (books : BooksProg prog) : p.through prog k = p :=
  foldl_after_books books.calls p

theorem through_recordDrop (pkt : PktMeta) (reason : DropReason) :
    p.through (recordDrop pkt reason) k = p.drop reason :=
  through_books (counted_books pkt reason)

/-- The next hop of a packet cannot be used. -/
def unroutable (nexthops : Table UInt32 Nexthop) (frame : Frame) (pkt : PktMeta) : Bool :=
  pkt.ethProto = ethPIp ∧ (frame.length < 14 ∨ (nexthops.lookup pkt.serviceId).all (·.resolved = 0))

theorem eval_nexthopRewrite (frame : Frame) (pkt : PktMeta) :
    ∃ rewritten, eval packetMachine (nexthopRewrite frame pkt) k = (.returned rewritten, k) ∧
      rewritten.isNone = unroutable k.runtime.nexthopMap frame pkt := by
  unfold nexthopRewrite unroutable
  split
  next other => exact ⟨_, rfl, by simp [other]⟩
  next ipv4 =>
  rw [ne_eq, not_not] at ipv4
  split
  next short => exact ⟨_, rfl, by simp [ipv4, short]⟩
  next long =>
    cases found : k.runtime.nexthopMap.lookup pkt.serviceId with
    | none =>
      refine ⟨none, ?_, by simp [ipv4]⟩
      rw [eval_ask]
      simp only [PacketCall.exec, found]
      rfl
    | some nh =>
      refine ⟨if nh.resolved = 0 then none else some (some nh), ?_, ?_⟩
      · rw [eval_ask]
        simp only [PacketCall.exec, found]
        rfl
      · by_cases unresolved : nh.resolved = 0
        · simp [ipv4, unresolved]
        · simp [long, unresolved]

/-- A packet that passed the stages is lost only when its next hop cannot be used. -/
theorem through_redirectOut (frame : Frame) (pkt : PktMeta) :
    p.through (redirectOut frame pkt) k =
      if unroutable k.runtime.nexthopMap frame pkt then p.drop .nexthopUnresolved else p := by
  obtain ⟨rewritten, ran, failed⟩ := eval_nexthopRewrite (k := k) frame pkt
  rw [redirectOut, through_bind ran, through_books (nexthopRewrite_books frame pkt), ← failed]
  cases rewritten with
  | none => exact through_recordDrop pkt .nexthopUnresolved
  | some nh => exact through_books (sent_books pkt nh)

theorem through_redirectOutBypass (pkt : PktMeta) : p.through (redirectOutBypass pkt) k = p := by
  have books : BooksProg (redirectOutBypass pkt) :=
    asks_ask trivial fun _ => asks_ask trivial fun _ => trivial
  exact through_books books

/-! ## What bookkeeping leaves alone -/

/-- All that decides about packets, apart from the clock. -/
def Kernel.steady (k : Kernel) : ConfigMaps × UInt32 × Option UInt32 × Option UInt32 ×
    Table UInt32 Nexthop × (BucketMap → Table UInt32 RlBucket) :=
  (k.config, k.runtime.rlNcpus, k.runtime.rateLimitConfig, k.runtime.nodeControl,
    k.runtime.nexthopMap, k.runtime.buckets)

theorem steady_exec (books : q.Books) : (q.exec k).2.steady = k.steady := by
  cases q with
  | svcStatInsert id =>
    rw [PacketCall.exec]
    split <;> rfl
  | svcStatAddClean | svcStatAddDrop =>
    rw [PacketCall.exec, Runtime.modifySvcStat]
    split <;> rfl
  | _ => first | exact books.elim | rfl

theorem steady_books (books : BooksProg prog) : (eval packetMachine prog k).2.steady = k.steady :=
  books.eval (fun now : Kernel => now.steady = k.steady)
    (fun _ _ allowed kept => (steady_exec allowed).trans kept) rfl

theorem steady_recordDrop (pkt : PktMeta) (reason : DropReason) :
    (eval packetMachine (recordDrop pkt reason) k).2.steady = k.steady := by
  show (eval packetMachine (svcStatDrop pkt reason.code >>= _) _).2.steady =
    (k.withRuntime (k.runtime.addCounter reason.code)).steady
  exact steady_books (counted_books pkt reason)

theorem steady_redirectOut (frame : Frame) (pkt : PktMeta) :
    (eval packetMachine (redirectOut frame pkt) k).2.steady = k.steady := by
  obtain ⟨rewritten, ran, _⟩ := eval_nexthopRewrite (k := k) frame pkt
  rw [redirectOut, eval_bind ran]
  cases rewritten with
  | none => exact steady_recordDrop pkt .nexthopUnresolved
  | some nh => exact steady_books (sent_books pkt nh)

theorem steady_redirectOutBypass (pkt : PktMeta) :
    (eval packetMachine (redirectOutBypass pkt) k).2.steady = k.steady := rfl

/-! ## Buckets -/

theorem through_ask {f : q.Answer → PacketProg α} :
    p.through (ask q >>= f) k = (p.after q).through (f (q.exec k).1) (q.exec k).2 := rfl

theorem through_rlTestNoRefill : p.through rlTestNoRefill k = p := by
  rw [rlTestNoRefill, through_ask]
  simp only [PacketCall.exec]
  cases k.runtime.rateLimitConfig with
  | none | some => exact p.enter_self

theorem through_toLookup {map : BucketMap} {key : UInt32}
    {f : UInt32 → Bool → UInt64 → Option RlBucket → PacketProg α} :
    p.through (rlCpuCount >>= fun ncpus => rlTestNoRefill >>= fun noRefill =>
        ask .ktimeGetNs >>= fun now => ask (.bucketLookup map key) >>= f ncpus noRefill now) k =
      (p.enter (p.stage.enter (.bucketLookup map key))).through
        (f k.runtime.cpuCount k.runtime.noRefill (k.runtime.clock 0)
          ((k.runtime.buckets map).lookup key)) k.ticked := by
  have counted : p.through rlCpuCount k = p := p.enter_self
  rw [through_bind eval_rlCpuCount, counted, through_bind eval_rlTestNoRefill,
    through_rlTestNoRefill, through_ask, after_of_books (q := .ktimeGetNs) trivial]
  rfl

/-- Asking a bucket decides nothing yet, except that the burst bucket is a stage of its own. -/
theorem through_bucketAdmit (l : Limiter) (map : BucketMap) (key : UInt32) (len : UInt64) :
    p.through (l.bucketAdmit map key len) k =
      p.enter (p.stage.enter (.bucketLookup map key)) := by
  rw [Limiter.bucketAdmit, through_toLookup]
  cases (k.runtime.buckets map).lookup key with
  | none =>
    show Passage.through _ (ask (.bucketUpdate map key _) >>= _) _ = _
    rw [through_ask]
    split
    · exact Passage.enter_self _
    · exact Passage.enter_self _
  | some bucket => exact Passage.enter_self _

theorem through_fairNodeAdmit (config : FairNodeConfig) (len : UInt64) :
    p.through (fairNodeAdmit config len) k = p := by
  rw [fairNodeAdmit, through_toLookup]
  have entered : p.enter (p.stage.enter (.bucketLookup .nodeBurstState 0)) = p := p.enter_self
  rw [entered]
  cases (k.runtime.buckets .nodeBurstState).lookup 0 with
  | none => rfl
  | some bucket => exact p.enter_self

end Programs

/-! ## What the rest of a packet does to the kernel -/

/-- The frame reaches an enabled service under the id. -/
def ServedAs (c : ConfigMaps) (frame : Frame) (id : UInt32) : Prop :=
  ∃ service, serviceFor c frame = some service ∧ service.serviceId = id ∧ service.enabled ≠ 0

variable {prog : PacketProg Verdict} {stage : Stage}

/-- The rule for relations between the kernel before and after: apart from bookkeeping, a packet
asks buckets of the enabled service it reached and the node bucket. -/
theorem Staged.related {c : ConfigMaps} {frame : Frame} {owner : UInt32} {k : Kernel}
    {R : Kernel → Kernel → Prop} (staged : Staged c frame owner stage prog) (config : k.config = c)
    (trans : ∀ {k₁ k₂ k₃}, R k₁ k₂ → R k₂ k₃ → R k₁ k₃)
    (books : ∀ {k₁ k₂ : Kernel}, k₁.steady = k₂.steady → R k₁ k₂)
    (asks : ∀ (k : Kernel) (l : Limiter) map len, map ≠ .nodeBurstState →
      ServedAs c frame owner → R k (k.askBucket l map owner len).2)
    (asksNode : ∀ (k : Kernel) config len, R k (k.askNode config len).2) :
    R k (eval packetMachine prog k).2 := by
  induction staged generalizing k with
  | look looks rest ih =>
    show R k (eval packetMachine _ (PacketCall.exec _ k).2).2
    rw [exec_of_looks looks]
    exact ih k config config
  | control rest ih => exact ih _ config
  | @falsePositive stage bloom next rest ih =>
    have counted : R k (k.withRuntime (k.runtime.addBloomFp bloom)) := books rfl
    exact trans counted (ih config)
  | @bucket stage l map pkt len next ofService limited served full rest ih =>
    rw [eval_bind (eval_bucketAdmit l map owner len)]
    refine trans (asks k l map len ofService served.enabled) ?_
    cases (k.askBucket l map owner len).1 with
    | none =>
      rw [full]
      exact books (steady_recordDrop pkt _).symm
    | some admitted => exact ih admitted ((askBucket_config ..).trans config)
  | @node nodeConfig pkt len next limited served missing refused passed =>
    rw [eval_bind (eval_fairNodeAdmit nodeConfig len)]
    refine trans (asksNode k nodeConfig len) ?_
    -- whatever the node bucket answers, only bookkeeping is left
    cases (k.askNode nodeConfig len).1 with
    | none =>
      rw [missing]
      exact books (steady_recordDrop pkt _).symm
    | some admitted =>
      cases admitted with
      | false =>
        rw [refused]
        exact books (steady_recordDrop pkt _).symm
      | true =>
        rw [passed]
        exact books (steady_redirectOut frame pkt).symm
  | drop owned located => exact books (steady_recordDrop _ _).symm
  | out | arp => exact books (steady_redirectOut frame _).symm
  | bypass length => exact books (steady_redirectOutBypass _).symm

/-! ## The next hop a packet is rewritten with -/

/-- A rewritten packet reached an enabled service and got the next hop of its id. -/
def Verdict.RewrittenBy (v : Verdict) (c : ConfigMaps) (nexthops : Table UInt32 Nexthop)
    (frame : Frame) (owner : UInt32) : Prop :=
  ∀ nh, v.rewritten = some nh →
    ServedAs c frame owner ∧ nexthops.lookup owner = some nh ∧ nh.resolved ≠ 0

section Rewriting

variable {c : ConfigMaps} {frame : Frame} {owner : UInt32} {k : Kernel} {pkt : PktMeta}

theorem recordDrop_rewrites (reason : DropReason) (nexthops : Table UInt32 Nexthop) :
    Ends packetMachine (fun v _ => v.RewrittenBy c nexthops frame owner) (recordDrop pkt reason)
      k := by
  refine Runs.bind (Runs.of_forall fun _ _ => ?_)
  refine Runs.bind (Runs.of_forall fun _ _ => ?_)
  refine Runs.bind (Runs.of_forall fun _ _ => ?_)
  intro nh sent
  cases sent

theorem sent_rewrites {Post : Verdict → Prop} {rewritten : Option Nexthop}
    (post : ∀ action, Post ⟨action, rewritten⟩) :
    Ends packetMachine (fun v _ => Post v) (svcStatClean pkt >>= fun _ =>
      ask .redirectMap >>= fun action => (.ret ⟨action, rewritten⟩ : PacketProg Verdict)) k := by
  refine Runs.bind (Runs.of_forall fun _ _ => ?_)
  exact runs_ask (post _)

theorem redirectOut_rewrites (served : pkt.Served c frame owner) :
    Ends packetMachine (fun v _ => v.RewrittenBy c k.runtime.nexthopMap frame owner)
      (redirectOut frame pkt) k := by
  unfold redirectOut nexthopRewrite
  simp only [served.ipv4, ne_eq, not_true_eq_false, if_false]
  split
  · exact recordDrop_rewrites _ _
  · refine Runs.bind (runs_ask ?_)
    simp only [PacketCall.exec]
    cases found : k.runtime.nexthopMap.lookup pkt.serviceId with
    | none => exact recordDrop_rewrites _ _
    | some nh =>
      by_cases resolved : nh.resolved = 0
      · simp only [resolved, if_true]
        exact recordDrop_rewrites _ _
      · simp only [resolved, if_false]
        refine sent_rewrites fun action nh' sent => ?_
        cases sent
        exact ⟨served.enabled, served.assigned ▸ found, resolved⟩

theorem redirectOut_arp_rewrites (isArp : IsArp frame) (nexthops : Table UInt32 Nexthop) :
    Ends packetMachine (fun v _ => v.RewrittenBy c nexthops frame owner)
      (redirectOut frame (parseEth frame ⟨0, 0⟩ (.init frame)).pkt) k := by
  have other : (parseEth frame ⟨0, 0⟩ (.init frame)).pkt.ethProto ≠ ethPIp := by
    rw [isArp]
    decide
  unfold redirectOut nexthopRewrite
  rw [if_pos other]
  refine sent_rewrites (k := k) fun action nh sent => ?_
  cases sent

/-- A frame is only ever rewritten with the next hop of the enabled service it reached. -/
theorem Staged.rewrites {nexthops : Table UInt32 Nexthop} (staged : Staged c frame owner stage prog)
    (config : k.config = c) (table : k.runtime.nexthopMap = nexthops) :
    Ends packetMachine (fun v _ => v.RewrittenBy c nexthops frame owner) prog k := by
  induction staged generalizing k with
  | look looks rest ih =>
    show Runs _ _ _ _ (PacketCall.exec _ k).2
    rw [exec_of_looks looks]
    exact ih k config config table
  | control rest ih => exact ih _ config table
  | falsePositive rest ih => exact ih config table
  | @bucket stage l map pkt len next ofService limited served full rest ih =>
    refine Runs.bind (Runs.of_eval (eval_bucketAdmit l map owner len) ?_)
    have unmoved : (k.askBucket l map owner len).2.runtime.nexthopMap = nexthops := by
      rw [← table, Kernel.askBucket]
      split <;> rfl
    cases (k.askBucket l map owner len).1 with
    | none =>
      rw [full]
      exact recordDrop_rewrites _ _
    | some admitted => exact ih admitted ((askBucket_config ..).trans config) unmoved
  | @node nodeConfig pkt len next limited served missing refused passed =>
    refine Runs.bind (Runs.of_eval (eval_fairNodeAdmit nodeConfig len) ?_)
    have unmoved : (k.askNode nodeConfig len).2.runtime.nexthopMap = nexthops := by
      rw [← table, Kernel.askNode]
      split <;> rfl
    cases (k.askNode nodeConfig len).1 with
    | none =>
      rw [missing]
      exact recordDrop_rewrites _ _
    | some admitted =>
      cases admitted with
      | false =>
        rw [refused]
        exact recordDrop_rewrites _ _
      | true =>
        rw [passed, ← unmoved]
        exact redirectOut_rewrites served
  | drop owned located => exact recordDrop_rewrites _ _
  | out served =>
    rw [← table]
    exact redirectOut_rewrites served
  | arp isArp => exact redirectOut_arp_rewrites isArp _
  | bypass length =>
    intro nh sent
    cases sent

end Rewriting

end ScrubbingGateway.DataPlane
