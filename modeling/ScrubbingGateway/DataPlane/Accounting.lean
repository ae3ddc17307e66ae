import ScrubbingGateway.DataPlane.BucketAsking
import ScrubbingGateway.Lib.Sums

/-!
# What a frame is counted as

Every frame ends in one drop with one reason, one clean packet of its service, one bypassed packet
or one redirected ARP frame, and the counters it leaves are those before it with that one frame
added. Over any sequence of frames the drops of a service are the sum of its drops by reason, and
no reason is counted for services more often than for the node.
-/

namespace ScrubbingGateway.DataPlane

open Prog

/-- The counters that packets add to, as one CPU sees them. -/
structure Counters where
  node : UInt32 → Option UInt64
  services : Table UInt32 SvcStat
  bypass : Option BypassStat

def Runtime.counters (r : Runtime) : Counters := ⟨r.counterMap, r.svcStatMap, r.bypassCounter⟩

inductive Contribution where
  | dropped (reason : DropReason)
  | clean
  | bypassed
  | arp
deriving DecidableEq, Repr

namespace Counters

/-- Change the record of a service, which starts at zero. -/
def count (c : Counters) (id : UInt32) (change : SvcStat → SvcStat) : Counters :=
  { c with services := c.services.insert id (change ((c.services.lookup id).getD .zero)) }

def countDrop (c : Counters) (reason : DropReason) : Counters :=
  { c with node := Function.update c.node reason.code ((c.node reason.code).map (· + 1)) }

/-- The counters with one more frame of a service. A drop of no service counts for the node only. -/
def add (c : Counters) (owner : UInt32) (bytes : UInt16) : Contribution → Counters
  | .dropped reason =>
    if owner = 0 then c.countDrop reason
    else (c.countDrop reason).count owner (·.addDrop bytes reason.code)
  | .clean => c.count owner (·.addClean bytes)
  | .bypassed => { c with bypass := c.bypass.map fun stat =>
      ⟨stat.pkts + 1, stat.bytes + bytes.toUInt64⟩ }
  | .arp => c

end Counters

/-- The answer of the final redirect. -/
def Runtime.redirected (r : Runtime) : XdpAction := if r.txDevmap then .redirect else .drop

/-- A frame was counted as one contribution, and as nothing else. -/
structure Accounted (before : Kernel) (frame : Frame) (contribution : Contribution) (v : Verdict)
    (after : Kernel) : Prop where
  counters : after.runtime.counters =
    before.runtime.counters.add (ownerOf before.config frame) (PktMeta.init frame).frameLen
      contribution
  verdict : match contribution with
    | .dropped _ => v = ⟨.drop, none⟩
    | _ => v.action = before.runtime.redirected
  clean : contribution = .clean → ∃ service, serviceFor before.config frame = some service ∧
    service.serviceId = ownerOf before.config frame ∧ service.enabled ≠ 0
  arp : contribution = .arp → IsArp frame

/-- A missing record of a service can be inserted. -/
def StatFits (r : Runtime) (id : UInt32) : Prop :=
  (r.svcStatMap.lookup id).isSome ∨ r.svcStatMap.entries.length < svcStatMaxEntries

/-- Nothing has been counted yet. -/
structure Uncounted (before now : Kernel) : Prop where
  counters : now.runtime.counters = before.runtime.counters
  txDevmap : now.runtime.txDevmap = before.runtime.txDevmap

theorem Uncounted.fits {before now : Kernel} (uncounted : Uncounted before now) {id : UInt32}
    (fits : StatFits before.runtime id) : StatFits now.runtime id := by
  have same : now.runtime.svcStatMap = before.runtime.svcStatMap :=
    congrArg Counters.services uncounted.counters
  rwa [StatFits, same]

/-! ## The counting programs -/

section Counting

variable {before k : Kernel} {frame : Frame} {owner : UInt32} {pkt : PktMeta}

theorem svcStatGet_runs {id : UInt32} (fits : StatFits k.runtime id) :
    Runs packetMachine False (fun found now => found = true ∧
        (now = k ∧ (k.runtime.svcStatMap.lookup id).isSome ∨
          now = k.withRuntime (k.runtime.setSvcStat id .zero) ∧
            k.runtime.svcStatMap.lookup id = none))
      (svcStatGet id) k := by
  show Runs packetMachine False _ (if (k.runtime.svcStatMap.lookup id).isSome = true then _ else _) k
  split
  next present => exact ⟨rfl, .inl ⟨rfl, present⟩⟩
  next absent =>
    have missing := Option.not_isSome_iff_eq_none.mp absent
    have inserted : PacketCall.exec (.svcStatInsert id) k =
        (true, k.withRuntime (k.runtime.setSvcStat id .zero)) := by
      rw [PacketCall.exec, if_pos ⟨Option.isNone_iff_eq_none.mpr missing, fits.resolve_left absent⟩]
    show Runs packetMachine False _ (if (PacketCall.exec (.svcStatInsert id) k).1 = true then _
      else _) (PacketCall.exec (.svcStatInsert id) k).2
    rw [inserted, if_pos rfl]
    refine ⟨?_, .inr ⟨rfl, missing⟩⟩
    show ((k.runtime.svcStatMap.insert id SvcStat.zero).lookup id).isSome = true
    rw [AList.lookup_insert]
    rfl

theorem svcStatCount_runs {id : UInt32} (change : SvcStat → SvcStat) (count : PacketProg Unit)
    (fits : StatFits k.runtime id)
    (counts : ∀ k, eval packetMachine count k =
      (.returned (), k.withRuntime (k.runtime.modifySvcStat id change))) :
    Runs packetMachine False (fun _ now => now = k.withRuntime
        (k.runtime.setSvcStat id (change ((k.runtime.svcStatMap.lookup id).getD .zero))))
      (svcStatGet id >>= fun found => if found = true then count else .ret ()) k := by
  refine (svcStatGet_runs fits).seq ?_
  rintro found now ⟨rfl, ⟨rfl, present⟩ | ⟨rfl, missing⟩⟩
  · rw [if_pos rfl]
    refine Runs.of_eval (counts now) ?_
    obtain ⟨stat, present⟩ := Option.isSome_iff_exists.mp present
    rw [Runtime.modifySvcStat, present]
    rfl
  · rw [if_pos rfl]
    refine Runs.of_eval (counts _) ?_
    -- the fresh record is overwritten by the counted one
    have fresh : (k.runtime.svcStatMap.insert id SvcStat.zero).lookup id = some .zero :=
      AList.lookup_insert _
    simp only [Runtime.modifySvcStat, Kernel.withRuntime, Runtime.setSvcStat, fresh, missing,
      AList.insert_insert, Option.getD_none]

def PacketCall.Samples : PacketCall → Prop
  | .sampleConfig | .sampleBucketLookup | .ktimeGetNs | .sampleBucketWrite _ | .sampleStatAdd _
  | .ringbufReserve | .ringbufSubmit _ => True
  | _ => False

section

variable (uncounted : Uncounted before k)
include uncounted

theorem Uncounted.exec {c : PacketCall} (samples : c.Samples) : Uncounted before (c.exec k).2 := by
  cases c with
  | sampleConfig | sampleBucketLookup | ktimeGetNs | sampleBucketWrite | sampleStatAdd
  | ringbufReserve | ringbufSubmit => exact ⟨uncounted.counters, uncounted.txDevmap⟩
  | _ => exact samples.elim

theorem sampleEmit_uncounted {reason : UInt32} {now : UInt64} :
    Runs packetMachine False (fun _ now => Uncounted before now) (sampleEmit pkt reason now) k := by
  have reserved := uncounted.exec (c := .ringbufReserve) trivial
  refine runs_ask ?_
  split
  · exact runs_ask ((reserved.exec (c := .ringbufSubmit _) trivial).exec
      (c := .sampleStatAdd _) trivial)
  · exact reserved.exec (c := .sampleStatAdd _) trivial

theorem sampleAt_uncounted {reason : UInt32} {config : SampleConfig} {bucket : SampleBucket}
    {now : UInt64} :
    Runs packetMachine False (fun _ now => Uncounted before now)
      (sampleAt pkt reason config bucket now) k := by
  unfold sampleAt
  dsimp only
  split
  · exact runs_ask ((uncounted.exec (c := .sampleBucketWrite _) trivial).exec
      (c := .sampleStatAdd _) trivial)
  · exact runs_ask (sampleEmit_uncounted (uncounted.exec (c := .sampleBucketWrite _) trivial))

theorem sampleDrop_uncounted {reason : UInt32} :
    Runs packetMachine False (fun _ now => Uncounted before now) (sampleDrop pkt reason) k := by
  unfold sampleDrop
  refine runs_ask (runs_ask ?_)
  simp only [PacketCall.exec]
  split
  · split
    · exact uncounted
    · exact runs_ask (sampleAt_uncounted (uncounted.exec (c := .ktimeGetNs) trivial))
  · exact uncounted

theorem recordDrop_accounted {reason : DropReason} (owned : pkt.Of frame owner)
    (fits : StatFits before.runtime owner) :
    Runs packetMachine False (fun v now => v = ⟨.drop, none⟩ ∧
        now.runtime.counters =
          before.runtime.counters.add owner (PktMeta.init frame).frameLen (.dropped reason))
      (recordDrop pkt reason) k := by
  have counted : Runs packetMachine False
      (fun _ now => now.runtime.counters = before.runtime.counters.add owner
        (PktMeta.init frame).frameLen (.dropped reason))
      (svcStatDrop pkt reason.code) (k.withRuntime (k.runtime.addCounter reason.code)) := by
    have node : (k.runtime.addCounter reason.code).counters =
        before.runtime.counters.countDrop reason := by
      rw [← uncounted.counters]
      rfl
    unfold svcStatDrop
    rw [owned.assigned, owned.length]
    by_cases unowned : owner = 0
    · rw [if_pos unowned]
      simp only [Counters.add, if_pos unowned]
      exact node
    · rw [if_neg unowned]
      simp only [Counters.add, if_neg unowned]
      have fits' : StatFits (k.withRuntime (k.runtime.addCounter reason.code)).runtime owner :=
        uncounted.fits fits
      refine (svcStatCount_runs (·.addDrop (PktMeta.init frame).frameLen reason.code)
        (ask (.svcStatAddDrop owner _ reason.code)) fits' fun _ => rfl).mono ?_
      rintro _ _ rfl
      rw [← node]
      rfl
  show Runs packetMachine False _ (svcStatDrop pkt reason.code >>= _)
    (k.withRuntime (k.runtime.addCounter reason.code))
  refine counted.seq fun _ now added => ?_
  refine (sampleDrop_uncounted ⟨rfl, rfl⟩).seq fun _ after sampled => ?_
  exact ⟨rfl, sampled.counters.trans added⟩

end

theorem nexthopRewrite_runs :
    Runs packetMachine False (fun _ now => now = k) (nexthopRewrite frame pkt) k := by
  unfold nexthopRewrite
  split
  · rfl
  split
  · rfl
  refine Runs.bind (Runs.of_eval (a := k.runtime.nexthopMap.lookup pkt.serviceId) rfl ?_)
  cases k.runtime.nexthopMap.lookup pkt.serviceId with
  | none | some => rfl

theorem redirectOut_accounted {c : ConfigMaps} (uncounted : Uncounted before k)
    (served : pkt.Served c frame owner) (nonzero : owner ≠ 0)
    (fits : StatFits before.runtime owner) :
    Runs packetMachine False (fun v now =>
        (v = ⟨.drop, none⟩ ∧ now.runtime.counters = before.runtime.counters.add owner
          (PktMeta.init frame).frameLen (.dropped .nexthopUnresolved)) ∨
        (v.action = before.runtime.redirected ∧ now.runtime.counters =
          before.runtime.counters.add owner (PktMeta.init frame).frameLen .clean))
      (redirectOut frame pkt) k := by
  refine nexthopRewrite_runs.seq ?_
  rintro rewritten? now same
  rw [same]
  cases rewritten? with
  | none => exact (recordDrop_accounted uncounted served.toOf fits).mono fun _ _ => .inl
  | some rewritten =>
    have counted : Runs packetMachine False
        (fun _ now => now.runtime.counters = before.runtime.counters.add owner
            (PktMeta.init frame).frameLen .clean ∧
          now.runtime.txDevmap = before.runtime.txDevmap)
        (svcStatClean pkt) k := by
      unfold svcStatClean
      rw [served.assigned, served.length, if_neg nonzero]
      refine (svcStatCount_runs (·.addClean (PktMeta.init frame).frameLen)
        (ask (.svcStatAddClean owner _)) (uncounted.fits fits) fun _ => rfl).mono ?_
      rintro _ _ rfl
      rw [← uncounted.counters]
      exact ⟨rfl, uncounted.txDevmap⟩
    refine counted.seq fun _ now added => Or.inr ⟨?_, added.1⟩
    rw [Runtime.redirected, ← added.2]
    rfl

theorem redirectOut_arp (uncounted : Uncounted before k) (isArp : IsArp frame) :
    Runs packetMachine False (fun v now => v.action = before.runtime.redirected ∧
        now.runtime.counters = before.runtime.counters)
      (redirectOut frame (parseEth frame ⟨0, 0⟩ (.init frame)).pkt) k := by
  have owned : (parseEth frame ⟨0, 0⟩ (.init frame)).pkt.Of frame 0 := parseEth_of (init_of frame)
  have other : (parseEth frame ⟨0, 0⟩ (.init frame)).pkt.ethProto ≠ ethPIp := by
    rw [isArp]
    decide
  unfold redirectOut nexthopRewrite svcStatClean
  rw [if_pos other, owned.assigned]
  exact ⟨by rw [Runtime.redirected, ← uncounted.txDevmap]; rfl, uncounted.counters⟩

end Counting

/-! ## One frame -/

/-- No service has the id that stands for no service. The apply helper refuses it. -/
def NoZeroId (c : ConfigMaps) : Prop :=
  ∀ frame service, serviceFor c frame = some service → service.serviceId ≠ 0

section Frame

variable {before k : Kernel} {frame : Frame}

theorem Uncounted.askBucket (uncounted : Uncounted before k) (l : Limiter) (map : BucketMap)
    (key : UInt32) (len : UInt64) : Uncounted before (k.askBucket l map key len).2 := by
  unfold Kernel.askBucket
  split
  · exact ⟨uncounted.counters, uncounted.txDevmap⟩
  · exact ⟨uncounted.counters, uncounted.txDevmap⟩

theorem Uncounted.askNode (uncounted : Uncounted before k) (config : FairNodeConfig)
    (len : UInt64) : Uncounted before (k.askNode config len).2 := by
  unfold Kernel.askNode
  split
  · exact ⟨uncounted.counters, uncounted.txDevmap⟩
  · exact ⟨uncounted.counters, uncounted.txDevmap⟩

theorem Staged.accounted {stage : Stage} {p : PacketProg Verdict}
    (staged : Staged before.config frame (ownerOf before.config frame) stage p)
    (nonzero : NoZeroId before.config)
    (fits : StatFits before.runtime (ownerOf before.config frame))
    (uncounted : Uncounted before k) (config : k.config = before.config) :
    Runs packetMachine False
      (fun v now => ∃ contribution, Accounted before frame contribution v now) p k := by
  -- the two ways out that every stage shares: a drop with its reason, and the redirect
  have dropping {pkt : PktMeta} {reason : DropReason} {now : Kernel}
      (uncounted : Uncounted before now) (owned : pkt.Of frame (ownerOf before.config frame)) :
      Runs packetMachine False (fun v now => ∃ contribution,
        Accounted before frame contribution v now) (recordDrop pkt reason) now :=
    (recordDrop_accounted uncounted owned fits).mono fun v after ⟨refused, added⟩ =>
      ⟨.dropped reason, added, refused, (nomatch ·), (nomatch ·)⟩
  have leaving {pkt : PktMeta} {now : Kernel} (uncounted : Uncounted before now)
      (served : pkt.Served before.config frame (ownerOf before.config frame)) :
      Runs packetMachine False (fun v now => ∃ contribution,
        Accounted before frame contribution v now) (redirectOut frame pkt) now := by
    obtain ⟨service, found, assigned, enabled⟩ := served.enabled
    have owns : ownerOf before.config frame ≠ 0 := assigned ▸ nonzero frame service found
    refine (redirectOut_accounted uncounted served owns fits).mono ?_
    rintro v after (⟨refused, added⟩ | ⟨sent, added⟩)
    · exact ⟨.dropped .nexthopUnresolved, added, refused, (nomatch ·), (nomatch ·)⟩
    · exact ⟨.clean, added, sent, fun _ => ⟨service, found, assigned, enabled⟩, (nomatch ·)⟩
  -- by the stages still to come; nothing is counted before the last one
  induction staged generalizing k with
  | look looks rest ih =>
    show Runs _ _ _ _ (PacketCall.exec _ k).2
    rw [exec_of_looks looks]
    exact ih k config uncounted config
  | control rest ih => exact ih _ uncounted config
  | falsePositive rest ih => exact ih ⟨uncounted.counters, uncounted.txDevmap⟩ config
  -- a bucket decides, and its map holds no counter
  | @bucket stage l map pkt len next ofService limited served full rest ih =>
    refine Runs.bind (Runs.of_eval (eval_bucketAdmit l map _ len) ?_)
    have after := uncounted.askBucket l map (ownerOf before.config frame) len
    cases (k.askBucket l map (ownerOf before.config frame) len).1 with
    | none => exact full ▸ dropping after served.toOf
    | some admitted => exact ih admitted after ((askBucket_config ..).trans config)
  | @node nodeConfig pkt len next limited served missing refused passed =>
    refine Runs.bind (Runs.of_eval (eval_fairNodeAdmit nodeConfig len) ?_)
    have after := uncounted.askNode nodeConfig len
    cases (k.askNode nodeConfig len).1 with
    | none => exact missing ▸ dropping after served.toOf
    | some admitted =>
      cases admitted with
      | false => exact refused ▸ dropping after served.toOf
      | true => exact passed ▸ leaving after served
  | drop owned located => exact dropping uncounted owned
  | out served => exact leaving uncounted served
  | arp isArp =>
    refine (redirectOut_arp uncounted isArp).mono ?_
    rintro v after ⟨sent, unchanged⟩
    exact ⟨.arp, unchanged, sent, (nomatch ·), fun _ => isArp⟩
  | bypass length =>
    refine ⟨.bypassed, ?_, ?_, (nomatch ·), (nomatch ·)⟩
    · rw [← length, ← uncounted.counters]
      rfl
    · rw [Runtime.redirected, ← uncounted.txDevmap]
      rfl

end Frame

/-! ## Exactly one contribution -/

/-- `counter_map` and `bypass_counter` are arrays, which hold all their entries. -/
structure Counters.Mapped (c : Counters) : Prop where
  node : ∀ reason : DropReason, (c.node reason.code).isSome
  bypass : c.bypass.isSome

namespace Counters

variable {c : Counters} {owner : UInt32} {bytes : UInt16}

theorem countDrop_node (dropped reason : DropReason) :
    (c.countDrop dropped).node reason.code =
      if reason = dropped then (c.node reason.code).map (· + 1) else c.node reason.code := by
  simp only [countDrop]
  split
  next same => rw [same, Function.update_self]
  next other => exact Function.update_of_ne (fun equal => other (DropReason.code_injective equal)) ..

theorem add_node (contribution : Contribution) (reason : DropReason) :
    (c.add owner bytes contribution).node reason.code =
      if contribution = .dropped reason then (c.node reason.code).map (· + 1)
      else c.node reason.code := by
  cases contribution with
  | dropped dropped =>
    have counted : (c.add owner bytes (.dropped dropped)).node = (c.countDrop dropped).node := by
      simp only [add]
      split <;> rfl
    rw [counted, countDrop_node]
    simp only [Contribution.dropped.injEq, eq_comm]
  | clean | bypassed | arp => rfl

theorem add_node_same (mapped : c.Mapped) (contribution : Contribution) (reason : DropReason) :
    (c.add owner bytes contribution).node reason.code = c.node reason.code ↔
      contribution ≠ .dropped reason := by
  obtain ⟨total, found⟩ := Option.isSome_iff_exists.mp (mapped.node reason)
  rw [add_node, found]
  split
  next drop => simp [drop]
  next other => simp [other]

theorem insert_addClean_ne : c.services.insert owner
    (((c.services.lookup owner).getD .zero).addClean bytes) ≠ c.services := by
  intro same
  have found := congrArg (AList.lookup owner) same
  rw [AList.lookup_insert] at found
  rw [← found, Option.getD_some] at found
  have pkts := congrArg (Option.map SvcStat.cleanPkts) found
  simp [SvcStat.addClean] at pkts

theorem bypassed_ne (mapped : c.Mapped) :
    c.bypass.map (fun stat => (⟨stat.pkts + 1, stat.bytes + bytes.toUInt64⟩ : BypassStat)) ≠
      c.bypass := by
  obtain ⟨stat, found⟩ := Option.isSome_iff_exists.mp mapped.bypass
  intro same
  rw [found] at same
  have pkts := congrArg (Option.map BypassStat.pkts) same
  simp at pkts

/-- The counters tell the contributions apart. -/
theorem add_injective (mapped : c.Mapped) {a b : Contribution}
    (same : c.add owner bytes a = c.add owner bytes b) : a = b := by
  have drops (reason : DropReason) : a = .dropped reason ↔ b = .dropped reason := by
    rw [← not_iff_not, ← ne_eq, ← ne_eq, ← add_node_same mapped, ← add_node_same mapped, same]
  have services := congrArg Counters.services same
  have bypass := congrArg Counters.bypass same
  cases a with
  | dropped reason => exact ((drops reason).mp rfl).symm
  | clean =>
    cases b with
    | dropped reason => exact (drops reason).mpr rfl
    | clean => rfl
    | bypassed | arp => exact absurd services insert_addClean_ne
  | bypassed =>
    cases b with
    | dropped reason => exact (drops reason).mpr rfl
    | clean => exact absurd services.symm insert_addClean_ne
    | bypassed => rfl
    | arp => exact absurd bypass (bypassed_ne mapped)
  | arp =>
    cases b with
    | dropped reason => exact (drops reason).mpr rfl
    | clean => exact absurd services.symm insert_addClean_ne
    | bypassed => exact absurd bypass.symm (bypassed_ne mapped)
    | arp => rfl

end Counters

/-- A frame returns a verdict and is counted as exactly one contribution. -/
theorem xdpGateway_accounted {k : Kernel} (frame : Frame) (mapped : k.runtime.counters.Mapped)
    (nonzero : NoZeroId k.config) (fits : StatFits k.runtime (ownerOf k.config frame)) :
    ∃ v after, eval packetMachine (xdpGateway frame) k = (.returned v, after) ∧
      ∃! contribution, Accounted k frame contribution v after := by
  have runs := (xdpGateway_staged k.config frame).accounted nonzero fits ⟨rfl, rfl⟩ rfl
  obtain ⟨v, after, ran, contribution, accounted⟩ := runs.returns
  refine ⟨v, after, ran, contribution, accounted, ?_⟩
  intro other accounted'
  exact Counters.add_injective mapped (accounted'.counters.symm.trans accounted.counters)

end ScrubbingGateway.DataPlane
