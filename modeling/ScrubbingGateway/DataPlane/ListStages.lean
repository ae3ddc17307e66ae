import ScrubbingGateway.DataPlane.Passage

/-!
# The list stages

A Bloom filter may say of a key nobody added that it is there. The stages behind the whitelist and
the global deny list are run here on a kernel whose filters err in this way as they like, and what
the stages decide does not depend on it.
-/

namespace ScrubbingGateway.DataPlane

open Prog

/-- The keys of which the filters say wrongly that they may be there. -/
structure BloomNoise where
  whitelist : MapId → WlBloomKey → Bool
  global : MapId → UInt32 → Bool

/-- The filters take every key for one of their own. -/
def allNoise : BloomNoise := ⟨fun _ _ => true, fun _ _ => true⟩

def noisyExec (noise : BloomNoise) : (c : PacketCall) → Kernel → c.Answer × Kernel
  | .inner .whitelistBloom id key, k =>
    (if noise.whitelist id key then some () else ((PacketCall.inner .whitelistBloom id key).exec k).1,
      k)
  | .inner .globalBlacklistBloom id key, k =>
    (if noise.global id key then some ()
      else ((PacketCall.inner .globalBlacklistBloom id key).exec k).1, k)
  | c, k => c.exec k

/-- The kernel with filters that err. -/
def noisyMachine (noise : BloomNoise) : Machine Kernel PacketCall PacketCall.Answer where
  exec := noisyExec noise
  fault := PacketCall.fault

/-- The filters never deny a key that is there. -/
theorem isSome_noisy (wrong : Bool) {answer : Option Unit} (present : answer.isSome = true) :
    (if wrong then some () else answer).isSome = true := by
  cases wrong with
  | true => rfl
  | false => exact present

/-- A program drops its packet for a reason. -/
def DropsFor (m : Machine Kernel PacketCall PacketCall.Answer) (reason : DropReason)
    (prog : PacketProg Verdict) (k : Kernel) : Prop :=
  .counterAdd reason.code ∈ calls m prog k ∧
    ∃ k', eval m prog k = (.returned ⟨.drop, none⟩, k')

/-! ## What a stage asks for -/

/-- The call is no lookup in other maps than the listed ones, and counts no drop for a reason that
is not listed. -/
def PacketCall.Within (reasons : List DropReason) (outers : List Outer) : PacketCall → Prop
  | .counterAdd code => ∃ reason ∈ reasons, code = reason.code
  | .outer o _ | .inner o _ _ => o ∈ outers
  | _ => True

abbrev WithinProg {α : Type} (reasons : List DropReason) (outers : List Outer)
    (p : PacketProg α) : Prop :=
  Asks (PacketCall.Within reasons outers) (fun _ _ => True) p

section Within

variable {reasons : List DropReason} {outers : List Outer} {frame : Frame} {pkt : PktMeta}
  {slot : UInt32}

/-- The calls of a stage, when the outer maps may answer anything. -/
def listScope (slot : UInt32) (reasons : List DropReason) (outers : List Outer) : Scope :=
  ⟨slot, fun _ _ => True, (· ∈ reasons), (· ∈ outers)⟩

theorem Stays.within {α : Type} {p : PacketProg α}
    (stays : Stays (listScope slot reasons outers) p) : WithinProg reasons outers p := by
  refine Asks.mono stays (fun q allowed => ?_) fun q _ _ => by cases q <;> trivial
  cases q with
  | outer | inner => exact allowed.2
  | counterAdd => exact allowed
  | _ => trivial

theorem stays_allow : Stays (listScope slot allowReasons allowOuters)
    (allowRuleStage frame pkt slot) :=
  stays_allowRuleStage (fun _ => id) fun _ => id

theorem stays_filter : Stays (listScope slot denyReasons filterOuters)
    (denyFilterStage frame pkt slot) :=
  stays_denyFilterStage (fun _ => id) fun _ => id

end Within

/-! ## Drops -/

variable {reasons : List DropReason} {p : PacketProg Verdict} {outers : List Outer}

section Drops

variable {m : Machine Kernel PacketCall PacketCall.Answer} {k : Kernel} {reason : DropReason}
  {frame : Frame} {pkt : PktMeta} {slot : UInt32}

theorem mem_calls_ask {α : Type} {c q : PacketCall} {f : c.Answer → PacketProg α}
    {answer : c.Answer} (answered : m.exec c k = (answer, k)) (other : c ≠ q) :
    q ∈ calls m (ask c >>= f) k ↔ q ∈ calls m (f answer) k := by
  have head : calls m (ask c >>= f) k = c :: calls m (f (m.exec c k).1) (m.exec c k).2 := rfl
  rw [head, answered, List.mem_cons, or_iff_right (Ne.symm other)]

theorem dropsFor_ask {c : PacketCall} {f : c.Answer → PacketProg Verdict} {answer : c.Answer}
    (answered : m.exec c k = (answer, k)) (other : c ≠ .counterAdd reason.code) :
    DropsFor m reason (ask c >>= f) k ↔ DropsFor m reason (f answer) k := by
  have tail : eval m (ask c >>= f) k = eval m (f (m.exec c k).1) (m.exec c k).2 := rfl
  unfold DropsFor
  rw [mem_calls_ask answered other, tail, answered]

theorem runs_svcStatGet (dpId : UInt32) : Runs m False (fun _ _ => True) (svcStatGet dpId) k := by
  unfold svcStatGet
  apply Runs.bind
  change Runs m False _ (if _ = true then _ else _) _
  split
  · trivial
  · apply Runs.bind
    change Runs m False _ (if _ = true then _ else _) _
    split
    · trivial
    · apply Runs.bind
      change Runs m False _ (if _ = true then _ else _) _
      split <;> trivial

theorem runs_svcStatDrop (code : UInt32) :
    Runs m False (fun _ _ => True) (svcStatDrop pkt code) k := by
  unfold svcStatDrop
  split
  · trivial
  · apply Runs.bind
    apply (runs_svcStatGet _).mono
    intro found k' _
    cases found <;> trivial

theorem runs_sampleDrop (code : UInt32) :
    Runs m False (fun _ _ => True) (sampleDrop pkt code) k := by
  unfold sampleDrop
  apply Runs.bind
  apply Runs.bind
  dsimp only [ask, Prog.request, Runs]
  split
  · split
    · trivial
    · apply Runs.bind
      change Runs m False _ (sampleAt pkt code _ _ _) _
      unfold sampleAt
      dsimp only
      split
      · trivial
      · apply Runs.bind
        change Runs m False _ (sampleEmit pkt code _) _
        unfold sampleEmit
        apply Runs.bind
        change Runs m False _ (if _ = true then _ else _) _
        split <;> trivial
  · trivial

theorem dropsFor_recordDrop (reason : DropReason) : DropsFor m reason (recordDrop pkt reason) k := by
  have runs : Runs m False (fun v _ => v = ⟨.drop, none⟩) (recordDrop pkt reason) k := by
    apply Runs.bind
    apply Runs.bind
    apply (runs_svcStatDrop _).mono
    intro _ _ _
    apply Runs.bind
    apply (runs_sampleDrop _).mono
    intro _ _ _
    rfl
  obtain ⟨verdict, k', ran, rfl⟩ := runs.returns
  constructor
  · exact List.mem_cons_self
  · exact ⟨k', ran⟩

theorem not_dropsFor_within (within : WithinProg reasons outers p) (unlisted : reason ∉ reasons) :
    ¬ DropsFor m reason p k := by
  rintro ⟨counted, _⟩
  obtain ⟨other, listed, same⟩ := within.calls _ counted
  exact unlisted (DropReason.code_injective same ▸ listed)

end Drops

/-! ## The global deny list -/

variable {find : Option MapId → PacketProg (Option Bool)} {f : Option Bool → PacketProg Verdict}
  {id lpm bloom : MapId} {o : Outer} {consulted : Bool}

section Deny

variable {noise : BloomNoise} {k : Kernel} {reason : DropReason} {frame : Frame} {pkt : PktMeta}
  {slot : UInt32}

theorem dropsFor_hit {key : o.Key} (mapped : find (some id) =
      ask (.inner o id key) >>= fun present => .ret (some present.isSome))
    (installed : k.config.outer o slot = some id) {answer : Option o.Val}
    (answered : (noisyMachine noise).exec (.inner o id key) k = (answer, k)) :
    DropsFor (noisyMachine noise) reason ((ask (.outer o slot) >>= find) >>= f) k ↔
      DropsFor (noisyMachine noise) reason (f (some answer.isSome)) k := by
  have there : (noisyMachine noise).exec (.outer o slot) k = (some id, k) := by
    rw [← installed]
    rfl
  rw [bind_assoc, dropsFor_ask there nofun, mapped, bind_assoc, dropsFor_ask answered nofun]
  rfl

theorem not_dropsFor_allowRuleStage :
    ¬ DropsFor (noisyMachine noise) .blacklistDrop (allowRuleStage frame pkt slot) k :=
  not_dropsFor_within stays_allow.within (by decide)

theorem globalTrieStage_drops_iff (installed : k.config.outer .globalBlacklistLpm slot = some lpm) :
    DropsFor (noisyMachine noise) .blacklistDrop (globalTrieStage frame pkt slot consulted) k ↔
      (slotLookup k.config slot .globalBlacklistLpm (blLpmKey 32 pkt.srcIp)).isSome := by
  have answered : (noisyMachine noise).exec (.inner .globalBlacklistLpm lpm (blLpmKey 32 pkt.srcIp))
      k = (slotLookup k.config slot .globalBlacklistLpm (blLpmKey 32 pkt.srcIp), k) := by
    rw [slotLookup, installed]
    rfl
  unfold globalTrieStage
  rw [gblLpmHit, dropsFor_hit rfl installed answered]
  cases (slotLookup k.config slot .globalBlacklistLpm (blLpmKey 32 pkt.srcIp)).isSome with
  | false =>
    exact iff_of_false (not_dropsFor_within (stays_bloomFp stays_allow).within (by decide))
      Bool.false_ne_true
  | true => exact iff_of_true (dropsFor_recordDrop _) rfl

/-- The trie decides, as long as the flags and the filter let through to it what it holds. -/
theorem globalDenyStage_drops_iff {globalMeta : GblMeta}
    (found : k.config.gblMeta slot = some globalMeta)
    (bloomAt : k.config.outer .globalBlacklistBloom slot = some bloom)
    (lpmAt : k.config.outer .globalBlacklistLpm slot = some lpm)
    (complete : (slotLookup k.config slot .globalBlacklistLpm (blLpmKey 32 pkt.srcIp)).isSome →
      globalMeta.flags &&& gblActive ≠ 0 ∧ (globalMeta.flags &&& gblHasBroad = 0 →
        (slotLookup k.config slot .globalBlacklistBloom (pkt.srcIp &&& src24Mask)).isSome)) :
    DropsFor (noisyMachine noise) .blacklistDrop (globalDenyStage frame pkt slot) k ↔
      (slotLookup k.config slot .globalBlacklistLpm (blLpmKey 32 pkt.srcIp)).isSome := by
  have flags : (noisyMachine noise).exec (.gblMeta slot) k = (some globalMeta, k) := by
    rw [← found]
    rfl
  unfold globalDenyStage
  rw [dropsFor_ask flags nofun]
  dsimp only
  by_cases inactive : globalMeta.flags &&& gblActive = 0
  · rw [if_pos inactive]
    exact iff_of_false not_dropsFor_allowRuleStage fun hit => (complete hit).1 inactive
  rw [if_neg inactive]
  by_cases broad : globalMeta.flags &&& gblHasBroad = 0
  · rw [if_neg (not_not.mpr broad)]
    let key := pkt.srcIp &&& src24Mask
    have answered : (noisyMachine noise).exec (.inner .globalBlacklistBloom bloom key) k =
        (if noise.global bloom key then some ()
          else slotLookup k.config slot .globalBlacklistBloom key, k) := by
      rw [slotLookup, bloomAt]
      rfl
    rw [gblBloomMaybe, dropsFor_hit rfl bloomAt answered]
    cases maybe : (if noise.global bloom key then some ()
      else slotLookup k.config slot .globalBlacklistBloom key).isSome with
    | true => exact globalTrieStage_drops_iff lpmAt
    | false =>
      -- the filter is only ever wrong in saying yes
      apply iff_of_false not_dropsFor_allowRuleStage
      intro hit
      have present := isSome_noisy (noise.global bloom key) ((complete hit).2 broad)
      exact absurd (maybe.symm.trans present) Bool.false_ne_true
  · rw [if_pos broad]
    exact globalTrieStage_drops_iff lpmAt

theorem denyFilterStage_drops_iff
    (sourcePort : ¬ (pkt.ipProto = ipprotoUdp ∧ ampPortHardcoded pkt.sport))
    (notBogon : bogonSrc pkt.srcIp = false) (portAllowed : PortAllowed k pkt slot) :
    DropsFor (noisyMachine noise) reason (denyFilterStage frame pkt slot) k ↔
      DropsFor (noisyMachine noise) reason (globalDenyStage frame pkt slot) k := by
  unfold denyFilterStage
  rw [if_neg sourcePort, notBogon, if_neg Bool.false_ne_true]
  split
  next udp =>
    obtain ⟨word, found, clear⟩ := portAllowed udp
    obtain ⟨id, installed, inside⟩ := Option.bind_eq_some_iff.mp found
    have there : (noisyMachine noise).exec (.outer .udpBlockedPortBitmap slot) k = (some id, k) := by
      rw [← installed]
      rfl
    have answered : (noisyMachine noise).exec
        (.inner .udpBlockedPortBitmap id (pkt.sport >>> 6).toUInt32) k = (some word, k) := by
      rw [← inside]
      rfl
    unfold blockedPortStage
    rw [dropsFor_ask there nofun]
    dsimp only
    rw [dropsFor_ask answered nofun]
    dsimp only
    rw [clear, if_neg Bool.false_ne_true]
  · rfl

end Deny

/-! ## The whitelist -/

/-- The lookup in the whitelist of a service hits: the stage goes on to the rates of whitelisted
sources, which no other branch reads. -/
def WhitelistHit (m : Machine Kernel PacketCall PacketCall.Answer) (frame : Frame) (pkt : PktMeta)
    (slot : UInt32) (service : ServiceVal) (k : Kernel) : Prop :=
  .outer .vipConfigMap slot ∈ calls m (whitelistStage frame pkt slot service) k

section Whitelist

variable {noise : BloomNoise} {k : Kernel} {frame : Frame} {pkt : PktMeta} {slot : UInt32}
  {m : Machine Kernel PacketCall PacketCall.Answer}

theorem not_mem_calls_within (within : WithinProg reasons outers p)
    (unlisted : .vipConfigMap ∉ outers) : .outer .vipConfigMap slot ∉ calls m p k :=
  fun called => unlisted (within.calls _ called)

theorem not_mem_calls_denyFilterStage :
    .outer .vipConfigMap slot ∉ calls m (denyFilterStage frame pkt slot) k :=
  not_mem_calls_within stays_filter.within (by decide)

theorem mem_calls_hit {key : o.Key} (mapped : find (some id) =
      ask (.inner o id key) >>= fun present => .ret (some present.isSome))
    (installed : k.config.outer o slot = some id) {answer : Option o.Val}
    (answered : (noisyMachine noise).exec (.inner o id key) k = (answer, k))
    (other : o ≠ .vipConfigMap) :
    .outer .vipConfigMap slot ∈ calls (noisyMachine noise) ((ask (.outer o slot) >>= find) >>= f) k ↔
      .outer .vipConfigMap slot ∈ calls (noisyMachine noise) (f (some answer.isSome)) k := by
  have there : (noisyMachine noise).exec (.outer o slot) k = (some id, k) := by
    rw [← installed]
    rfl
  have here : PacketCall.outer o slot ≠ .outer .vipConfigMap slot :=
    fun same => other (PacketCall.outer.inj same).1
  have inside : PacketCall.inner o id key ≠ .outer .vipConfigMap slot := nofun
  rw [bind_assoc, mem_calls_ask there here, mapped, bind_assoc, mem_calls_ask answered inside]
  rfl

theorem whitelistTrieStage_hits_iff (installed : k.config.outer .whitelistLpm slot = some lpm) :
    .outer .vipConfigMap slot ∈
        calls (noisyMachine noise) (whitelistTrieStage frame pkt slot consulted) k ↔
      (slotLookup k.config slot .whitelistLpm (wlLpmKey 64 pkt.serviceId pkt.srcIp)).isSome := by
  let key := wlLpmKey 64 pkt.serviceId pkt.srcIp
  have answered : (noisyMachine noise).exec (.inner .whitelistLpm lpm key) k =
      (slotLookup k.config slot .whitelistLpm key, k) := by
    rw [slotLookup, installed]
    rfl
  unfold whitelistTrieStage
  rw [wlLpmHit, mem_calls_hit rfl installed answered (by decide)]
  cases (slotLookup k.config slot .whitelistLpm key).isSome with
  | false =>
    exact iff_of_false (not_mem_calls_within (stays_bloomFp stays_filter).within (by decide))
      Bool.false_ne_true
  | true => exact iff_of_true List.mem_cons_self rfl

/-- The trie decides, as long as the flags and the filter let through to it what it holds. -/
theorem whitelistStage_hits_iff {service : ServiceVal}
    (bloomAt : k.config.outer .whitelistBloom slot = some bloom)
    (lpmAt : k.config.outer .whitelistLpm slot = some lpm)
    (complete : (slotLookup k.config slot .whitelistLpm
        (wlLpmKey 64 pkt.serviceId pkt.srcIp)).isSome →
      service.wlFlags &&& wlActive ≠ 0 ∧ (service.wlFlags &&& wlHasBroad = 0 →
        (slotLookup k.config slot .whitelistBloom (wlBloomKey pkt.serviceId pkt.srcIp)).isSome)) :
    WhitelistHit (noisyMachine noise) frame pkt slot service k ↔
      (slotLookup k.config slot .whitelistLpm (wlLpmKey 64 pkt.serviceId pkt.srcIp)).isSome := by
  unfold WhitelistHit whitelistStage
  by_cases inactive : service.wlFlags &&& wlActive = 0
  · rw [if_pos inactive]
    exact iff_of_false not_mem_calls_denyFilterStage fun hit => (complete hit).1 inactive
  rw [if_neg inactive]
  by_cases broad : service.wlFlags &&& wlHasBroad = 0
  · rw [if_neg (not_not.mpr broad)]
    let key := wlBloomKey pkt.serviceId pkt.srcIp
    have answered : (noisyMachine noise).exec (.inner .whitelistBloom bloom key) k =
        (if noise.whitelist bloom key then some ()
          else slotLookup k.config slot .whitelistBloom key, k) := by
      rw [slotLookup, bloomAt]
      rfl
    rw [wlBloomMaybe, mem_calls_hit rfl bloomAt answered (by decide)]
    cases maybe : (if noise.whitelist bloom key then some ()
      else slotLookup k.config slot .whitelistBloom key).isSome with
    | true => exact whitelistTrieStage_hits_iff lpmAt
    | false =>
      -- the filter is only ever wrong in saying yes
      apply iff_of_false not_mem_calls_denyFilterStage
      intro hit
      have present := isSome_noisy (noise.whitelist bloom key) ((complete hit).2 broad)
      exact absurd (maybe.symm.trans present) Bool.false_ne_true
  · rw [if_pos broad]
    exact whitelistTrieStage_hits_iff lpmAt

end Whitelist

end ScrubbingGateway.DataPlane
