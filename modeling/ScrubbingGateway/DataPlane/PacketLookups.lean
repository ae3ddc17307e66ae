import ScrubbingGateway.DataPlane.Policy

/-!
# Where a packet looks

The packet program reads `active_config` once. Whatever it looks up in the configuration after
that, it looks up through the slot it read, with the ids of inner maps it found in that slot.
-/

namespace ScrubbingGateway.DataPlane

open Prog

/-- A call that does not look at the configuration. -/
def PacketCall.Plain : PacketCall → Prop
  | .activeConfig | .outer _ _ | .inner _ _ _ | .fairNodeConfig _ | .gblMeta _ => False
  | _ => True

/-- A call that only keeps books about a packet that is already decided, or sends it out. -/
def PacketCall.Books : PacketCall → Prop
  | .ktimeGetNs | .svcStatLookup _ | .svcStatInsert _ | .svcStatAddClean _ _ => True
  | .svcStatAddDrop _ _ _ | .bypassAdd _ | .nexthopLookup _ | .redirectMap => True
  | .sampleConfig | .sampleBucketLookup | .sampleBucketWrite _ | .sampleStatAdd _ => True
  | .ringbufReserve | .ringbufSubmit _ => True
  | _ => False

def ActiveSlot (c : ConfigMaps) (slot : UInt32) : Prop :=
  ∃ active, c.activeConfig = some active ∧ active.activeSlot = slot

/-- A call looks only through the active slot of a configuration, and does not ask again which one
it is. -/
def PacketCall.Through (c : ConfigMaps) : PacketCall → Prop
  | .activeConfig => False
  | .outer _ slot | .fairNodeConfig slot | .gblMeta slot => ActiveSlot c slot
  | .inner o id _ => ∃ slot, ActiveSlot c slot ∧ c.outer o slot = some id
  | _ => True

/-- The answer to a call is what the active slot of a configuration holds. -/
def PacketCall.HeldBy (c : ConfigMaps) : (q : PacketCall) → q.Answer → Prop
  | .activeConfig, answer => answer = c.activeConfig
  | .outer o slot, answer => ActiveSlot c slot ∧ answer = c.outer o slot
  | .inner o id key, answer =>
    ∃ slot, ActiveSlot c slot ∧ c.outer o slot = some id ∧ answer = slotLookup c slot o key
  | .fairNodeConfig slot, answer => ActiveSlot c slot ∧ answer = c.fairNodeConfig slot
  | .gblMeta slot, answer => ActiveSlot c slot ∧ answer = c.gblMeta slot
  | _, _ => True

/-- A program that leaves the configuration alone. -/
abbrev PlainProg {α : Type} (p : PacketProg α) : Prop := Asks PacketCall.Plain (fun _ _ => True) p

/-- A program that only keeps books. -/
abbrev BooksProg {α : Type} (p : PacketProg α) : Prop := Asks PacketCall.Books (fun _ _ => True) p

/-- A program that looks only through the active slot of a configuration, as long as it finds there
what the slot holds. -/
abbrev Sees {α : Type} (c : ConfigMaps) (p : PacketProg α) : Prop :=
  Asks (·.Through c) (·.HeldBy c) p

/-- A program that looks at nothing before it reads `active_config`, and from then on looks only
through the slot it read. -/
inductive ReadsOnce {α : Type} : PacketProg α → Prop where
  | ret (a : α) : ReadsOnce (.ret a)
  | fail : ReadsOnce .fail
  | unfinished : ReadsOnce .unfinished
  | plain {q : PacketCall} {next : q.Answer → PacketProg α} (isPlain : q.Plain)
      (rest : ∀ answer, ReadsOnce (next answer)) : ReadsOnce (.call q next)
  | read {next : Option ActiveConfig → PacketProg α}
      (rest : ∀ c : ConfigMaps, Sees c (next c.activeConfig)) :
      ReadsOnce (.call .activeConfig next)

variable {q : PacketCall}

theorem PacketCall.Plain.through (plain : q.Plain) (c : ConfigMaps) : q.Through c := by
  cases q <;> first | exact plain.elim | trivial

theorem PacketCall.Books.plain (books : q.Books) : q.Plain := by
  cases q <;> first | exact books.elim | trivial

section

variable {α β : Type} {p : PacketProg α}

theorem PlainProg.sees (plain : PlainProg p) (c : ConfigMaps) : Sees c p :=
  Asks.mono plain (fun _ isPlain => isPlain.through c) fun _ _ _ => trivial

theorem ReadsOnce.of_plain_bind {f : α → PacketProg β} (plain : PlainProg p)
    (rest : ∀ a, ReadsOnce (f a)) : ReadsOnce (p >>= f) := by
  induction p with
  | ret a => exact rest a
  | fail => exact .fail
  | unfinished => exact .unfinished
  | call q next ih => exact .plain plain.1 fun answer => ih answer (plain.2 answer trivial)

theorem ReadsOnce.of_plain (plain : PlainProg p) : ReadsOnce p := by
  rw [← bind_pure p]
  exact .of_plain_bind plain .ret

theorem BooksProg.plain (books : BooksProg p) : PlainProg p :=
  Asks.mono books (fun _ isBook => isBook.plain) fun _ _ _ => trivial

variable {Allowed : PacketCall → Prop}

theorem asks_ask {f : q.Answer → PacketProg α} (allowed : Allowed q)
    (rest : ∀ answer, Asks Allowed (fun _ _ => True) (f answer)) :
    Asks Allowed (fun _ _ => True) (ask q >>= f) :=
  ⟨allowed, fun answer _ => rest answer⟩

theorem asks_last (allowed : Allowed q) : Asks Allowed (fun _ _ => True) (ask q) :=
  ⟨allowed, fun _ _ => trivial⟩

end

/-! ## Programs that leave the configuration alone -/

theorem svcStatGet_books (dpId : UInt32) : BooksProg (svcStatGet dpId) := by
  refine asks_ask trivial fun found => ?_
  split
  · trivial
  refine asks_ask trivial fun inserted => ?_
  split
  · exact asks_last trivial
  refine asks_ask trivial fun found => ?_
  split
  · exact asks_last trivial
  · trivial

section

variable (pkt : PktMeta)

theorem svcStatClean_books : BooksProg (svcStatClean pkt) := by
  unfold svcStatClean
  split
  · trivial
  refine (svcStatGet_books _).bind fun found => ?_
  split
  · exact asks_last trivial
  · trivial

theorem svcStatDrop_books (reason : UInt32) : BooksProg (svcStatDrop pkt reason) := by
  unfold svcStatDrop
  split
  · trivial
  refine (svcStatGet_books _).bind fun found => ?_
  split
  · exact asks_last trivial
  · trivial

theorem sampleDrop_books (reason : UInt32) : BooksProg (sampleDrop pkt reason) := by
  refine asks_ask trivial fun config? => asks_ask trivial fun bucket? => ?_
  split
  · split
    · trivial
    refine asks_ask trivial fun now => ?_
    unfold sampleAt
    dsimp only
    split
    · exact asks_ask trivial fun _ => asks_last trivial
    · refine asks_ask trivial fun _ => asks_ask trivial fun room => ?_
      split
      · exact asks_ask trivial fun _ => asks_last trivial
      · exact asks_last trivial
  · trivial

theorem counted_books (reason : DropReason) :
    BooksProg (svcStatDrop pkt reason.code >>= fun _ =>
      sampleDrop pkt reason.code >>= fun _ => (.ret ⟨.drop, none⟩ : PacketProg Verdict)) :=
  (svcStatDrop_books _ _).bind fun _ => (sampleDrop_books _ _).bind fun _ => trivial

theorem sent_books (rewritten : Option Nexthop) :
    BooksProg (svcStatClean pkt >>= fun _ =>
      ask .redirectMap >>= fun action => (.ret ⟨action, rewritten⟩ : PacketProg Verdict)) :=
  (svcStatClean_books pkt).bind fun _ => asks_ask trivial fun _ => trivial

end

theorem nexthopRewrite_books (frame : Frame) (pkt : PktMeta) :
    BooksProg (nexthopRewrite frame pkt) := by
  unfold nexthopRewrite
  split
  · trivial
  split
  · trivial
  refine asks_ask trivial fun nh? => ?_
  split <;> trivial

theorem recordDrop_plain (pkt : PktMeta) (reason : DropReason) :
    PlainProg (recordDrop pkt reason) :=
  asks_ask trivial fun _ => (counted_books pkt reason).plain

theorem redirectOut_plain (frame : Frame) (pkt : PktMeta) : PlainProg (redirectOut frame pkt) := by
  refine (nexthopRewrite_books frame pkt).plain.bind fun rewritten? => ?_
  cases rewritten? with
  | none => exact recordDrop_plain _ _
  | some rewritten => exact (sent_books pkt rewritten).plain

/-! ## The stages behind the read -/

/-- What the stages of a slot may ask for. -/
structure Scope where
  slot : UInt32
  /-- What the outer maps may answer. -/
  given : Outer → Option MapId → Prop
  /-- The reasons to drop a packet for. -/
  reasons : DropReason → Prop
  outers : Outer → Prop

namespace Scope

variable (s : Scope)

def Allows : PacketCall → Prop
  | .activeConfig => False
  | .outer o slot => slot = s.slot ∧ s.outers o
  | .inner o id _ => s.given o (some id) ∧ s.outers o
  | .fairNodeConfig slot | .gblMeta slot => slot = s.slot
  | .counterAdd code => ∃ reason, s.reasons reason ∧ code = reason.code
  | _ => True

def Answers : (q : PacketCall) → q.Answer → Prop
  | .outer o _, answer => s.given o answer
  | _, _ => True

end Scope

/-- A program that looks at the maps of a slot only, with the ids of inner maps it found there. -/
abbrev Stays {α : Type} (s : Scope) (p : PacketProg α) : Prop := Asks s.Allows s.Answers p

/-- The drops of the fairness stage and behind it. -/
def fairReasons : List DropReason :=
  [.mapError, .serviceCeilingDrop, .congestionDrop, .nexthopUnresolved]

/-- The drops and maps of the stages from the allow rules on. -/
def allowReasons : List DropReason :=
  [.mapError, .notAllowed, .rateLimitDrop, .serviceCeilingDrop, .congestionDrop, .nexthopUnresolved]

def allowOuters : List Outer := [.ruleBlockMap, .svcRlConfigMap, .fairConfigMap]

/-- The drops and maps of the stages from the deny filters on. -/
def denyReasons : List DropReason :=
  .udpAmplificationDrop :: .bogonDrop :: .blacklistDrop :: allowReasons

def filterOuters : List Outer :=
  .udpBlockedPortBitmap :: .globalBlacklistBloom :: .globalBlacklistLpm :: allowOuters

section Stages

variable {s : Scope} {frame : Frame} {pkt : PktMeta} {α : Type}

theorem stays_of_books {p : PacketProg α} (books : BooksProg p) : Stays s p := by
  refine Asks.mono books (fun q isBook => ?_) fun _ _ _ => trivial
  cases q <;> first | exact isBook.elim | trivial

theorem stays_ask {f : q.Answer → PacketProg α} (allowed : s.Allows q)
    (rest : ∀ answer, Stays s (f answer)) : Stays s (ask q >>= f) :=
  ⟨allowed, fun answer _ => rest answer⟩

theorem stays_recordDrop {reason : DropReason} (listed : s.reasons reason) :
    Stays s (recordDrop pkt reason) :=
  stays_ask ⟨reason, listed, rfl⟩ fun _ => stays_of_books (counted_books pkt reason)

theorem stays_redirectOut (listed : s.reasons .nexthopUnresolved) :
    Stays s (redirectOut frame pkt) := by
  refine (stays_of_books (nexthopRewrite_books frame pkt)).bind fun rewritten? => ?_
  cases rewritten? with
  | none => exact stays_recordDrop listed
  | some rewritten => exact stays_of_books (sent_books pkt rewritten)

theorem stays_rlTestNoRefill : Stays s rlTestNoRefill := by
  refine stays_ask trivial fun config? => ?_
  split <;> trivial

theorem stays_rlCpuCount : Stays s rlCpuCount := stays_ask trivial fun _ => trivial

theorem stays_bucketAdmit (l : Limiter) (map : BucketMap) (key : UInt32) (len : UInt64) :
    Stays s (l.bucketAdmit map key len) := by
  refine stays_rlCpuCount.bind fun _ => stays_rlTestNoRefill.bind fun _ =>
    stays_ask trivial fun _ => stays_ask trivial fun bucket? => ?_
  split
  · refine stays_ask trivial fun updated => ?_
    split <;> trivial
  · exact stays_ask trivial fun _ => trivial

theorem stays_fairNodeAdmit (config : FairNodeConfig) (len : UInt64) :
    Stays s (fairNodeAdmit config len) := by
  refine stays_rlCpuCount.bind fun _ => stays_rlTestNoRefill.bind fun _ =>
    stays_ask trivial fun _ => stays_ask trivial fun bucket? => ?_
  split
  · trivial
  · exact stays_ask trivial fun _ => trivial

/-- A look at an outer map of the slot; the inner map it refers to may be looked at from then on. -/
theorem stays_outer {o : Outer} {f : Option MapId → PacketProg α} (listed : s.outers o)
    (absent : Stays s (f none))
    (present : ∀ id, (∀ {β : Type} {key : o.Key} {g : Option o.Val → PacketProg β},
      (∀ v?, Stays s (g v?)) → Stays s (ask (.inner o id key) >>= g)) → Stays s (f (some id))) :
    Stays s (ask (.outer o s.slot) >>= f) := by
  refine ⟨⟨rfl, listed⟩, fun answer given => ?_⟩
  cases answer with
  | none => exact absent
  | some id => exact present id fun rest => stays_ask (q := .inner o id _) ⟨given, listed⟩ rest

theorem stays_fairConfigLookup (serviceId : UInt32) (listed : s.outers .fairConfigMap) :
    Stays s (fairConfigLookup s.slot serviceId) :=
  stays_outer listed trivial fun _ inner => inner (g := .ret) fun _ => trivial

theorem stays_fairAdmitStage (counted : ∀ reason ∈ fairReasons, s.reasons reason)
    (looked : ∀ o ∈ allowOuters, s.outers o) : Stays s (fairAdmitStage frame pkt s.slot) := by
  have dropped (reason : DropReason) (listed : reason ∈ fairReasons) :
      Stays s (recordDrop pkt reason) := stays_recordDrop (counted reason listed)
  have redirected : Stays s (redirectOut frame pkt) := stays_redirectOut (counted _ (by decide))
  refine (stays_fairConfigLookup _ (looked _ (by decide))).bind fun config? => ?_
  split
  · exact dropped _ (by decide)
  refine (stays_bucketAdmit _ _ _ _).bind fun committed => ?_
  split
  · exact dropped _ (by decide)
  · exact redirected
  refine (stays_bucketAdmit _ _ _ _).bind fun burst => ?_
  split
  · exact dropped _ (by decide)
  · exact dropped _ (by decide)
  refine stays_ask (q := .fairNodeConfig s.slot) rfl fun node? => ?_
  split
  · exact dropped _ (by decide)
  refine (stays_fairNodeAdmit _ _).bind fun admitted => ?_
  split
  · exact dropped _ (by decide)
  · exact dropped _ (by decide)
  · exact redirected

theorem stays_svcRlAdmit (looked : ∀ o ∈ allowOuters, s.outers o) (serviceId : UInt32)
    (len : UInt64) : Stays s (svcRlAdmit s.slot serviceId len) := by
  refine stays_outer (looked _ (by decide)) trivial fun _ inner => inner fun config? => ?_
  split
  · trivial
  split
  · exact stays_bucketAdmit _ _ _ _
  · trivial

theorem stays_admitSelected (counted : ∀ reason ∈ .rateLimitDrop :: fairReasons, s.reasons reason)
    (looked : ∀ o ∈ allowOuters, s.outers o) : Stays s (admitSelected frame pkt s.slot) := by
  refine (stays_svcRlAdmit looked _ _).bind fun admitted => ?_
  split
  · exact stays_recordDrop (counted _ (by decide))
  · exact stays_recordDrop (counted _ (by decide))
  · exact stays_fairAdmitStage (fun reason listed => counted reason (.tail _ listed)) looked

theorem stays_allowRuleStage (counted : ∀ reason ∈ allowReasons, s.reasons reason)
    (looked : ∀ o ∈ allowOuters, s.outers o) : Stays s (allowRuleStage frame pkt s.slot) := by
  have stopped (reason : DropReason) (listed : reason ∈ allowReasons) :
      Stays s (recordDrop { pkt with ruleIdx := ruleIdxNone } reason) :=
    stays_recordDrop (counted reason listed)
  unfold allowRuleStage selectRule
  rw [bind_assoc]
  refine stays_outer (looked _ (by decide)) (stopped .mapError (by decide)) fun _ inner => ?_
  dsimp only
  rw [bind_assoc]
  refine inner fun block? => ?_
  cases block? with
  | none => exact stopped .notAllowed (by decide)
  | some block =>
    dsimp only
    cases matchingRule block pkt with
    | none => exact stopped .notAllowed (by decide)
    | some i =>
      refine stays_admitSelected (fun reason listed => counted reason ?_) looked
      revert reason
      decide

theorem stays_hit {o : Outer} {key : o.Key} {find : Option MapId → PacketProg (Option Bool)}
    {f : Option Bool → PacketProg Verdict} (listed : s.outers o) (unmapped : find none = .ret none)
    (mapped : ∀ inner, find (some inner) =
      ask (.inner o inner key) >>= fun present => .ret (some present.isSome))
    (rest : ∀ hit?, Stays s (f hit?)) : Stays s ((ask (.outer o s.slot) >>= find) >>= f) := by
  refine Asks.bind (stays_outer listed ?_ fun id inner => ?_) rest
  · rw [unmapped]
    trivial
  · rw [mapped]
    exact inner fun _ => trivial

theorem stays_bloomFp {consulted : Bool} {stage : BloomFpStage} {p : PacketProg Verdict}
    (rest : Stays s p) :
    Stays s (do
      Prog.when (consulted = true) (ask (.bloomFpAdd stage))
      p) := by
  cases consulted with
  | true => exact stays_ask trivial fun _ => rest
  | false => exact rest

section Filters

variable (counted : ∀ reason ∈ denyReasons, s.reasons reason)
  (looked : ∀ o ∈ filterOuters, s.outers o)

include counted looked

theorem stays_allowed : Stays s (allowRuleStage frame pkt s.slot) :=
  stays_allowRuleStage (fun reason listed => counted reason (by simp [denyReasons, listed]))
    fun o listed => looked o (by simp [filterOuters, listed])

theorem stays_globalTrieStage (consulted : Bool) :
    Stays s (globalTrieStage frame pkt s.slot consulted) := by
  refine stays_hit (looked _ (by decide)) rfl (fun _ => rfl) fun hit? => ?_
  split
  · exact stays_recordDrop (counted _ (by decide))
  · exact stays_recordDrop (counted _ (by decide))
  · exact stays_bloomFp (stays_allowed counted looked)

theorem stays_globalDenyStage : Stays s (globalDenyStage frame pkt s.slot) := by
  have allowed : Stays s (allowRuleStage frame pkt s.slot) := stays_allowed counted looked
  refine stays_ask (q := .gblMeta s.slot) rfl fun meta? => ?_
  split
  · exact stays_recordDrop (counted _ (by decide))
  split
  · exact allowed
  split
  · exact stays_globalTrieStage counted looked false
  refine stays_hit (looked _ (by decide)) rfl (fun _ => rfl) fun maybe? => ?_
  split
  · exact stays_recordDrop (counted _ (by decide))
  · exact allowed
  · exact stays_globalTrieStage counted looked true

theorem stays_denyFilterStage : Stays s (denyFilterStage frame pkt s.slot) := by
  have dropped (reason : DropReason) (listed : reason ∈ denyReasons) :
      Stays s (recordDrop pkt reason) := stays_recordDrop (counted reason listed)
  have denied : Stays s (globalDenyStage frame pkt s.slot) := stays_globalDenyStage counted looked
  unfold denyFilterStage
  split
  · exact dropped _ (by decide)
  split
  · exact dropped _ (by decide)
  split
  · refine stays_outer (looked _ (by decide)) (dropped _ (by decide)) fun _ inner =>
      inner fun word? => ?_
    split
    · exact dropped _ (by decide)
    split
    · exact dropped _ (by decide)
    · exact denied
  · exact denied

end Filters

end Stages

/-! ## All of the stages -/

section Slot

variable {c : ConfigMaps} {slot : UInt32} {α : Type} {p : PacketProg α}

/-- Everything a slot holds. -/
def slotScope (c : ConfigMaps) (slot : UInt32) : Scope :=
  ⟨slot, fun o answer => answer = c.outer o slot, fun _ => True, fun _ => True⟩

theorem Stays.sees (at' : ActiveSlot c slot) (stays : Stays (slotScope c slot) p) : Sees c p := by
  refine Asks.mono stays (fun q allowed => ?_) fun q answer held => ?_
  · cases q with
    | activeConfig => exact allowed
    | outer o slot' => exact allowed.1 ▸ at'
    | fairNodeConfig slot' | gblMeta slot' => exact (show slot' = slot from allowed) ▸ at'
    | inner o id key => exact ⟨slot, at', allowed.1.symm⟩
    | _ => trivial
  · cases q with
    | outer o slot' =>
      obtain ⟨⟨active, read, rfl⟩, rfl⟩ := held
      obtain ⟨active', read', rfl⟩ := at'
      rw [read] at read'
      cases read'
      rfl
    | _ => trivial

variable (frame : Frame) (pkt : PktMeta) (service : ServiceVal)

theorem stays_ingressCapStage : Stays (slotScope c slot) (ingressCapStage frame pkt slot) := by
  have dropped (reason : DropReason) : Stays (slotScope c slot)
      (do return some (← recordDrop pkt reason) : PacketProg (Option Verdict)) :=
    (stays_recordDrop trivial).bind fun _ => trivial
  refine (stays_fairConfigLookup _ trivial).bind fun config? => ?_
  split
  · exact dropped _
  refine (stays_bucketAdmit _ _ _ _).bind fun admitted => ?_
  split
  · exact dropped _
  · exact dropped _
  · trivial

theorem stays_denied : Stays (slotScope c slot) (denyFilterStage frame pkt slot) :=
  stays_denyFilterStage (fun _ _ => trivial) fun _ _ => trivial

theorem stays_vipStage : Stays (slotScope c slot) (vipStage frame pkt slot) := by
  have asked (config : RateConfig) (len : UInt64) :
      Stays (slotScope c slot) (vipBucketAdmit config pkt len) := by
    unfold vipBucketAdmit
    split
    · exact stays_bucketAdmit _ _ _ _
    · trivial
  have config : Stays (slotScope c slot) (vipConfigLookup slot pkt.serviceId) :=
    stays_outer trivial trivial fun _ inner => inner (g := .ret) fun _ => trivial
  refine config.bind fun config? => ?_
  split
  · exact stays_recordDrop trivial
  split
  · refine (asked _ _).bind fun admitted => ?_
    split
    · exact stays_recordDrop trivial
    · exact stays_recordDrop trivial
    · exact stays_redirectOut trivial
  · exact stays_denied frame pkt

theorem stays_whitelistTrieStage (consulted : Bool) :
    Stays (slotScope c slot) (whitelistTrieStage frame pkt slot consulted) := by
  refine stays_hit trivial rfl (fun _ => rfl) fun hit? => ?_
  split
  · exact stays_recordDrop trivial
  · exact stays_vipStage frame pkt
  · exact stays_bloomFp (stays_denied frame pkt)

theorem stays_whitelistStage :
    Stays (slotScope c slot) (whitelistStage frame pkt slot service) := by
  unfold whitelistStage
  split
  · exact stays_denied frame pkt
  split
  · exact stays_whitelistTrieStage frame pkt false
  refine stays_hit trivial rfl (fun _ => rfl) fun maybe? => ?_
  split
  · exact stays_recordDrop trivial
  · exact stays_denied frame pkt
  · exact stays_whitelistTrieStage frame pkt true

theorem stays_serviceStages :
    Stays (slotScope c slot) (serviceStages frame pkt slot service) := by
  refine (stays_ingressCapStage frame pkt).bind fun stop => ?_
  split
  · trivial
  · exact stays_whitelistStage frame pkt service

end Slot

/-! ## The program -/

theorem serviceLookupRedirect_readsOnce (frame : Frame) (pkt : PktMeta) :
    ReadsOnce (serviceLookupRedirect frame pkt) := by
  refine .read fun c => ?_
  cases active : c.activeConfig with
  | none => exact (recordDrop_plain _ _).sees c
  | some config =>
    have at' : ActiveSlot c config.activeSlot := ⟨config, active, rfl⟩
    refine Stays.sees at' (stays_outer trivial (stays_recordDrop trivial) fun _ inner => ?_)
    refine inner fun service? => ?_
    split
    · exact stays_recordDrop trivial
    dsimp only
    split
    · exact stays_recordDrop trivial
    · exact stays_serviceStages frame _ _

/-- The packet program reads the active slot once, before it looks at anything else. -/
theorem xdpGateway_readsOnce (frame : Frame) : ReadsOnce (xdpGateway frame) := by
  have dropped (pkt : PktMeta) (reason : DropReason) :=
    ReadsOnce.of_plain (recordDrop_plain pkt reason)
  have bypass : PlainProg nodeControlBypass := by
    refine asks_ask trivial fun control? => ?_
    split <;> trivial
  have ipv4 (cur : HdrCursor) (pkt : PktMeta) : ReadsOnce (ipv4Stage frame cur pkt) := by
    unfold ipv4Stage
    dsimp only
    split
    · exact dropped _ _
    split
    · exact dropped _ _
    split
    · exact dropped _ _
    refine .of_plain_bind bypass fun bypassed => ?_
    split
    · exact .of_plain (asks_ask trivial fun _ => asks_ask trivial fun _ => trivial)
    · exact serviceLookupRedirect_readsOnce frame _
  unfold xdpGateway
  dsimp only
  split
  · exact dropped _ _
  split
  · exact dropped _ _
  split
  · exact .of_plain (redirectOut_plain frame _)
  split
  · exact ipv4 _ _
  · exact dropped _ _

end ScrubbingGateway.DataPlane
