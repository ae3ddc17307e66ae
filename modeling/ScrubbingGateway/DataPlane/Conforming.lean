import ScrubbingGateway.DataPlane.RefillRange
import ScrubbingGateway.Lib.FluidBucket

/-!
# Conforming senders

A sender that conforms to the fluid bucket of a limit finds its tokens in the bucket of the packet
program. With one dimension the rounding of the refill and the cap of a second cost nothing. With two
dimensions the stamp is shared: it moves by the longer of the two steps, and the dimension with the
shorter one loses the rest of its time.
-/

namespace ScrubbingGateway.DataPlane

open TokenBucket

/-! ## One refill in numbers -/

section Grant

variable {tokens rate elapsed period capacity grant : Nat}

/-- At most one token is earned in a nanosecond, so the stamp moves by exactly what the grant took. -/
theorem grantAdvance_eq (rate_pos : 0 < rate) (slow : rate ≤ period)
    (earned : grant * period ≤ elapsed * rate) :
    grantAdvance grant rate elapsed period = grant * period / rate := by
  unfold grantAdvance
  split
  next none =>
    rw [none, Nat.zero_mul, Nat.zero_div]
  next some_ =>
    have least : 1 ≤ grant * period / rate := by
      rw [Nat.one_le_div_iff rate_pos]
      exact slow.trans (Nat.le_mul_of_pos_left _ (Nat.pos_of_ne_zero some_))
    have most : grant * period / rate ≤ elapsed :=
      Nat.div_le_of_le_mul (earned.trans_eq (Nat.mul_comm _ _))
    omega

theorem credit_lt_of_grant (period_pos : 0 < period)
    (granted : grant = min (elapsed * rate / period) (capacity - tokens))
    (open_ : tokens + grant < capacity) :
    tokens * period + elapsed * rate < (tokens + grant + 1) * period := by
  have all : grant = elapsed * rate / period := by omega
  have below := Nat.lt_mul_div_succ (elapsed * rate) period_pos
  rw [← all, Nat.mul_comm period] at below
  calc tokens * period + elapsed * rate
      < tokens * period + (grant + 1) * period := Nat.add_lt_add_left below _
    _ = (tokens + grant + 1) * period := by ring

end Grant

/-! ## Rates and their fluid buckets -/

/-- The rates for which the promise is made: at least a token per CPU and second, at most a token per
nanosecond on each CPU, and no more than the fairness limit. -/
structure ModerateRate (rate : UInt64) (ncpus : UInt32) : Prop where
  cpus : 1 ≤ ncpus.toNat
  least : ncpus.toNat ≤ rate.toNat
  most : rate.toNat ≤ min 16000000000 (1000000000 * ncpus.toNat)

instance (rate : UInt64) (ncpus : UInt32) : Decidable (ModerateRate rate ncpus) :=
  decidable_of_iff (1 ≤ ncpus.toNat ∧ ncpus.toNat ≤ rate.toNat ∧
      rate.toNat ≤ min 16000000000 (1000000000 * ncpus.toNat))
    ⟨fun ⟨cpus, least, most⟩ => ⟨cpus, least, most⟩, fun h => ⟨h.cpus, h.least, h.most⟩⟩

/-- The fluid bucket of a rate on one of the CPUs. -/
def fluidParams (rate : UInt64) (ncpus : UInt32) : Params where
  rate := rate.toNat
  period := 1000000000 * ncpus.toNat
  capacity := rate.toNat / ncpus.toNat

/-- The fluid bucket of a dimension. -/
abbrev Limiter.fluid (l : Limiter) (d : Dim) (ncpus : UInt32) : Params :=
  fluidParams (l.rate d) ncpus

namespace ModerateRate

variable {rate : UInt64} {ncpus : UInt32}

variable (moderate : ModerateRate rate ncpus)
include moderate

theorem rate_pos : 0 < rate.toNat :=
  moderate.cpus.trans moderate.least

theorem inRange : RateInRange rate := by
  have := moderate.most
  rw [RateInRange]
  omega

theorem burst : (rlBurst rate ncpus false).toNat = (fluidParams rate ncpus).capacity := by
  have nonzero : rate ≠ 0 := by
    rintro rfl
    exact absurd moderate.rate_pos (by decide)
  rw [rlBurst_toNat nonzero]
  exact Nat.max_eq_right ((Nat.one_le_div_iff moderate.cpus).mpr moderate.least)

/-- What is granted at a moderate rate, without a word that could wrap around. -/
theorem grantedTokens_eq (tokens : UInt64) {elapsed : UInt64} (capped : elapsed ≤ nsecPerSec) :
    grantedTokens tokens rate (rlBurst rate ncpus false) elapsed ncpus =
      min (elapsed.toNat * rate.toNat / (fluidParams rate ncpus).period)
        ((fluidParams rate ncpus).capacity - tokens.toNat) := by
  have exact_ : elapsed.toNat * rate.toNat < 2 ^ 64 := moderate.inRange.exact_ capped
  rw [grantedTokens, earnedTokens, Nat.mod_eq_of_lt exact_, moderate.burst]
  rfl

end ModerateRate

/-! ## A refill keeps what is owed -/

def Dim.other : Dim → Dim
  | packets => bytes
  | bytes => packets

/-- The refill of a bucket does not cost a dimension any time it is owed: the other dimension does not
count, is full, or has not earned a token; or this one fills up, or earns whole tokens. -/
def Undisturbed (l : Limiter) (ncpus : UInt32) (bucket : RlBucket) (now : UInt64) (d : Dim) : Prop :=
  let elapsed := min (now.toNat - bucket.lastNs.toNat) 1000000000
  let p := l.fluid d ncpus
  l.counts d.other = false ∨
    rlBurst (l.rate d.other) ncpus false ≤ bucket.tokens d.other ∨
    elapsed * (l.rate d.other).toNat < p.period ∨
    p.capacity * p.period ≤ (bucket.tokens d).toNat * p.period + elapsed * (l.rate d).toNat ∨
    p.period ∣ elapsed * (l.rate d).toNat

instance (l : Limiter) (ncpus : UInt32) (bucket : RlBucket) (now : UInt64) (d : Dim) :
    Decidable (Undisturbed l ncpus bucket now d) :=
  inferInstanceAs (Decidable (_ ∨ _ ∨ _ ∨ _ ∨ _))

section Refill

variable {l : Limiter} {d : Dim} {ncpus : UInt32} {bucket : RlBucket} {now : UInt64}

theorem dimStep_advance (counted : l.counts d = true) :
    (dimStep l ncpus bucket now d).2.toNat =
      grantAdvance (grantedTokens (bucket.tokens d) (l.rate d) (rlBurst (l.rate d) ncpus false)
        (Limiter.elapsed bucket now) ncpus) (l.rate d).toNat (Limiter.elapsed bucket now).toNat
        (refillPeriod ncpus) := by
  rw [dimStep, Limiter.refillDim, counted, if_pos rfl]
  exact (rlRefillDim_spec _ _ _ _ _).2

theorem dimStep_idle
    (idle : l.counts d = false ∨ rlBurst (l.rate d) ncpus false ≤ bucket.tokens d ∨
      (Limiter.elapsed bucket now).toNat * (l.rate d).toNat < refillPeriod ncpus) :
    (dimStep l ncpus bucket now d).2.toNat = 0 := by
  cases counted : l.counts d with
  | false =>
    rw [dimStep, Limiter.refillDim, counted]
    rfl
  | true =>
    -- each of the three reasons makes one side of the minimum zero
    have nothing : grantedTokens (bucket.tokens d) (l.rate d) (rlBurst (l.rate d) ncpus false)
        (Limiter.elapsed bucket now) ncpus = 0 := by
      rw [grantedTokens, Nat.min_eq_zero_iff]
      rcases idle with off | full | early
      · rw [counted] at off
        cases off
      · exact Or.inr (Nat.sub_eq_zero_of_le (UInt64.le_iff_toNat_le.mp full))
      · exact Or.inl (Nat.div_eq_of_lt ((Nat.mod_le _ _).trans_lt early))
    rw [dimStep_advance counted, nothing]
    rfl

theorem refill_lastNs_toNat (ncpus : UInt32) (after : bucket.lastNs ≤ now)
    (later : ¬ now ≤ bucket.lastNs) (d : Dim) :
    (l.refill bucket now ncpus).lastNs.toNat = bucket.lastNs.toNat +
      max (dimStep l ncpus bucket now d).2.toNat (dimStep l ncpus bucket now d.other).2.toNat := by
  rw [refill_lastNs after later]
  cases d with
  | packets => rfl
  | bytes => exact congrArg _ (Nat.max_comm _ _)

/-- The time the stamp moves is paid for by the grant, unless the dimension fills up. -/
theorem advance_paid (counted : l.counts d = true) (moderate : ModerateRate (l.rate d) ncpus)
    (after : bucket.lastNs ≤ now) (undisturbed : Undisturbed l ncpus bucket now d) {grant : Nat}
    (granted : grant = min ((Limiter.elapsed bucket now).toNat * (l.rate d).toNat /
        (l.fluid d ncpus).period)
      ((l.fluid d ncpus).capacity - (bucket.tokens d).toNat))
    (open_ : (bucket.tokens d).toNat + grant < (l.fluid d ncpus).capacity) :
    max (dimStep l ncpus bucket now d).2.toNat (dimStep l ncpus bucket now d.other).2.toNat *
        (l.rate d).toNat ≤ grant * (l.fluid d ncpus).period := by
  have period_pos : 0 < (l.fluid d ncpus).period :=
    Nat.mul_pos (by decide) moderate.cpus
  -- the bucket stays open, so the room did not cut the grant
  have all : grant = (Limiter.elapsed bucket now).toNat * (l.rate d).toNat /
      (l.fluid d ncpus).period := by omega
  have earned : grant * (l.fluid d ncpus).period ≤
      (Limiter.elapsed bucket now).toNat * (l.rate d).toNat := by
    rw [all]
    exact Nat.div_mul_le_self _ _
  -- its own step
  have own : (dimStep l ncpus bucket now d).2.toNat * (l.rate d).toNat ≤
      grant * (l.fluid d ncpus).period := by
    have slow : (l.rate d).toNat ≤ (l.fluid d ncpus).period :=
      moderate.most.trans (Nat.min_le_right _ _)
    rw [dimStep_advance counted, moderate.grantedTokens_eq _ (capped_elapsed _ _), ← granted]
    change grantAdvance grant _ _ (l.fluid d ncpus).period * _ ≤ _
    rw [grantAdvance_eq moderate.rate_pos slow earned]
    exact Nat.div_mul_le_self _ _
  -- a refill that moves the stamp for this dimension only
  have idle (none : (dimStep l ncpus bucket now d.other).2.toNat = 0) :
      max (dimStep l ncpus bucket now d).2.toNat (dimStep l ncpus bucket now d.other).2.toNat *
        (l.rate d).toNat ≤ grant * (l.fluid d ncpus).period := by
    rw [none, Nat.max_zero]
    exact own
  -- the other dimension: idle in the first three cases, and harmless in the last two
  rw [Undisturbed, ← toNat_elapsed after] at undisturbed
  rcases undisturbed with off | full | early | fills | whole
  · exact idle (dimStep_idle (Or.inl off))
  · exact idle (dimStep_idle (Or.inr (Or.inl full)))
  · exact idle (dimStep_idle (Or.inr (Or.inr early)))
  · -- it would be full
    have short : ((l.fluid d ncpus).capacity - (bucket.tokens d).toNat) *
        (l.fluid d ncpus).period ≤
          (Limiter.elapsed bucket now).toNat * (l.rate d).toNat := by
      rw [Nat.sub_mul]
      omega
    have := (Nat.le_div_iff_mul_le period_pos).mpr short
    omega
  · -- the whole elapsed time is paid for
    have paid : grant * (l.fluid d ncpus).period =
        (Limiter.elapsed bucket now).toNat * (l.rate d).toNat := by
      rw [all]
      exact Nat.div_mul_cancel whole
    have within (d : Dim) : (dimStep l ncpus bucket now d).2.toNat ≤
        (Limiter.elapsed bucket now).toNat := refillDim_advance_le _ _ _ _ _
    rw [paid]
    exact Nat.mul_le_mul_right _ (Nat.max_le.mpr ⟨within d, within d.other⟩)

theorem elapsed_of_open (after : bucket.lastNs ≤ now) {grant : Nat}
    (granted : grant = min ((Limiter.elapsed bucket now).toNat * (l.rate d).toNat /
        (l.fluid d ncpus).period)
      ((l.fluid d ncpus).capacity - (bucket.tokens d).toNat))
    (open_ : (bucket.tokens d).toNat + grant < (l.fluid d ncpus).capacity) :
    (Limiter.elapsed bucket now).toNat = now.toNat - bucket.lastNs.toNat := by
  have elapsed_eq := toNat_elapsed after
  by_cases long : 1000000000 ≤ now.toNat - bucket.lastNs.toNat
  · -- the cap of a second earns the whole capacity, which would fill the bucket
    have second : (Limiter.elapsed bucket now).toNat = 1000000000 := by omega
    have whole : 1000000000 * (l.rate d).toNat / (l.fluid d ncpus).period =
        (l.fluid d ncpus).capacity := Nat.mul_div_mul_left _ _ (by decide)
    rw [second, whole] at granted
    omega
  · omega

theorem refill_keeps (counted : l.counts d = true) (moderate : ModerateRate (l.rate d) ncpus)
    (filled : Filled l d ncpus bucket now) (undisturbed : Undisturbed l ncpus bucket now d) :
    TokenBucket.Keeps (l.fluid d ncpus) (bucket.view d) now.toNat
      ((l.refill bucket now ncpus).view d) := by
  have period_pos : 0 < (l.fluid d ncpus).period :=
    Nat.mul_pos (by decide) moderate.cpus
  have after := filled.lastNs_le
  by_cases same : now ≤ bucket.lastNs
  · -- no time has passed
    have stamp : now.toNat - bucket.lastNs.toNat = 0 :=
      Nat.sub_eq_zero_of_le (UInt64.le_iff_toNat_le.mp same)
    rw [Limiter.refill, if_pos same]
    constructor
    · exact UInt64.le_iff_toNat_le.mp after
    · exact Nat.min_le_right _ _
    · right
      simp only [credit, RlBucket.view, stamp, Nat.zero_mul, Nat.add_zero]
      exact Nat.mul_lt_mul_of_pos_right (Nat.lt_succ_self _) period_pos
  · obtain ⟨grant, granted⟩ : ∃ grant, grant = min ((Limiter.elapsed bucket now).toNat *
        (l.rate d).toNat / (l.fluid d ncpus).period)
      ((l.fluid d ncpus).capacity - (bucket.tokens d).toNat) := ⟨_, rfl⟩
    have tokens_le : (bucket.tokens d).toNat ≤ (l.fluid d ncpus).capacity := by
      rw [← moderate.burst]
      exact UInt64.le_iff_toNat_le.mp filled.tokens_le
    have tokens_eq : ((l.refill bucket now ncpus).tokens d).toNat =
        (bucket.tokens d).toNat + grant := by
      rw [refill_tokens_toNat counted ncpus same,
        moderate.grantedTokens_eq _ (capped_elapsed _ _), ← granted]
    have moved := refill_lastNs_toNat (l := l) ncpus after same d
    have bounded := (refill_lastNs_bounds (a := ⟨now, 0⟩) l d ncpus after same).2
    -- a full bucket owes nothing more; an open one was granted all it had earned
    by_cases full : (bucket.tokens d).toNat + grant = (l.fluid d ncpus).capacity
    · constructor
      · exact bounded
      · refine (Nat.min_le_left _ _).trans ?_
        simp only [credit, RlBucket.view, tokens_eq, full]
        exact Nat.le_add_right _ _
      · exact Or.inl (tokens_eq.trans full)
    · have open_ : (bucket.tokens d).toNat + grant < (l.fluid d ncpus).capacity := by
        omega
      have paid := advance_paid counted moderate after undisturbed granted open_
      have uncapped := elapsed_of_open after granted open_
      rw [uncapped] at granted
      constructor
      · exact bounded
      · rw [moved] at bounded
        have view_eq : (l.refill bucket now ncpus).view d = ⟨_, _⟩ :=
          congrArg₂ Bucket.mk tokens_eq moved
        rw [view_eq]
        exact (Nat.min_le_right _ _).trans (credit_le_of_paid (b := bucket.view d) paid bounded)
      · right
        simp only [credit, RlBucket.view, tokens_eq]
        exact credit_lt_of_grant period_pos granted open_

end Refill

/-! ## Runs of packets -/

/-- What a packet asks for in a dimension. -/
def Dim.event (d : Dim) (a : Arrival) : Event := ⟨a.now.toNat, (d.cost a).toNat⟩

/-- A sender conforms to the fluid bucket of every dimension that counts. -/
def Conforming (l : Limiter) (ncpus : UInt32) (fluid : Dim → Fluid) (arrivals : List Arrival) :
    Prop :=
  ∀ d, l.counts d = true →
    Fluid.Conforms (l.fluid d ncpus) (fluid d) (arrivals.map d.event)

/-- A packet that finds a bucket of its version disturbs no dimension. -/
def UndisturbedStep (l : Limiter) (ncpus : UInt32) (bucket? : Option RlBucket) (a : Arrival) :
    Prop :=
  ∀ bucket, bucket? = some bucket → bucket.cfgVersion = l.version →
    ∀ d, l.counts d = true → Undisturbed l ncpus bucket a.now d

def AllUndisturbed (l : Limiter) (ncpus : UInt32) (start : Option RlBucket)
    (arrivals : List Arrival) : Prop :=
  Transition.RunAll (serveStep l ncpus false)
    (fun bucket? a _ => UndisturbedStep l ncpus bucket? a) start arrivals

/-- Every packet of a run is admitted. -/
def AllAdmitted (l : Limiter) (ncpus : UInt32) (start : Option RlBucket)
    (arrivals : List Arrival) : Prop :=
  Transition.RunAll (serveStep l ncpus false)
    (fun bucket? a _ => (l.serve ncpus false bucket? a).1 = true) start arrivals

section Runs

variable {l : Limiter} {ncpus : UInt32} {fluid : Dim → Fluid} {bucket ready : RlBucket}
  {a : Arrival}

theorem refill_cfgVersion {now : UInt64} :
    (l.refill bucket now ncpus).cfgVersion = bucket.cfgVersion := by
  unfold Limiter.refill
  split <;> rfl

theorem consume_admits_iff :
    (l.consume ready a.pktLen).1 = true ↔
      ∀ d, l.counts d = true → d.cost a ≤ ready.tokens d := by
  have both : (l.consume ready a.pktLen).1 = true ↔
      (l.ppsSet = true → 1 ≤ ready.ppsTokens) ∧ (l.bpsSet = true → a.pktLen ≤ ready.bpsTokens) := by
    unfold Limiter.consume rlBucketConsumeRaw
    cases l.ppsSet <;> cases l.bpsSet <;> split <;> simp_all
  rw [both]
  constructor
  · rintro ⟨packets, bytes⟩ d counted
    cases d with
    | packets => exact packets counted
    | bytes => exact bytes counted
  · exact fun enough => ⟨enough .packets, enough .bytes⟩

/-- The bucket a packet is served from has kept what the fluid buckets hold. -/
structure ReadyFor (l : Limiter) (ncpus : UInt32) (fluid : Dim → Fluid) (start : Option RlBucket)
    (a : Arrival) (ready : RlBucket) : Prop where
  served : l.serve ncpus false start a = l.consume ready a.pktLen
  version : ready.cfgVersion = l.version
  filled : ∀ d, l.counts d = true → Filled l d ncpus ready a.now
  owed : ∀ d, l.counts d = true → ∃ b, Backed (l.fluid d ncpus) (fluid d) b ∧
    (fluid d).time ≤ a.now.toNat ∧
    TokenBucket.Keeps (l.fluid d ncpus) b a.now.toNat (ready.view d)

variable {start : Option RlBucket}
  (rates : ∀ d, l.counts d = true → ModerateRate (l.rate d) ncpus)
include rates

section

variable (held : ReadyFor l ncpus fluid start a ready)
include held

section

variable (spends : ∀ d, l.counts d = true →
    (d.event a).spent * (l.fluid d ncpus).period ≤ (fluid d).levelAt (l.fluid d ncpus) a.now.toNat)
include spends

theorem ReadyFor.admits :
    (l.serve ncpus false start a).1 = true ∧ ∀ d, l.counts d = true →
      Backed (l.fluid d ncpus) ((fluid d).spend (l.fluid d ncpus) (d.event a))
        ((l.serve ncpus false start a).2.view d) := by
  rw [held.served]
  -- the fluid level bounds the cost, and the bucket has kept the level
  have enough (d : Dim) (counted : l.counts d = true) : (d.event a).spent ≤ (ready.view d).tokens := by
    obtain ⟨b, backed, later, keeps⟩ := held.owed d counted
    exact Keeps.affords (e := d.event a) keeps backed later
      (Nat.mul_pos (by decide) (rates d counted).cpus) (spends d counted)
  have admitted : (l.consume ready a.pktLen).1 = true :=
    consume_admits_iff.mpr fun d counted => UInt64.le_iff_toNat_le.mpr (enough d counted)
  refine ⟨admitted, fun d counted => ?_⟩
  obtain ⟨b, backed, later, keeps⟩ := held.owed d counted
  -- every dimension pays the cost of the packet, and no stamp moves
  have taken := consume_tokens (l := l) ready a counted
  rw [if_pos admitted] at taken
  have view_eq : (l.consume ready a.pktLen).2.view d =
      ⟨(ready.view d).tokens - (d.event a).spent, (ready.view d).stamp⟩ := by
    have tokens_eq : ((l.consume ready a.pktLen).2.tokens d).toNat =
        (ready.tokens d).toNat - (d.cost a).toNat := by omega
    exact congrArg₂ Bucket.mk tokens_eq (congrArg UInt64.toNat consume_lastNs)
  rw [view_eq]
  exact Keeps.backed (e := d.event a) keeps backed later (enough d counted)

/-- The refill for the next packet keeps what the fluid buckets hold after this one. -/
theorem ReadyFor.next {next : Arrival} (le : a.now ≤ next.now)
    (undisturbed : UndisturbedStep l ncpus (some (l.serve ncpus false start a).2) next) :
    ReadyFor l ncpus (fun d => (fluid d).spend (l.fluid d ncpus) (d.event a))
      (some (l.serve ncpus false start a).2) next
      (l.refill (l.serve ncpus false start a).2 next.now ncpus) := by
  obtain ⟨_, backed⟩ := held.admits rates spends
  have version : (l.serve ncpus false start a).2.cfgVersion = l.version := by
    rw [held.served, consume_cfgVersion, held.version]
  have filled (d : Dim) (counted : l.counts d = true) :
      Filled l d ncpus (l.serve ncpus false start a).2 next.now := by
    rw [held.served]
    exact ((held.filled d counted).consume counted).later le
  generalize (l.serve ncpus false start a).2 = bucket at *
  constructor
  · -- the version matches, so the packet refills and does not reset
    rw [Limiter.serve, Limiter.ready, if_neg (not_not.mpr version), if_neg (by decide)]
  · exact refill_cfgVersion.trans version
  · exact fun d counted => (refill_credit counted (filled d counted)).1
  · exact fun d counted => ⟨_, backed d counted, UInt64.le_iff_toNat_le.mp le,
      refill_keeps counted (rates d counted) (filled d counted)
        (undisturbed bucket rfl version d counted)⟩

end

theorem ReadyFor.allAdmitted {rest : List Arrival} (inOrder : InOrder (a :: rest))
    (conforming : Conforming l ncpus fluid (a :: rest))
    (undisturbed : AllUndisturbed l ncpus start (a :: rest)) :
    AllAdmitted l ncpus start (a :: rest) := by
  induction rest generalizing a start fluid ready with
  | nil =>
    rintro _ ⟨⟩
    exact ⟨(held.admits rates fun d counted => (conforming d counted).1).1, trivial⟩
  | cons b rest ih =>
    obtain ⟨first_le, inOrder⟩ := List.pairwise_cons.mp inOrder
    obtain ⟨_, undisturbed⟩ := undisturbed _ rfl
    have spends (d : Dim) (counted : l.counts d = true) := (conforming d counted).1
    have heldNext := held.next rates spends (first_le b List.mem_cons_self) (undisturbed _ rfl).1
    rintro _ ⟨⟩
    exact ⟨(held.admits rates spends).1,
      ih heldNext inOrder (fun d counted => (conforming d counted).2) undisturbed⟩

end

/-- A sender that conforms to every limit from the reset of the bucket on is admitted, as long as no
packet disturbs a dimension. -/
theorem conforming_admitted_of_undisturbed
    (stale : ∀ bucket, start = some bucket → bucket.cfgVersion ≠ l.version) {first : Arrival}
    {rest : List Arrival} (inOrder : InOrder (first :: rest))
    (conforming : Conforming l ncpus
      (fun d => Fluid.full (l.fluid d ncpus) first.now.toNat) (first :: rest))
    (undisturbed : AllUndisturbed l ncpus start (first :: rest)) :
    AllAdmitted l ncpus start (first :: rest) := by
  -- a missing or stale bucket is reset by the first packet, hence full
  have held : ReadyFor l ncpus (fun d => Fluid.full (l.fluid d ncpus) first.now.toNat) start first
      (l.reset first.now ncpus false) := by
    refine ⟨?_, rfl, fun d _ => reset_filled l d ncpus first.now, fun d counted => ?_⟩
    · cases start with
      | none => rfl
      | some bucket => rw [Limiter.serve, Limiter.ready, if_pos (stale bucket rfl)]
    · have full : ((l.reset first.now ncpus false).view d).tokens = (l.fluid d ncpus).capacity := by
        rw [← (rates d counted).burst]
        cases d <;> rfl
      exact ⟨_, Backed.full full le_rfl, le_rfl, le_rfl, Nat.min_le_right _ _, Or.inl full⟩
  exact held.allAdmitted rates inOrder conforming undisturbed

end Runs

/-- The committed, burst and node buckets, which count bytes only, admit every packet of a sender that
conforms to the fluid bucket of the rate from their reset on. -/
theorem conforming_bytes_admitted (version : UInt32) (rate : UInt64) (ncpus : UInt32)
    (moderate : ModerateRate rate ncpus) (start : Option RlBucket)
    (stale : ∀ bucket, start = some bucket → bucket.cfgVersion ≠ version) (first : Arrival)
    (rest : List Arrival) (inOrder : InOrder (first :: rest))
    (conforms : Fluid.Conforms (fluidParams rate ncpus)
      (Fluid.full (fluidParams rate ncpus) first.now.toNat)
      ((first :: rest).map Dim.bytes.event)) :
    AllAdmitted (fairBpsLimiter version rate) ncpus start (first :: rest) := by
  -- packets do not count, so they cannot move the stamp
  have alone (bucket? : Option RlBucket) (a : Arrival) :
      UndisturbedStep (fairBpsLimiter version rate) ncpus bucket? a := by
    intro bucket _ _ d counted
    cases d with
    | packets => cases counted
    | bytes => exact Or.inl rfl
  apply conforming_admitted_of_undisturbed (l := fairBpsLimiter version rate)
  · intro d counted
    cases d with
    | packets => cases counted
    | bytes => exact moderate
  · exact stale
  · exact inOrder
  · intro d counted
    cases d with
    | packets => cases counted
    | bytes => exact conforms
  · exact Transition.RunAll.of_always (fun bucket? a _ => alone bucket? a) start _

/-- A committed rate of 1000 bytes per second on two CPUs, used to the last byte. -/
def steadySender : List Arrival :=
  [⟨5000000000, 500⟩, ⟨5700000000, 300⟩, ⟨5900000000, 150⟩, ⟨9000000000, 500⟩]

theorem steadySender_admitted :
    AllAdmitted (fairCommittedLimiter ⟨1, 1000, 0, 0, 0⟩) 2 none steadySender :=
  conforming_bytes_admitted 1 1000 2 (by decide) none nofun ⟨5000000000, 500⟩ _
    (by simp [InOrder]) (by decide)

/-- Two limits do not interfere as long as no refill takes time away from one of them. -/
theorem conforming_pair_admitted (l : Limiter) (ncpus : UInt32) (pps : ModerateRate l.pps ncpus)
    (bps : ModerateRate l.bps ncpus) (start : Option RlBucket)
    (stale : ∀ bucket, start = some bucket → bucket.cfgVersion ≠ l.version) (first : Arrival)
    (rest : List Arrival) (inOrder : InOrder (first :: rest))
    (packets : Fluid.Conforms (fluidParams l.pps ncpus)
      (Fluid.full (fluidParams l.pps ncpus) first.now.toNat)
      ((first :: rest).map Dim.packets.event))
    (bytes : Fluid.Conforms (fluidParams l.bps ncpus)
      (Fluid.full (fluidParams l.bps ncpus) first.now.toNat)
      ((first :: rest).map Dim.bytes.event))
    (undisturbed : AllUndisturbed l ncpus start (first :: rest)) :
    AllAdmitted l ncpus start (first :: rest) := by
  apply conforming_admitted_of_undisturbed _ stale inOrder _ undisturbed
  · intro d _
    cases d with
    | packets => exact pps
    | bytes => exact bps
  · intro d _
    cases d with
    | packets => exact packets
    | bytes => exact bytes

/-- Two packets and 3000 bytes a second. -/
def smallCap : Limiter := fairCapLimiter ⟨1, 0, 0, 3000, 2⟩

/-- The third packet comes when both dimensions are full again. -/
def pausingSender : List Arrival := [⟨0, 1500⟩, ⟨0, 1500⟩, ⟨1000000000, 1000⟩]

theorem pausingSender_admitted : AllAdmitted smallCap 1 none pausingSender := by
  apply conforming_pair_admitted smallCap 1 (by decide) (by decide) none (by simp) ⟨0, 1500⟩ _
    (by simp [InOrder]) (by decide) (by decide)
  -- the second packet finds no time passed
  intro next stepped
  cases stepped
  refine ⟨by simp [UndisturbedStep], fun next stepped => ?_⟩
  cases stepped
  constructor
  · rintro bucket ⟨⟩ _ d _
    cases d <;> decide
  -- the third one fills both dimensions
  intro next stepped
  cases stepped
  refine ⟨?_, trivial⟩
  rintro bucket ⟨⟩ _ d _
  cases d <;> decide

/-- After 0.95 seconds 1.9 packets and 2850 bytes have been earned. One packet is granted, and the
stamp moves by the 0.95 seconds of the bytes instead of the half second of the packet. -/
def hastySender : List Arrival :=
  [⟨0, 1500⟩, ⟨0, 1500⟩, ⟨950000000, 1000⟩, ⟨1000000000, 1000⟩]

theorem hastySender_refused :
    ModerateRate smallCap.pps 1 ∧ ModerateRate smallCap.bps 1 ∧ InOrder hastySender ∧
      Fluid.Conforms (fluidParams smallCap.pps 1) (Fluid.full (fluidParams smallCap.pps 1) 0)
        (hastySender.map Dim.packets.event) ∧
      Fluid.Conforms (fluidParams smallCap.bps 1) (Fluid.full (fluidParams smallCap.bps 1) 0)
        (hastySender.map Dim.bytes.event) ∧
      ¬ AllAdmitted smallCap 1 none hastySender := by
  refine ⟨by decide, by decide, by simp [InOrder, hastySender], by decide, by decide, ?_⟩
  unfold AllAdmitted
  decide

end ScrubbingGateway.DataPlane
