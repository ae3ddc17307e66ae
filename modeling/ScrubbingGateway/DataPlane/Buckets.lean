import ScrubbingGateway.DataPlane.Records

/-!
# Token buckets of the packet program

The arithmetic of `rules.h`, in 64 bits. The six kinds of bucket (service rate limit, VIP ceiling,
ingress cap, committed, burst, node) reset, refill and consume in the same way; a `Limiter` says
which of the two dimensions count and at which rates.
-/

namespace ScrubbingGateway.DataPlane

def nsecPerSec : UInt64 := 1000000000

structure RlBucket where
  cfgVersion : UInt32
  lastNs : UInt64
  ppsTokens : UInt64
  bpsTokens : UInt64
deriving DecidableEq, Repr

def rlBurst (rate : UInt64) (ncpus : UInt32) (testNoRefill : Bool) : UInt64 :=
  if rate = 0 then 0
  else if testNoRefill then rate
  else if rate / ncpus.toUInt64 = 0 then 1
  else rate / ncpus.toUInt64

/-- The tokens after the refill of one dimension, and by how much the time stamp may advance. -/
def rlRefillDim (tokens rate burst elapsed : UInt64) (ncpus : UInt32) : UInt64 × UInt64 :=
  let denom := nsecPerSec * ncpus.toUInt64
  if rate = 0 ∨ tokens ≥ burst then (tokens, 0)
  else
    let earned := elapsed * rate / denom
    if earned = 0 then (tokens, 0)
    else
      let space := burst - tokens
      let grant := if earned > space then space else earned
      let advance := grant * denom / rate
      let advance := if advance = 0 then 1 else advance
      (tokens + grant, if advance > elapsed then elapsed else advance)

def rlBucketConsumeRaw (bucket : RlBucket) (ppsSet bpsSet : Bool) (pktLen : UInt64) :
    Bool × RlBucket :=
  if (!ppsSet || bucket.ppsTokens ≥ 1) && (!bpsSet || bucket.bpsTokens ≥ pktLen) then
    (true, { bucket with
      ppsTokens := if ppsSet then bucket.ppsTokens - 1 else bucket.ppsTokens
      bpsTokens := if bpsSet then bucket.bpsTokens - pktLen else bucket.bpsTokens })
  else (false, bucket)

/-- What a bucket enforces: the config version it was filled for, which dimensions count, and their
rates. -/
structure Limiter where
  version : UInt32
  ppsSet : Bool
  bpsSet : Bool
  pps : UInt64
  bps : UInt64
deriving DecidableEq, Repr

namespace Limiter

def reset (l : Limiter) (now : UInt64) (ncpus : UInt32) (testNoRefill : Bool) : RlBucket :=
  { cfgVersion := l.version, lastNs := now, ppsTokens := rlBurst l.pps ncpus testNoRefill,
    bpsTokens := rlBurst l.bps ncpus testNoRefill }

/-- The time a refill counts, at most a second. -/
def elapsed (bucket : RlBucket) (now : UInt64) : UInt64 :=
  if now - bucket.lastNs > nsecPerSec then nsecPerSec else now - bucket.lastNs

/-- The refill of a dimension that counts; another one keeps its tokens. -/
def refillDim (counts : Bool) (tokens rate elapsed : UInt64) (ncpus : UInt32) : UInt64 × UInt64 :=
  if counts then rlRefillDim tokens rate (rlBurst rate ncpus false) elapsed ncpus else (tokens, 0)

/-- Both dimensions share the time stamp, which advances by the larger of the two steps. -/
def refill (l : Limiter) (bucket : RlBucket) (now : UInt64) (ncpus : UInt32) : RlBucket :=
  if now ≤ bucket.lastNs then bucket
  else
    let pps := refillDim l.ppsSet bucket.ppsTokens l.pps (elapsed bucket now) ncpus
    let bps := refillDim l.bpsSet bucket.bpsTokens l.bps (elapsed bucket now) ncpus
    { bucket with
      ppsTokens := pps.1
      bpsTokens := bps.1
      lastNs := bucket.lastNs + max pps.2 bps.2 }

def consume (l : Limiter) (bucket : RlBucket) (pktLen : UInt64) : Bool × RlBucket :=
  rlBucketConsumeRaw bucket l.ppsSet l.bpsSet pktLen

/-- The bucket a packet finds before it consumes. -/
def ready (l : Limiter) (bucket : RlBucket) (now : UInt64) (ncpus : UInt32) (testNoRefill : Bool) :
    RlBucket :=
  if bucket.cfgVersion ≠ l.version then l.reset now ncpus testNoRefill
  else if testNoRefill then bucket
  else l.refill bucket now ncpus

end Limiter

/-! ## The six kinds -/

def ppsSetFlag : UInt8 := 1
def bpsSetFlag : UInt8 := 2

/-- `vip_config` and `svc_rl_config` limit the dimensions their flags set. -/
def rateLimiter (config : RateConfig) : Limiter :=
  { version := config.version, ppsSet := config.flags &&& ppsSetFlag ≠ 0,
    bpsSet := config.flags &&& bpsSetFlag ≠ 0, pps := config.pps, bps := config.bps }

def svcLimiter (config : RateConfig) : Limiter := rateLimiter config

def vipLimiter (config : RateConfig) : Limiter := rateLimiter config

def fairCapLimiter (config : FairConfig) : Limiter :=
  { version := config.version, ppsSet := true, bpsSet := true, pps := config.capPps,
    bps := config.capBps }

/-- A bucket of bytes only; its packet tokens stay at zero. -/
def fairBpsLimiter (version : UInt32) (rate : UInt64) : Limiter :=
  { version, ppsSet := false, bpsSet := true, pps := 0, bps := rate }

def fairCommittedLimiter (config : FairConfig) : Limiter :=
  fairBpsLimiter config.version config.committedBps

def fairBurstLimiter (config : FairConfig) : Limiter :=
  fairBpsLimiter config.version config.burstBps

def fairNodeLimiter (config : FairNodeConfig) : Limiter :=
  fairBpsLimiter config.version config.headroomBps

end ScrubbingGateway.DataPlane
