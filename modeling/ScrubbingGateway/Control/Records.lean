import ScrubbingGateway.Lib.Table

/-!
# Control-plane rows

The columns of `app/db/models.py` that the modelled transactions read or write. Of the time
columns only `created_at` is kept: it orders the work queue.
-/

namespace ScrubbingGateway.Control

abbrev ServiceId := Nat
abbrev JobId := Nat
abbrev RunId := Nat
abbrev SourceId := Nat

/-- `lower` in the C collation, which knows the ASCII letters only. -/
def asciiLower (s : String) : String := String.ofList (s.toList.map Char.toLower)

inductive ApplyStatus where
  | pending | queued | applying | active | failed
  deriving DecidableEq, Repr

inductive JobStatus where
  | queued | applying | succeeded | failed | superseded
  deriving DecidableEq, Repr

inductive JobType where
  | serviceUpdate | feedSync | globalDenyApply
  deriving DecidableEq, Repr

inductive ChangeTrigger where
  | service | plan | rule | whitelist | enable | disable
  | feedManual | feedSchedule | feedDelete | feedDryRun | globalDenyRetry
  deriving DecidableEq, Repr

inductive FeedSyncStatus where
  | queued | running | success | partialSuccess | failed
  deriving DecidableEq, Repr

/-- The three shapes `ck_agent_job_target_shape` lets a job have. -/
inductive JobTarget where
  | service (targetId : ServiceId)
  | feedSyncRun (runId : RunId)
  | globalDeny
  deriving DecidableEq, Repr

structure ProtectedService where
  applyStatus : ApplyStatus
  version : Nat
  activeVersion : Option Nat
  deriving DecidableEq, Repr

structure AgentJob where
  target : JobTarget
  version : Nat
  trigger : ChangeTrigger
  status : JobStatus
  error : Option String
  attempts : Nat
  createdAt : Nat
  deriving DecidableEq, Repr

def AgentJob.jobType (job : AgentJob) : JobType :=
  match job.target with
  | .service _ => .serviceUpdate
  | .feedSyncRun _ => .feedSync
  | .globalDeny => .globalDenyApply

structure ThreatFeedSource where
  name : String
  enabled : Bool
  deleted : Bool
  syncSequence : Nat
  lastStatus : Option FeedSyncStatus
  lastError : Option String
  deriving DecidableEq, Repr

structure FeedSyncRun where
  feedSourceId : SourceId
  sourceName : String
  sequence : Nat
  trigger : ChangeTrigger
  dryRun : Bool
  status : FeedSyncStatus
  error : Option String
  fetchedLines : Nat
  valid : Nat
  duplicates : Nat
  skippedInvalid : Nat
  added : Nat
  removed : Nat
  overlapCount : Nat
  globalChanged : Bool
  desiredRevision : Option Nat
  nodeMapVersion : Option Nat
  deriving DecidableEq, Repr

end ScrubbingGateway.Control
