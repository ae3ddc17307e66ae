import ScrubbingGateway.Control.ApplyLedger

/-!
# Versions in the ledger

No transaction of the ledger lowers a service's version or puts a job ahead of it.
-/

namespace ScrubbingGateway.Control

/-- No job is ahead of its service's version. -/
def JobsBelow (l : Ledger) : Prop :=
  ∀ jobId job serviceId, l.jobs.lookup jobId = some job → job.target = .service serviceId →
    ∃ row, l.services.lookup serviceId = some row ∧ job.version ≤ row.version

def Grows (l l' : Ledger) : Prop :=
  ∀ serviceId row, l.services.lookup serviceId = some row →
    ∃ row', l'.services.lookup serviceId = some row' ∧ row.version ≤ row'.version

theorem Grows.trans {a b c : Ledger} (first : Grows a b) (second : Grows b c) :
    Grows a c := by
  intro serviceId row found
  obtain ⟨mid, foundMid, le⟩ := first serviceId row found
  obtain ⟨last, foundLast, le'⟩ := second serviceId mid foundMid
  exact ⟨last, foundLast, le.trans le'⟩

theorem grows_of_services {l l' : Ledger} (same : l'.services = l.services) : Grows l l' := by
  intro _ row found
  exact ⟨row, by rw [same]; exact found, le_refl _⟩

variable {l : Ledger} {serviceId : ServiceId} {jobId : JobId}

theorem grows_setService {new : ProtectedService}
    (up : ∀ old, l.services.lookup serviceId = some old → old.version ≤ new.version) :
    Grows l (l.setService serviceId new) := by
  intro other row found
  by_cases same : other = serviceId
  · subst same
    exact ⟨new, by simp, up row found⟩
  · exact ⟨row, by simpa [same] using found, le_refl _⟩

variable (below : JobsBelow l)
include below

theorem jobsBelow_setService {new : ProtectedService}
    (up : ∀ old, l.services.lookup serviceId = some old → old.version ≤ new.version) :
    JobsBelow (l.setService serviceId new) := by
  intro jobId job target found isTarget
  obtain ⟨row, rowFound, le⟩ := below jobId job target found isTarget
  obtain ⟨row', rowFound', le'⟩ := grows_setService up target row rowFound
  exact ⟨row', rowFound', le.trans le'⟩

theorem jobsBelow_setJob {new : AgentJob} (fits : ∀ serviceId, new.target = .service serviceId →
      ∃ row, l.services.lookup serviceId = some row ∧ new.version ≤ row.version) :
    JobsBelow (l.setJob jobId new) := by
  intro other job target found isTarget
  rw [Ledger.setJob_lookup] at found
  split at found
  · cases found
    exact fits target isTarget
  · exact below other job target found isTarget

theorem requeueCurrentJob_below {row : ProtectedService}
    (found : l.services.lookup serviceId = some row) (jobId : JobId) (createdAt : Nat) :
    JobsBelow (l.requeueCurrentJob serviceId row.version jobId createdAt).1 ∧
      (l.requeueCurrentJob serviceId row.version jobId createdAt).1.services = l.services := by
  unfold Ledger.requeueCurrentJob
  split
  · exact ⟨jobsBelow_setJob below (by simp [found]), rfl⟩
  next current _ =>
    split
    · exact ⟨below, rfl⟩
    next job jobFound =>
      exact ⟨jobsBelow_setJob below fun other isTarget =>
        below current job other jobFound isTarget, rfl⟩

theorem retry_below {l' : Ledger} {job : JobId} {createdAt : Nat}
    (retried : l.retry serviceId jobId createdAt = .ok (l', job)) : JobsBelow l' ∧ Grows l l' := by
  obtain ⟨locked, found, _, rfl⟩ := Ledger.retry_ok retried
  obtain ⟨below', same⟩ := requeueCurrentJob_below below found jobId createdAt
  have up : ∀ old, (l.requeueCurrentJob serviceId locked.version jobId
      createdAt).1.services.lookup serviceId = some old → old.version ≤ locked.version := by
    simp [same, found]
  exact ⟨jobsBelow_setService below' up, (grows_of_services same).trans (grows_setService up)⟩

end ScrubbingGateway.Control
