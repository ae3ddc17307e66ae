import ScrubbingGateway.Control.Allocations

/-!
# Every destination is allocated

What a request has checked about the tables of others can be undone before it commits. If no commit
does that to a transaction that is still open, every service lies in an active allocation of its
tenant after every commit.
-/

namespace ScrubbingGateway.Control.Allocations

open Prog Transition
open Accounts (Role TenantId TenantStatus)

/-- A network lies in an active allocation of a tenant. -/
def State.Allocated (s : State) (tenantId : TenantId) (target : Cidr) : Prop :=
  ∃ id row, s.allocations.lookup id = some row ∧ row.tenantId = tenantId ∧ row.status = .active ∧
    row.cidr.contains target = true

/-- Every service lies in an active allocation of its own tenant. -/
def State.Contained (s : State) : Prop :=
  ∀ id service, s.services.lookup id = some service →
    s.Allocated service.tenantId service.cidrOrIp

/-- A write takes away what a check has found. -/
def State.Breaks (s : State) : Write → Check → Prop
  | .revoke id, .allocated tenantId target =>
    ∃ row ∈ s.allocations.lookup id, row.tenantId = tenantId ∧ row.cidr.contains target = true
  | .service _ row, .unused cidr => cidr.contains row.cidrOrIp = true
  | _, _ => False

/-- A commit breaks nothing that another open transaction has checked. -/
def Good (i : Nat) : Call → State → Prop
  | .commit, s =>
    ∀ w ∈ s.written.lookup i, ∀ e ∈ s.passed.entries, e.1 ≠ i → ¬ s.Breaks w e.2
  | _, _ => True

def NothingBroken (p : World) (label : Label) (_ : World) : Prop :=
  match label with
  | .turn i => p.NextGood Good i
  | _ => True

/-! ## The state -/

def State.Holds (s : State) : Check → Prop
  | .allocated tenantId target => s.Allocated tenantId target
  | .unused cidr => ∀ id service, s.services.lookup id = some service →
      cidr.contains service.cidrOrIp = false

/-- Why a transaction may commit what it has written. -/
def State.Justified (s : State) (i : Nat) : Write → Prop
  | .allocate id _ => s.allocations.lookup id = none
  | .revoke id => ∃ row, s.allocations.lookup id = some row ∧
      s.passed.lookup i = some (.unused row.cidr)
  | .service id row =>
    (∀ old, s.services.lookup id = some old → old.tenantId = row.tenantId) ∧
      (s.passed.lookup i = some (.allocated row.tenantId row.cidrOrIp) ∨
        ∃ old, s.services.lookup id = some old ∧ old.cidrOrIp = row.cidrOrIp)

structure State.Sound (s : State) : Prop where
  contained : s.Contained
  passed : ∀ i check, s.passed.lookup i = some check → s.Holds check
  justified : ∀ i w, s.written.lookup i = some w → s.Justified i w
  /-- A row has one writer. -/
  alone : ∀ i j w w', s.written.lookup i = some w → s.written.lookup j = some w' →
    w.row = w'.row → i = j

/-- The columns that are never changed stay as they are. -/
structure State.Before (s s' : State) : Prop where
  allocations : ∀ id row, s.allocations.lookup id = some row →
    ∃ row', s'.allocations.lookup id = some row' ∧ row'.cidr = row.cidr
  services : ∀ id row, s.services.lookup id = some row →
    ∃ row', s'.services.lookup id = some row' ∧ row'.tenantId = row.tenantId

/-- What a transaction has checked and written is its own. -/
structure State.Own (i : Nat) (s s' : State) : Prop where
  passed : s'.passed.lookup i = s.passed.lookup i
  written : s'.written.lookup i = s.written.lookup i

def Rely (i : Nat) (s s' : State) : Prop := s'.Sound ∧ s.Before s' ∧ s.Own i s'

def Guar (i : Nat) (s s' : State) : Prop := s'.Sound ∧ s.Before s' ∧ ∀ j, j ≠ i → s.Own j s'

variable {w : Write}

namespace State

variable {s s' s'' : State} {i : Nat}

theorem Before.refl (s : State) : s.Before s :=
  ⟨fun _ row found => ⟨row, found, rfl⟩, fun _ row found => ⟨row, found, rfl⟩⟩

theorem Before.trans (first : s.Before s') (second : s'.Before s'') : s.Before s'' := by
  constructor
  case allocations =>
    intro id row found
    obtain ⟨row', found', same⟩ := first.allocations id row found
    obtain ⟨row'', found'', same'⟩ := second.allocations id row' found'
    exact ⟨row'', found'', same'.trans same⟩
  case services =>
    intro id row found
    obtain ⟨row', found', same⟩ := first.services id row found
    obtain ⟨row'', found'', same'⟩ := second.services id row' found'
    exact ⟨row'', found'', same'.trans same⟩

theorem Before.of_tables (allocations : s'.allocations = s.allocations)
    (services : s'.services = s.services) : s.Before s' := by
  constructor
  case allocations => exact fun id row found => ⟨row, by rw [allocations, found], rfl⟩
  case services => exact fun id row found => ⟨row, by rw [services, found], rfl⟩

theorem Justified.of_tables (justified : s.Justified i w)
    (allocations : s'.allocations = s.allocations) (services : s'.services = s.services)
    (passed : s'.passed.lookup i = s.passed.lookup i) : s'.Justified i w := by
  cases w with
  | allocate id row => simpa only [Justified, allocations] using justified
  | revoke id => simpa only [Justified, allocations, passed] using justified
  | service id row => simpa only [Justified, services, passed] using justified

theorem Own.refl (s : State) : s.Own i s := ⟨rfl, rfl⟩

theorem Own.trans (first : s.Own i s') (second : s'.Own i s'') : s.Own i s'' :=
  ⟨second.passed.trans first.passed, second.written.trans first.written⟩

end State

theorem rely_trans (i : Nat) (s now later : State) (first : Rely i s now)
    (second : Rely i now later) : Rely i s later :=
  ⟨second.1, first.2.1.trans second.2.1, first.2.2.trans second.2.2⟩

theorem rely_of_guar (i j : Nat) (s now : State) (other : i ≠ j) (guar : Guar i s now) :
    Rely j s now :=
  ⟨guar.1, guar.2.1, guar.2.2 j other.symm⟩

theorem rely_refl {s : State} (sound : s.Sound) (i : Nat) : Rely i s s :=
  ⟨sound, .refl s, .refl s⟩

/-! ## The calls -/

section Calls

variable {s : State} {i : Nat}

section

variable (sound : s.Sound)
include sound

theorem guar_refl : Guar i s s := ⟨sound, .refl s, fun _ _ => .refl s⟩

theorem guar_ended : Guar i s (s.ended i) := by
  have keptWrite {j : Nat} {w : Write} (found : (s.ended i).written.lookup j = some w) :
      j ≠ i ∧ s.written.lookup j = some w := Table.lookup_erase_eq_some.mp found
  have keptCheck {j : Nat} (other : j ≠ i) :
      (s.ended i).passed.lookup j = s.passed.lookup j := AList.lookup_erase_ne other
  refine ⟨?_, .of_tables rfl rfl, fun j other => ⟨keptCheck other, AList.lookup_erase_ne other⟩⟩
  constructor
  case contained => exact sound.contained
  case passed =>
    exact fun j check found => sound.passed j check (Table.lookup_erase_eq_some.mp found).2
  case justified =>
    intro j w found
    obtain ⟨other, before⟩ := keptWrite found
    exact (sound.justified j w before).of_tables rfl rfl (keptCheck other)
  case alone =>
    intro j k w w' found found'
    exact sound.alone j k w w' (keptWrite found).2 (keptWrite found').2

theorem guar_pass (check : Check) {holds : Bool} (idle : s.written.lookup i = none)
    (met : holds = true → s.Holds check) : Guar i s (s.pass i check holds) := by
  cases holds with
  | false => exact guar_refl sound
  | true =>
    have kept {j : Nat} (other : j ≠ i) :
        (s.passed.insert i check).lookup j = s.passed.lookup j := AList.lookup_insert_ne other
    refine ⟨?_, .of_tables rfl rfl, fun j other => ⟨kept other, rfl⟩⟩
    constructor
    case contained => exact sound.contained
    case passed =>
      intro j check' found
      rcases Table.lookup_insert_eq_some.mp found with ⟨_, rfl⟩ | ⟨_, old⟩
      · exact met rfl
      · exact sound.passed j check' old
    case justified =>
      intro j w found
      have other : j ≠ i := by
        rintro rfl
        cases idle.symm.trans found
      exact (sound.justified j w found).of_tables rfl rfl (kept other)
    case alone => exact sound.alone

theorem guar_write {refused answer : Bool} {after : State}
    (justified : refused = false → s.Justified i w)
    (wrote : s.write i w refused = some (answer, after)) : Guar i s after := by
  obtain ⟨free, wrote⟩ := Option.ite_none_left_eq_some.mp wrote
  split at wrote
  · cases wrote
    exact guar_refl sound
  next accepted =>
    cases wrote
    have other {j : Nat} {w' : Write} (elsewhere : j ≠ i) (found : s.written.lookup j = some w') :
        w'.row ≠ w.row := fun same =>
      free (.inl (.inl ⟨⟨j, w'⟩, AList.mem_lookup_iff.mp found, elsewhere, same⟩))
    refine ⟨?_, .of_tables rfl rfl, fun j elsewhere => ⟨rfl, AList.lookup_insert_ne elsewhere⟩⟩
    constructor
    case contained => exact sound.contained
    case passed => exact sound.passed
    case justified =>
      intro j w' found
      rcases Table.lookup_insert_eq_some.mp found with ⟨rfl, rfl⟩ | ⟨_, old⟩
      · exact (justified (Bool.eq_false_iff.mpr accepted)).of_tables rfl rfl rfl
      · exact (sound.justified j w' old).of_tables rfl rfl rfl
    case alone =>
      refine Table.Unique.insert sound.alone fun j w' found same => ?_
      exact by_contra fun elsewhere => other elsewhere found same

theorem guar_lock (id : ServiceId) : Guar i s { s with locked := s.locked.insert i id } := by
  refine ⟨⟨sound.contained, sound.passed, fun j w found => ?_, sound.alone⟩, .of_tables rfl rfl,
    fun _ _ => ⟨rfl, rfl⟩⟩
  exact (sound.justified j w found).of_tables rfl rfl rfl

end

/-- What makes a commit harmless for the services. -/
def State.Fine (s : State) : Write → Prop
  | .allocate id _ => s.allocations.lookup id = none
  | .revoke id => ∀ row, s.allocations.lookup id = some row → s.Holds (.unused row.cidr)
  | .service id row => s.Allocated row.tenantId row.cidrOrIp ∧
      ∀ old, s.services.lookup id = some old → old.tenantId = row.tenantId

theorem fine_of_justified (sound : s.Sound) (justified : s.Justified i w) : s.Fine w := by
  cases w with
  | allocate id row => exact justified
  | revoke id =>
    obtain ⟨row, found, passed⟩ := justified
    intro row' found'
    cases found.symm.trans found'
    exact sound.passed i _ passed
  | service id row =>
    obtain ⟨tenant, passed | ⟨old, found, destination⟩⟩ := justified
    · exact ⟨sound.passed i _ passed, tenant⟩
    · have allocated := sound.contained id old found
      rw [tenant old found, destination] at allocated
      exact ⟨allocated, tenant⟩

section Committing

variable {row : AllocatedCidr} {id : AllocationId}

variable (sound : s.Sound)
include sound

theorem sound_allocations {s' : State}
    (written : s' = { s with allocations := s.allocations.insert id row })
    (free : ∀ j w, s.written.lookup j = some w → w.row ≠ .inl id)
    (services : ∀ id service, s.services.lookup id = some service →
      s'.Allocated service.tenantId service.cidrOrIp)
    (checks : ∀ j t target, s.passed.lookup j = some (.allocated t target) →
      s'.Allocated t target) : s'.Sound := by
  subst written
  have kept {id' : AllocationId} {w : Write} {j : Nat} (found : s.written.lookup j = some w)
      (here : w.row = .inl id') :
      (s.allocations.insert id row).lookup id' = s.allocations.lookup id' := by
    refine AList.lookup_insert_ne fun same => free j w found ?_
    rw [here, same]
  constructor
  case contained => exact services
  case passed =>
    intro j check passed
    cases check with
    | allocated t target => exact checks j t target passed
    | unused cidr => exact sound.passed j _ passed
  case justified =>
    intro j w found
    have justified := sound.justified j w found
    cases w with
    | allocate id' row' => exact (kept found rfl).trans justified
    | revoke id' =>
      obtain ⟨row', there, passed⟩ := justified
      exact ⟨row', (kept found rfl).trans there, passed⟩
    | service id' row' => exact justified
  case alone => exact sound.alone

theorem sound_apply_allocate (new : s.allocations.lookup id = none)
    (free : ∀ j w, s.written.lookup j = some w → w.row ≠ .inl id) :
    (s.apply (.allocate id row)).Sound ∧ s.Before (s.apply (.allocate id row)) := by
  have kept {id' : AllocationId} {row' : AllocatedCidr}
      (found : s.allocations.lookup id' = some row') :
      (s.allocations.insert id row).lookup id' = some row' := by
    refine (AList.lookup_insert_ne ?_).trans found
    rintro rfl
    cases new.symm.trans found
  have allocated {t : TenantId} {target : Cidr} (before : s.Allocated t target) :
      (s.apply (.allocate id row)).Allocated t target := by
    obtain ⟨id', row', found, rest⟩ := before
    exact ⟨id', row', kept found, rest⟩
  constructor
  · exact sound_allocations sound rfl free
      (fun id service found => allocated (sound.contained id service found))
      (fun j t target passed => allocated (sound.passed j _ passed))
  · constructor
    case allocations => exact fun id' row' found => ⟨row', kept found, rfl⟩
    case services => exact fun id' row' found => ⟨row', found, rfl⟩

theorem sound_apply_revoke (found : s.allocations.lookup id = some row)
    (unused : s.Holds (.unused row.cidr))
    (free : ∀ j w, s.written.lookup j = some w → w.row ≠ .inl id)
    (respects : ∀ j t target, s.passed.lookup j = some (.allocated t target) →
      ¬ (row.tenantId = t ∧ row.cidr.contains target = true)) :
    (s.apply (.revoke id)).Sound ∧ s.Before (s.apply (.revoke id)) := by
  have applied : s.apply (.revoke id) =
      { s with allocations := s.allocations.insert id { row with status := .revoked } } := by
    simp only [State.apply, found]
  have kept {id' : AllocationId} (other : id' ≠ id) :
      (s.apply (.revoke id)).allocations.lookup id' = s.allocations.lookup id' := by
    rw [applied]
    exact AList.lookup_insert_ne other
  -- only what lies in the revoked network loses its allocation
  have allocated {t : TenantId} {target : Cidr} (before : s.Allocated t target)
      (outside : ¬ (row.tenantId = t ∧ row.cidr.contains target = true)) :
      (s.apply (.revoke id)).Allocated t target := by
    obtain ⟨id', row', found', tenant, active, contains⟩ := before
    have other : id' ≠ id := by
      rintro rfl
      cases found.symm.trans found'
      exact outside ⟨tenant, contains⟩
    exact ⟨id', row', (kept other).trans found', tenant, active, contains⟩
  constructor
  · refine sound_allocations sound applied free ?_ ?_
    · intro id' service there
      refine allocated (sound.contained id' service there) fun inside => ?_
      rw [unused id' service there] at inside
      cases inside.2
    · intro j t target passed
      exact allocated (sound.passed j _ passed) (respects j t target passed)
  · constructor
    case allocations =>
      intro id' row' found'
      by_cases here : id' = id
      · subst here
        cases found.symm.trans found'
        rw [applied]
        exact ⟨_, AList.lookup_insert _, rfl⟩
      · exact ⟨row', (kept here).trans found', rfl⟩
    case services =>
      rw [applied]
      exact fun id' row' found => ⟨row', found, rfl⟩

theorem sound_apply_service {id : ServiceId} {row : Service}
    (allocated : s.Allocated row.tenantId row.cidrOrIp)
    (same : ∀ old, s.services.lookup id = some old → old.tenantId = row.tenantId)
    (free : ∀ j w, s.written.lookup j = some w → w.row ≠ .inr id)
    (respects : ∀ j cidr, s.passed.lookup j = some (.unused cidr) →
      ¬ cidr.contains row.cidrOrIp = true) :
    (s.apply (.service id row)).Sound ∧ s.Before (s.apply (.service id row)) := by
  constructor
  · constructor
    case contained =>
      intro id' service found
      rcases Table.lookup_insert_eq_some.mp found with ⟨_, rfl⟩ | ⟨_, there⟩
      · exact allocated
      · exact sound.contained id' service there
    case passed =>
      intro j check passed
      have holds := sound.passed j check passed
      cases check with
      | allocated t target => exact holds
      | unused cidr =>
        intro id' service found
        rcases Table.lookup_insert_eq_some.mp found with ⟨_, rfl⟩ | ⟨_, there⟩
        · exact Bool.eq_false_iff.mpr (respects j cidr passed)
        · exact holds id' service there
    case justified =>
      intro j w wrote
      have justified := sound.justified j w wrote
      have apart := free j w wrote
      cases w with
      | allocate | revoke => exact justified
      | service id' row' =>
        have other : id' ≠ id := fun here => apart (congrArg Sum.inr here)
        have there : (s.services.insert id row).lookup id' = s.services.lookup id' :=
          AList.lookup_insert_ne other
        simpa only [State.Justified, State.apply, there] using justified
    case alone => exact sound.alone
  · constructor
    case allocations => exact fun id' row' found => ⟨row', found, rfl⟩
    case services =>
      intro id' row' found
      by_cases here : id' = id
      · subst here
        exact ⟨row, AList.lookup_insert _, (same row' found).symm⟩
      · exact ⟨row', (AList.lookup_insert_ne here).trans found, rfl⟩

end Committing

theorem ended_apply (s : State) (w : Write) : (s.apply w).ended i = (s.ended i).apply w := by
  cases w with
  | allocate | service => rfl
  | revoke id =>
    simp only [State.apply, State.ended]
    cases s.allocations.lookup id <;> rfl

theorem own_apply (s : State) (w : Write) : s.Own i (s.apply w) := by
  cases w with
  | allocate | service => exact ⟨rfl, rfl⟩
  | revoke id =>
    simp only [State.apply]
    split
    · exact ⟨rfl, rfl⟩
    · exact .refl s

/-- A commit that is harmless for the services, and breaks no check of the others. -/
theorem sound_apply (sound : s.Sound) (fine : s.Fine w)
    (free : ∀ j w', s.written.lookup j = some w' → w'.row ≠ w.row)
    (respects : ∀ j check, s.passed.lookup j = some check → ¬ s.Breaks w check) :
    (s.apply w).Sound ∧ s.Before (s.apply w) := by
  cases w with
  | allocate id row => exact sound_apply_allocate sound fine free
  | revoke id =>
    cases found : s.allocations.lookup id with
    | none =>
      simp only [State.apply, found]
      exact ⟨sound, .refl s⟩
    | some row =>
      refine sound_apply_revoke sound found (fine row found) free fun j t target passed breaks => ?_
      exact respects j _ passed ⟨row, found, breaks⟩
  | service id row =>
    exact sound_apply_service sound fine.1 fine.2 free fun j cidr passed breaks =>
      respects j _ passed breaks

theorem guar_commit (sound : s.Sound) (good : Good i .commit s) : Guar i s (s.commit i) := by
  obtain ⟨sound', before, own⟩ := guar_ended (i := i) sound
  unfold State.commit
  cases wrote : s.written.lookup i with
  | none => exact ⟨sound', before, own⟩
  | some w =>
    -- the locks are given back first; the tables do not depend on them
    have fine : (s.ended i).Fine w :=
      fine_of_justified (s := s) sound (sound.justified i w wrote)
    have free (j : Nat) (w' : Write) (found : (s.ended i).written.lookup j = some w') :
        w'.row ≠ w.row := by
      obtain ⟨other, left⟩ := Table.lookup_erase_eq_some.mp found
      exact fun same => other (sound.alone j i w' w left wrote same)
    have respects (j : Nat) (check : Check) (found : (s.ended i).passed.lookup j = some check) :
        ¬ (s.ended i).Breaks w check := by
      obtain ⟨other, left⟩ := Table.lookup_erase_eq_some.mp found
      exact good w wrote ⟨j, check⟩ (AList.mem_lookup_iff.mp left) other
    obtain ⟨applied, after⟩ := sound_apply sound' fine free respects
    show Guar i s ((s.apply w).ended i)
    rw [ended_apply]
    exact ⟨applied, before.trans after, fun j other => (own j other).trans (own_apply _ w)⟩

end Calls

/-! ## The requests -/

abbrev Safe {α : Type} (i : Nat) (Post : α → State → Prop) (p : Request α) (s : State) : Prop :=
  Prog.Safe (State.exec i) (Good i) (Rely i) (Guar i) Post p s

/-- Calls that may be made at any time. -/
def Call.Harmless : Call → Prop
  | selectTenant _ | selectAllocation _ | findConflict _ | findConflictingService _ _
  | selectService _ | insertAllocation .. | rollback => True
  | servicesInCidr _ | updateRevoked _ | cidrInTenantAllocation .. | insertService ..
  | lockService _ | updateService .. | commit => False

section Requests

variable {α : Type} {i : Nat} {s : State}

theorem guar_of_harmless {c : Call} (harmless : c.Harmless) (sound : s.Sound) {answer : c.Answer}
    {after : State} (executed : State.exec i c s = some (answer, after)) : Guar i s after := by
  cases c with
  | selectTenant | selectAllocation | findConflict | findConflictingService | selectService =>
    cases executed
    exact guar_refl sound
  | rollback =>
    cases executed
    exact guar_ended sound
  | insertAllocation id row =>
    refine guar_write sound (fun accepted => ?_) executed
    -- the primary key was free
    simp only [Bool.or_eq_false_iff] at accepted
    exact Option.isSome_eq_false_iff.mp accepted.1 |> Option.isNone_iff_eq_none.mp
  | servicesInCidr | updateRevoked | cidrInTenantAllocation | insertService | lockService
  | updateService | commit => exact harmless.elim

theorem safe_of_asks {p : Request α} (asks : Asks Call.Harmless (fun _ _ => True) p.run) :
    Safe i (fun _ _ => True) p s :=
  .of_asks (fun _ _ _ _ _ harmless rely executed => guar_of_harmless harmless rely.1 executed) asks

theorem safe_getDb {Result : α → Prop} {body : Request α}
    (safe : Safe i (fun a _ => Result a) body s) : Safe i (fun a _ => Result a) (getDb body) s := by
  refine Safe.transaction safe ?_ ?_
  · intro s now answer after rely good executed
    cases executed
    exact guar_commit rely.1 good
  · intro s now answer after rely _ executed
    cases executed
    exact guar_ended rely.1

theorem safe_allocate (id : AllocationId) (tenantId : TenantId) (cidr : Cidr) :
    Safe i (fun _ _ => True) (allocate id tenantId cidr) s := by
  refine safe_of_asks ⟨trivial, fun tenant _ => ?_⟩
  match (tenant : Option TenantStatus) with
  | none | some .suspended => trivial
  | some .active =>
    refine ⟨trivial, fun conflict _ => ?_⟩
    cases (conflict : Option AllocatedCidr) with
    | some conflict => trivial
    | none =>
      refine ⟨trivial, fun inserted _ => ?_⟩
      cases (inserted : Bool) with
      | true => trivial
      | false =>
        refine ⟨trivial, fun _ _ => ⟨trivial, fun conflict _ => ?_⟩⟩
        cases (conflict : Option AllocatedCidr) <;> trivial

theorem holds_unused {cidr : Cidr} (none : ((s.services.entries.map Sigma.snd).filter
    fun service => cidr.contains service.cidrOrIp).isEmpty = true) : s.Holds (.unused cidr) := by
  intro id service found
  rw [List.isEmpty_iff, List.filter_eq_nil_iff] at none
  have listed : service ∈ s.services.entries.map Sigma.snd :=
    List.mem_map.mpr ⟨⟨id, service⟩, AList.mem_lookup_iff.mp found, rfl⟩
  exact Bool.eq_false_iff.mpr (none service listed)

theorem holds_allocated {tenantId : TenantId} {target : Cidr}
    (found : (s.allocations.entries.any fun e => e.2.tenantId = tenantId ∧ e.2.status = .active ∧
      e.2.cidr.contains target) = true) : s.Holds (.allocated tenantId target) := by
  obtain ⟨e, listed, met⟩ := List.any_eq_true.mp found
  obtain ⟨tenant, active, contains⟩ := of_decide_eq_true met
  exact ⟨e.1, e.2, AList.mem_lookup_iff.mpr listed, tenant, active, contains⟩

/-- The dependents of an allocation are looked up; if there are none, that is noted. -/
theorem safe_countAllocationDependents (idle : s.written.lookup i = none)
    (allocation : AllocatedCidr) :
    Safe i (fun blockers s' => s.Before s' ∧
      (blockers = [] → s'.passed.lookup i = some (.unused allocation.cidr)))
      (countAllocationDependents revocations allocation) s := by
  intro now rely _ services after executed
  cases executed
  have guar : Guar i now _ :=
    guar_pass rely.1 (.unused allocation.cidr) (rely.2.2.written.trans idle) holds_unused
  refine ⟨guar, fun blockers same => ?_⟩
  cases same
  refine ⟨rely.2.1.trans guar.2.1, fun none => ?_⟩
  rw [List.map_eq_nil_iff.mp none]
  exact AList.lookup_insert _

theorem safe_revoke (idle : s.written.lookup i = none) (id : AllocationId) :
    Safe i (fun _ _ => True) (revoke revocations id) s := by
  intro now rely _ found after executed
  cases executed
  refine ⟨guar_refl rely.1, ?_⟩
  have idle := rely.2.2.written.trans idle
  cases found : now.allocations.lookup id with
  | none => exact Safe.throw _
  | some allocation =>
    change Safe i _ (if allocation.status = .revoked then _ else _) now
    split
    · exact .pure trivial
    · refine (safe_countAllocationDependents idle allocation).seq ?_
      rintro blockers s₁ ⟨before, passed⟩
      change Safe i _ (if blockers ≠ [] then _ else _) s₁
      split
      · exact .throw _
      next none =>
        intro now₂ rely₂ _ updated after₂ executed₂
        have justified : now₂.Justified i (.revoke id) := by
          -- the network of an allocation does not change
          obtain ⟨row, there, same⟩ := (before.trans rely₂.2.1).allocations id allocation found
          refine ⟨row, there, ?_⟩
          rw [rely₂.2.2.passed, same]
          exact passed (not_not.mp none)
        refine ⟨guar_write rely₂.1 (fun _ => justified) executed₂, ?_⟩
        cases (updated : Bool) with
        | true => exact Safe.pure trivial
        | false => exact Safe.throw _

theorem safe_authorizeActorForTenant (actor : Option Actor) (tenantId : TenantId) :
    Safe i (fun _ s' => s = s') (authorizeActorForTenant actor tenantId) s := by
  cases actor with
  | none => exact .pure rfl
  | some actor =>
    simp only [authorizeActorForTenant]
    split
    · exact .pure rfl
    · exact .throw _

variable (idle : s.written.lookup i = none)
include idle

/-- A destination that is let through lies in an allocation, and that is noted. -/
theorem safe_requireDestination (tenantId : TenantId) (cidrOrIp : Cidr)
    (exclude : Option ServiceId) :
    Safe i (fun _ s' => s.Before s' ∧ s'.passed.lookup i = some (.allocated tenantId cidrOrIp))
      (requireDestination tenantId cidrOrIp exclude) s := by
  unfold requireDestination
  split
  · exact .throw _
  · intro now rely _ allocated after executed
    have guar : Guar i now _ := guar_pass rely.1 (.allocated tenantId cidrOrIp)
      (rely.2.2.written.trans idle) holds_allocated
    cases executed
    refine ⟨guar, ?_⟩
    cases answer : now.allocations.entries.any fun e =>
        e.2.tenantId = tenantId ∧ e.2.status = .active ∧ e.2.cidr.contains cidrOrIp with
    | false => exact Safe.throw _
    | true =>
      rw [answer] at guar
      have before := rely.2.1.trans guar.2.1
      intro now₂ rely₂ _ conflict after₂ executed₂
      cases executed₂
      refine ⟨guar_refl rely₂.1, ?_⟩
      cases now₂.overlapping cidrOrIp exclude with
      | some conflict => exact Safe.throw _
      | none =>
        refine Safe.pure ⟨before.trans rely₂.2.1, ?_⟩
        rw [rely₂.2.2.passed]
        exact AList.lookup_insert _

theorem safe_createService (id : ServiceId) (actor : Option Actor) (tenantId : TenantId)
    (name : String) (cidrOrIp : Cidr) :
    Safe i (fun _ _ => True) (createService id actor tenantId name cidrOrIp) s := by
  refine (safe_authorizeActorForTenant actor tenantId).seq ?_
  rintro _ _ rfl
  refine (safe_requireDestination idle tenantId cidrOrIp none).seq ?_
  rintro _ s₁ ⟨-, passed⟩
  intro now rely _ inserted after executed
  have justified (accepted : ((now.services.lookup id).isSome ||
      (now.overlapping cidrOrIp none).isSome) = false) :
      now.Justified i (.service id ⟨tenantId, name, cidrOrIp⟩) := by
    refine ⟨?_, .inl (rely.2.2.passed.trans passed)⟩
    -- the primary key was free
    simp only [Bool.or_eq_false_iff, Option.isSome_eq_false_iff, Option.isNone_iff_eq_none]
      at accepted
    intro old found
    cases accepted.1.symm.trans found
  refine ⟨guar_write rely.1 justified executed, ?_⟩
  cases (inserted : Bool) with
  | true => exact Safe.pure trivial
  | false => exact Safe.throw _

/-- A service gets a destination that was checked, or keeps the one that was loaded. -/
theorem safe_redirect (id : ServiceId) (loaded : Service) (cidrOrIp : Option Cidr) :
    Safe i (fun service s' => s.Before s' ∧ service.tenantId = loaded.tenantId ∧
      (service.cidrOrIp = loaded.cidrOrIp ∨
        s'.passed.lookup i = some (.allocated loaded.tenantId service.cidrOrIp)))
      (redirect id loaded cidrOrIp) s := by
  cases cidrOrIp with
  | none => exact .pure ⟨.refl s, rfl, .inl rfl⟩
  | some cidrOrIp =>
    simp only [redirect]
    split
    · exact .pure ⟨.refl s, rfl, .inl rfl⟩
    · exact (safe_requireDestination idle loaded.tenantId cidrOrIp (some id)).seq
        fun _ _ ⟨before, passed⟩ => .pure ⟨before, rfl, .inr passed⟩

theorem safe_updateService (id : ServiceId) (actor : Option Actor) (name : Option String)
    (cidrOrIp : Option Cidr) :
    Safe i (fun _ _ => True) (updateService id actor name cidrOrIp) s := by
  intro now rely _ found after executed
  cases executed
  refine ⟨guar_refl rely.1, ?_⟩
  have idle := rely.2.2.written.trans idle
  cases found : now.services.lookup id with
  | none => exact Safe.throw _
  | some loaded =>
    change Safe i _ (authorizeActorForTenant actor loaded.tenantId >>= _) now
    refine (safe_authorizeActorForTenant actor loaded.tenantId).seq ?_
    rintro _ _ rfl
    refine (safe_redirect idle id loaded cidrOrIp).seq ?_
    rintro service s₁ ⟨before, tenant, destination⟩
    intro now₁ rely₁ _ locked after₁ executed₁
    -- the lock of `bump_version`
    have guar₁ : Guar i now₁ after₁ ∧ now₁.Own i after₁ := by
      obtain ⟨_, executed₁⟩ := Option.ite_none_left_eq_some.mp executed₁
      split at executed₁
      · cases executed₁
        exact ⟨guar_refl rely₁.1, .refl _⟩
      · cases executed₁
        exact ⟨guar_lock rely₁.1 id, ⟨rfl, rfl⟩⟩
    refine ⟨guar₁.1, ?_⟩
    cases (locked : Bool) with
    | false => exact Safe.throw _
    | true =>
      intro now₂ rely₂ _ updated after₂ executed₂
      have kept := (rely₁.2.2.trans guar₁.2).trans rely₂.2.2
      obtain ⟨row, there, same⟩ := ((before.trans rely₁.2.1).trans
        (guar₁.1.2.1.trans rely₂.2.1)).services id loaded found
      have justified : now₂.Justified i (.service id
          (loaded.update { service with name := name.getD service.name } row)) := by
        constructor
        · intro old found'
          cases there.symm.trans found'
          simp only [Service.update, if_pos tenant]
        · -- the column is written only if it was checked
          simp only [Service.update, if_pos tenant]
          split
          · exact .inr ⟨row, there, rfl⟩
          next moved =>
            left
            rw [kept.passed, destination.resolve_left moved, same]
      simp only [State.exec, there] at executed₂
      refine ⟨guar_write rely₂.1 (fun _ => justified) executed₂, ?_⟩
      cases (updated : Bool) with
      | true => exact Safe.pure trivial
      | false => exact Safe.throw _

theorem safe_prog (op : Op) : Safe i (fun _ _ => True) op.prog s := by
  cases op with
  | allocate id tenantId cidr =>
    exact (safe_getDb (safe_allocate id tenantId cidr)).seq
      fun _ _ _ => .pure trivial
  | revoke id =>
    exact (safe_getDb (safe_revoke idle id)).seq fun _ _ _ => .pure trivial
  | createService id actor tenantId name cidrOrIp =>
    exact (safe_getDb (safe_createService idle id actor tenantId name cidrOrIp)).seq
      fun _ _ _ => .pure trivial
  | updateService id actor name cidrOrIp =>
    exact (safe_getDb (safe_updateService idle id actor name cidrOrIp)).seq
      fun _ _ _ => .pure trivial

end Requests

/-! ## All requests together -/

structure World.Inv (p : World) : Prop where
  sound : p.state.Sound
  guarded : p.Guarded database Good Rely Guar fun _ _ => True
  /-- Only requests that were started have written something. -/
  started : ∀ i w, p.state.written.lookup i = some w → i < p.threads.length

theorem World.inv_initial (tenants : Table TenantId TenantStatus) : (World.initial tenants).Inv := by
  constructor
  case guarded => exact fun i t found => nomatch found
  case started => exact fun i w found => nomatch found
  case sound => constructor <;> simp [World.initial, State.Contained]

theorem World.Inv.step {p p' : World} {label : Label} (inv : p.Inv)
    (careful : NothingBroken p label p') (stepped : p.step label = some p') : p'.Inv := by
  cases label with
  | start op =>
    cases stepped
    have idle : p.state.written.lookup p.threads.length = none := by
      cases found : p.state.written.lookup p.threads.length with
      | none => rfl
      | some w => exact absurd (inv.started _ w found) (Nat.lt_irrefl _)
    refine ⟨inv.sound, inv.guarded.start ?_, fun i w found => ?_⟩
    · exact Prog.Guarded.mono (safe_prog idle op) fun _ _ _ => trivial
    · have inside := inv.started i w found
      simp only [Pool.start, List.length_append, List.length_singleton]
      omega
  | turn i =>
    obtain ⟨guar, guarded⟩ := inv.guarded.turn rely_trans rely_of_guar (rely_refl inv.sound i)
      careful stepped
    obtain ⟨tag, c, next, answer, state, found, executed, rfl⟩ := Pool.turn_some stepped
    refine ⟨guar.1, guarded, fun j w wrote => ?_⟩
    have inside : i < p.threads.length := (List.getElem?_eq_some_iff.mp found).1
    rw [List.length_set]
    by_cases same : j = i
    · rw [same]
      exact inside
    · rw [(guar.2.2 j same).written] at wrote
      exact inv.started j w wrote
  | abort i =>
    simp only [World.step] at stepped
    split at stepped
    next found =>
      cases stepped
      have guar : Guar i p.state (p.state.ended i) := guar_ended inv.sound
      refine ⟨guar.1, inv.guarded.others rely_trans (fun j other => ?_) trivial, ?_⟩
      · exact rely_of_guar i j _ _ (Ne.symm other) guar
      · intro j w wrote
        rw [List.length_set]
        exact inv.started j w (Table.lookup_erase_eq_some.mp wrote).2
    · cases stepped

/-- If no commit breaks what another open request has checked, every service lies in an active
allocation of its tenant in every committed state. -/
theorem destinations_allocated (tenants : Table TenantId TenantStatus) (labels : List Label)
    (careful : RunAll World.step NothingBroken (.initial tenants) labels) (p : World)
    (ran : run World.step (.initial tenants) labels = some p) : p.state.Contained := by
  have preserved (p : World) (label : Label) (p' : World) (inv : p.Inv)
      (careful : NothingBroken p label p') (stepped : p.step label = some p') : p'.Inv :=
    inv.step careful stepped
  have inv : p.Inv := run_invariant_of_runAll preserved (World.inv_initial tenants) careful ran
  exact inv.sound.contained

/-! A service is created while an allocation is revoked. -/

instance (s : State) : (w : Write) → (check : Check) → Decidable (s.Breaks w check)
  | .revoke id, .allocated _ _ =>
    inferInstanceAs (Decidable (∃ row ∈ s.allocations.lookup id, _))
  | .service _ _, .unused _ => inferInstanceAs (Decidable (_ = true))
  | .allocate _ _, _ | .revoke _, .unused _ | .service _ _, .allocated _ _ =>
    .isFalse fun breaks => breaks

instance (i : Nat) : (c : Call) → (s : State) → Decidable (Good i c s)
  | .commit, s => inferInstanceAs (Decidable (∀ w ∈ s.written.lookup i, _))
  | .selectTenant _, _ | .selectAllocation _, _ | .findConflict _, _ | .insertAllocation _ _, _
  | .servicesInCidr _, _ | .updateRevoked _, _ | .cidrInTenantAllocation _ _, _
  | .findConflictingService _ _, _ | .insertService _ _, _ | .selectService _, _
  | .lockService _, _ | .updateService _ _ _, _ | .rollback, _ => .isTrue trivial

instance (p : World) : (label : Label) → (p' : World) → Decidable (NothingBroken p label p')
  | .turn i, _ => inferInstanceAs (Decidable (p.NextGood Good i))
  | .start _, _ | .abort _, _ => .isTrue trivial

/-- 203.0.113.0/24 -/
def networkA : Cidr := ⟨0xCB007100, 24, Cidr.canonical_testNet3⟩

/-- 198.51.100.0/24 -/
def networkB : Cidr := ⟨0xC6336400, 24, by decide⟩

/-- 203.0.113.1/32 -/
def hostA : Cidr := .host 0xCB007101

def oneTenant : Table TenantId TenantStatus := AList.insert 1 .active ∅

/-- Allocation 2 is revoked between the check and the commit of a service in allocation 1. -/
def otherRevoked : List Label :=
  [.start (.allocate 1 1 networkA), .turn 0, .turn 0, .turn 0, .turn 0,
    .start (.allocate 2 1 networkB), .turn 1, .turn 1, .turn 1, .turn 1,
    .start (.createService 1 none 1 "web" hostA), .turn 2, .turn 2,
    .start (.revoke 2), .turn 3, .turn 3, .turn 3, .turn 3, .turn 2, .turn 2]

/-- The allocation itself is revoked in that time. -/
def sameRevoked : List Label :=
  [.start (.allocate 1 1 networkA), .turn 0, .turn 0, .turn 0, .turn 0,
    .start (.createService 1 none 1 "web" hostA), .turn 1, .turn 1,
    .start (.revoke 1), .turn 2, .turn 2, .turn 2, .turn 2, .turn 1, .turn 1]

theorem otherRevoked_allocated :
    RunAll World.step NothingBroken (.initial oneTenant) otherRevoked ∧
      ∃ p, run World.step (.initial oneTenant) otherRevoked = some p ∧
        p.state.services.lookup 1 = some ⟨1, "web", hostA⟩ ∧ p.state.Contained := by
  have careful : RunAll World.step NothingBroken (.initial oneTenant) otherRevoked := by decide
  exact ⟨careful, _, rfl, rfl, destinations_allocated oneTenant otherRevoked careful _ rfl⟩

/-- The service is there and its only allocation is revoked. -/
theorem sameRevoked_not_allocated :
    ∃ p, run World.step (.initial oneTenant) sameRevoked = some p ∧
      p.state.services.lookup 1 = some ⟨1, "web", hostA⟩ ∧ ¬ p.state.Contained := by
  refine ⟨_, rfl, rfl, fun contained => ?_⟩
  obtain ⟨id, row, found, -, active, -⟩ := contained 1 _ rfl
  have listed := AList.mem_lookup_iff.mp found
  cases List.mem_singleton.mp listed
  cases active

end ScrubbingGateway.Control.Allocations
