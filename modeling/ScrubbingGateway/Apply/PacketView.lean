import ScrubbingGateway.Apply.Atomicity
import ScrubbingGateway.DataPlane.PacketLookups
import ScrubbingGateway.Lib.Transition

/-!
# One packet among applies

A packet runs call by call while the helper applies snapshots, one at a time under its lock, and
packets on other CPUs change buckets and counters. As long as no apply writes after a commit that
happened behind the packet's read of `active_config`, the packet finds what one committed
configuration holds.
-/

namespace ScrubbingGateway.Apply

open DataPlane Prog

/-- A call of the packet and the answer it got. -/
structure Lookup where
  call : PacketCall
  answer : call.Answer

/-- The kernel, the apply in progress (or how the last one ended), the packet in progress, and what
has happened so far. -/
structure System where
  kernel : Kernel
  apply : ConfigProg Unit
  packet : PacketProg Verdict
  /-- The maps as they were after each commit, the latest first, back to the start. -/
  committed : List ConfigMaps
  /-- The packet has read `active_config`. -/
  hasRead : Bool
  /-- There was a commit since the packet read `active_config`. -/
  overtaken : Bool
  /-- The calls of the packet from its read of `active_config` on, the latest first. -/
  lookups : List Lookup

inductive Event where
  /-- The helper is started on a snapshot, when no other holds the lock. -/
  | start (run : ApplyRun)
  /-- The apply in progress makes its next call, which works or fails. -/
  | applyCall (fate : Fate)
  /-- The apply in progress is killed. -/
  | kill
  | packetCall
  /-- Packets on other CPUs change buckets and counters, and time passes. -/
  | others (runtime : Runtime)

def readsActive : PacketCall → Bool
  | .activeConfig => true
  | _ => false

def Over {α : Type} : ConfigProg α → Bool
  | .call _ _ => false
  | _ => true

namespace System

/-- The apply after its next call. -/
def applied (s : System) (fate : Fate) :
    Running ConfigMaps ConfigCall ConfigCall.Answer Unit :=
  Prog.step configMachine ⟨s.apply, s.kernel.config⟩ fate

/-- A commit is what changes `active_config`. -/
def commits (s : System) (fate : Fate) : Bool :=
  (s.applied fate).state.activeConfig ≠ s.kernel.config.activeConfig

def applyStep (s : System) (fate : Fate) : System :=
  { s with
    kernel := { s.kernel with config := (s.applied fate).state }
    apply := (s.applied fate).prog
    committed :=
      if s.commits fate then (s.applied fate).state :: s.committed else s.committed
    overtaken := s.overtaken || (s.commits fate && s.hasRead) }

def packetStep (s : System) : System :=
  match s.packet with
  | .call q next =>
    let reads := s.hasRead || readsActive q
    { s with
      kernel := (q.exec s.kernel).2
      packet := next (q.exec s.kernel).1
      hasRead := reads
      lookups := if reads then ⟨q, (q.exec s.kernel).1⟩ :: s.lookups else s.lookups }
  | _ => s

def step (s : System) : Event → Option System
  | .start run =>
    if Over s.apply then some { s with apply := applySnapshot run.env run.fuel run.node } else none
  | .applyCall fate => some (s.applyStep fate)
  | .kill => some { s with apply := .fail }
  | .packetCall => some s.packetStep
  | .others runtime => some { s with kernel := s.kernel.withRuntime runtime }

/-- No apply has started, and the packet has made no call. It makes its first one whenever the run
says. -/
def initial (k : Kernel) (frame : Frame) : System where
  kernel := k
  apply := .ret ()
  packet := xdpGateway frame
  committed := [k.config]
  hasRead := false
  overtaken := false
  lookups := []

end System

/-- A call of the helper that changes nothing. -/
def reads : ConfigCall → Bool
  | .activeLookup | .outerLookup _ _ | .fdById _ _ | .innerLookup _ _ _ | .innerKeyCount _ _ => true
  | .fairNodeLookup _ | .gblMetaLookup _ => true
  | _ => false

def PacketOver : PacketProg Verdict → Bool
  | .call _ _ => false
  | _ => true

def writesNext : ConfigProg Unit → Bool
  | .call c _ => !reads c
  | _ => false

/-- An apply writes after a commit has overtaken the packet and before the packet is over. -/
def lateWrite (s : System) : Event → Bool
  | .applyCall _ => s.overtaken && !PacketOver s.packet && writesNext s.apply
  | _ => false

/-! ## What holds between two commits -/

namespace Frozen

variable {slot : UInt32} {first second third : ConfigMaps}

theorem trans (early : Frozen slot first second) (late : Frozen slot second third) :
    Frozen slot first third where
  outer o := (late.outer o).trans (early.outer o)
  inner o id old :=
    (late.inner o id (old.trans_le (early.grows o))).trans (early.inner o id old)
  grows o := (early.grows o).trans (late.grows o)
  fairNode := late.fairNode.trans early.fairNode
  gblMeta := late.gblMeta.trans early.gblMeta

end Frozen

theorem Untouched.trans {slot : UInt32} {first second third : ConfigMaps}
    (early : Untouched slot first second) (late : Untouched slot second third) :
    Untouched slot first third :=
  ⟨early.toFrozen.trans late.toFrozen, late.active.trans early.active⟩

/-- Since the latest commit nothing reachable through the active slot has changed, and the apply in
progress will leave it so until it commits. -/
structure Since (latest : ConfigMaps) (active : ActiveConfig) (s : System) : Prop where
  head : ∃ older, s.committed = latest :: older
  published : latest.activeConfig = some active
  untouched : Untouched active.activeSlot latest s.kernel.config
  progress : Over s.apply = true ∨
    Always configMachine (Untouched active.activeSlot latest)
      (fun _ now => Frozen active.activeSlot latest now ∧ now.activeConfig.isSome)
      s.apply s.kernel.config

/-- Where the packet stands: it has not read `active_config`, or all it found since then is held by
one committed configuration, which is still there in its slot while the packet runs. -/
inductive Standing (latest : ConfigMaps) (s : System) : Prop where
  | before (notRead : s.hasRead = false) (notOvertaken : s.overtaken = false)
      (nothing : s.lookups = []) (readsOnce : ReadsOnce s.packet)
  | after (c : ConfigMaps) (member : c ∈ s.committed) (hasRead : s.hasRead = true)
      (held : ∀ l ∈ s.lookups, l.call.HeldBy c l.answer)
      (running : PacketOver s.packet = false → Sees c s.packet ∧
        (∃ slot, ActiveSlot c slot ∧ Frozen slot c s.kernel.config) ∧
        (s.overtaken = false → c = latest))

def ViewInv (s : System) : Prop :=
  ∃ latest active, Since latest active s ∧ Standing latest s

variable {q : PacketCall} {c : ConfigMaps} {k : Kernel}

section Steps

variable {latest : ConfigMaps} {active : ActiveConfig} {s : System}

theorem Since.activeSlot (since : Since latest active s) : ActiveSlot latest active.activeSlot :=
  ⟨active, since.published, rfl⟩

theorem exec_heldBy {slot : UInt32} (at' : ActiveSlot c slot) (frozen : Frozen slot c k.config)
    (through : q.Through c) : q.HeldBy c (q.exec k).1 := by
  have unique {slot' : UInt32} (other : ActiveSlot c slot') : slot' = slot := by
    obtain ⟨active, found, rfl⟩ := at'
    obtain ⟨active', found', rfl⟩ := other
    rw [found] at found'
    cases found'
    rfl
  cases q with
  | activeConfig => exact through.elim
  | outer o slot' =>
    obtain rfl := unique through
    exact ⟨through, frozen.outer o⟩
  | fairNodeConfig slot' =>
    obtain rfl := unique through
    exact ⟨through, frozen.fairNode⟩
  | gblMeta slot' =>
    obtain rfl := unique through
    exact ⟨through, frozen.gblMeta⟩
  | inner o id key =>
    obtain ⟨slot', other, installed⟩ := through
    obtain rfl := unique other
    refine ⟨slot', other, installed, ?_⟩
    rw [slotLookup, installed, Option.bind_some, ← frozen.inner o id (c.outer_live _ _ _ installed)]
    rfl
  | _ => trivial

/-- Steps that leave the configuration, the apply and the commits alone. -/
theorem Since.congr (since : Since latest active s) {s' : System}
    (config : s'.kernel.config = s.kernel.config) (apply : s'.apply = s.apply)
    (committed : s'.committed = s.committed) : Since latest active s' := by
  refine ⟨?_, since.published, ?_, ?_⟩
  · rw [committed]
    exact since.head
  · rw [config]
    exact since.untouched
  · rw [apply, config]
    exact since.progress

theorem Standing.congr (standing : Standing latest s) {s' : System}
    (config : s'.kernel.config = s.kernel.config) (packet : s'.packet = s.packet)
    (committed : s'.committed = s.committed) (hasRead : s'.hasRead = s.hasRead)
    (overtaken : s'.overtaken = s.overtaken) (lookups : s'.lookups = s.lookups) :
    Standing latest s' := by
  cases standing with
  | before notRead notOvertaken nothing readsOnce =>
    exact .before (hasRead.trans notRead) (overtaken.trans notOvertaken) (lookups.trans nothing)
      (packet ▸ readsOnce)
  | after c member read held running =>
    refine .after c (committed ▸ member) (hasRead.trans read) (lookups ▸ held) ?_
    rw [packet, config, overtaken]
    exact running

/-- A new apply leaves the active slot alone until it commits. -/
theorem Since.start (since : Since latest active s) (run : ApplyRun) :
    Since latest active { s with apply := applySnapshot run.env run.fuel run.node } := by
  refine ⟨since.head, since.published, since.untouched, Or.inr ?_⟩
  have read : s.kernel.config.activeConfig = some active :=
    since.untouched.active.trans since.published
  refine (applySnapshot_swapped run read).mono (fun _ => since.untouched.trans) ?_
  rintro _ now ⟨c, _, swapped⟩
  exact ⟨since.untouched.toFrozen.trans swapped.frozen, by rw [swapped.active]; rfl⟩

theorem applied_over {fate : Fate} (ended : Over s.apply = true) :
    s.applied fate = ⟨s.apply, s.kernel.config⟩ := by
  unfold System.applied
  cases shape : s.apply with
  | call c next =>
    rw [shape] at ended
    cases ended
  | _ => rfl

/-- An apply that changes `active_config` has returned. -/
theorem Since.commit (since : Since latest active s) (fate : Fate)
    (commits : s.commits fate = true) :
    Frozen active.activeSlot latest (s.applied fate).state ∧
      ∃ active', Since (s.applied fate).state active' (s.applyStep fate) := by
  have changed := of_decide_eq_true commits
  rcases since.progress with ended | always
  · exact absurd (congrArg (ConfigMaps.activeConfig ∘ Running.state) (applied_over ended)) changed
  · have stepped : Always _ _ _ (s.applyStep fate).apply (s.applyStep fate).kernel.config :=
      Always.step (r := ⟨s.apply, s.kernel.config⟩) always fate
    cases shape : (s.applyStep fate).apply with
    | ret a =>
      rw [shape] at stepped
      obtain ⟨frozen, isSome⟩ := stepped
      obtain ⟨active', published⟩ := Option.isSome_iff_exists.mp isSome
      refine ⟨frozen, active', ⟨s.committed, ?_⟩, published, Untouched.refl _ _, Or.inl ?_⟩
      · exact if_pos commits
      · rw [shape]
        rfl
    | _ =>
      have untouched := stepped.inv (by rw [shape]; rintro a ⟨⟩)
      exact absurd (untouched.active.trans since.untouched.active.symm) changed

/-- A call of the apply that does not commit leaves the active slot alone. -/
theorem Since.work (since : Since latest active s) (fate : Fate)
    (commits : s.commits fate = false) : Since latest active (s.applyStep fate) := by
  have same := not_not.mp (of_decide_eq_false commits)
  have committed : (s.applyStep fate).committed = s.committed := by
    rw [System.applyStep, commits]
    rfl
  rcases since.progress with ended | always
  · exact since.congr (congrArg Running.state (applied_over ended))
      (congrArg Running.prog (applied_over ended)) committed
  · have stepped : Always _ _ _ (s.applyStep fate).apply (s.applyStep fate).kernel.config :=
      Always.step (r := ⟨s.apply, s.kernel.config⟩) always fate
    refine ⟨committed ▸ since.head, since.published, ?_, Or.inr stepped⟩
    cases shape : (s.applyStep fate).apply with
    | ret a =>
      rw [shape] at stepped
      exact ⟨stepped.1, same.trans since.untouched.active⟩
    | _ => exact stepped.inv (by rw [shape]; rintro a ⟨⟩)

/-- While an overtaken packet runs, the helper changes nothing. -/
theorem applyStep_late {fate : Fate} (allowed : lateWrite s (.applyCall fate) = false)
    (overtaken : s.overtaken = true) (running : PacketOver s.packet = false) :
    (s.applied fate).state = s.kernel.config := by
  unfold System.applied
  cases shape : s.apply with
  | call c next =>
    have only : reads c = true := by
      simpa [lateWrite, overtaken, running, shape, writesNext] using allowed
    cases fate with
    | works => cases c <;> first | rfl | cases only
    | faults => rfl
  | _ => rfl

theorem viewInv_applyStep (inv : ViewInv s) {fate : Fate}
    (allowed : lateWrite s (.applyCall fate) = false) : ViewInv (s.applyStep fate) := by
  obtain ⟨latest, active, since, standing⟩ := inv
  cases commits : s.commits fate with
  | false =>
    have since' := since.work fate commits
    have committed : (s.applyStep fate).committed = s.committed := by
      rw [System.applyStep, commits]
      rfl
    have overtaken : (s.applyStep fate).overtaken = s.overtaken := by
      rw [System.applyStep, commits]
      exact Bool.or_false _
    refine ⟨latest, active, since', ?_⟩
    cases standing with
    | before notRead notOvertaken nothing readsOnce =>
      exact .before notRead (overtaken.trans notOvertaken) nothing readsOnce
    | after c member read held running =>
      refine .after c (committed ▸ member) read held ?_
      intro packetRunning
      obtain ⟨sees, frozen, current⟩ := running packetRunning
      refine ⟨sees, ?_, overtaken ▸ current⟩
      cases late : s.overtaken with
      | false =>
        obtain rfl := current late
        exact ⟨_, since.activeSlot, since'.untouched.toFrozen⟩
      | true =>
        show ∃ slot, ActiveSlot c slot ∧ Frozen slot c (s.applied fate).state
        rw [applyStep_late allowed late packetRunning]
        exact frozen
  | true =>
    -- the commit: what the packet reads stays frozen in the slot that is now inactive
    obtain ⟨frozen, active', since'⟩ := since.commit fate commits
    have committed : (s.applyStep fate).committed = (s.applied fate).state :: s.committed := by
      rw [System.applyStep, commits]
      rfl
    have overtaken : (s.applyStep fate).overtaken = (s.overtaken || s.hasRead) := by
      rw [System.applyStep, commits]
      rfl
    refine ⟨_, active', since', ?_⟩
    cases standing with
    | before notRead notOvertaken nothing readsOnce =>
      exact .before notRead (by rw [overtaken, notOvertaken, notRead]; rfl) nothing readsOnce
    | after c member read held running =>
      refine .after c (committed ▸ List.mem_cons_of_mem _ member) read held ?_
      intro packetRunning
      obtain ⟨sees, _, current⟩ := running packetRunning
      cases late : s.overtaken with
      | false =>
        obtain rfl := current late
        refine ⟨sees, ⟨_, since.activeSlot, frozen⟩, ?_⟩
        intro notOvertaken
        rw [overtaken, read, Bool.or_true] at notOvertaken
        cases notOvertaken
      | true =>
        exact absurd (congrArg ConfigMaps.activeConfig
          (applyStep_late allowed late packetRunning)) (of_decide_eq_true commits)

theorem viewInv_packetStep (inv : ViewInv s) : ViewInv s.packetStep := by
  obtain ⟨latest, active, since, standing⟩ := inv
  cases shape : s.packet with
  | call q next =>
    have stepped : s.packetStep = { s with
        kernel := (q.exec s.kernel).2
        packet := next (q.exec s.kernel).1
        hasRead := s.hasRead || readsActive q
        lookups := if s.hasRead || readsActive q
          then ⟨q, (q.exec s.kernel).1⟩ :: s.lookups else s.lookups } := by
      rw [System.packetStep, shape]
    have config : s.packetStep.kernel.config = s.kernel.config := by
      rw [stepped]
      exact q.exec_config s.kernel
    rw [stepped] at config ⊢
    refine ⟨latest, active, since.congr config rfl rfl, ?_⟩
    cases standing with
    | before notRead notOvertaken nothing readsOnce =>
      rw [shape] at readsOnce
      cases readsOnce with
      | plain isPlain rest =>
        have ordinary : (s.hasRead || readsActive q) = false := by
          rw [notRead]
          cases q <;> first | exact isPlain.elim | rfl
        refine .before ordinary notOvertaken ?_ (rest _)
        simp only [ordinary, Bool.false_eq_true, if_false, nothing]
      | read rest =>
        -- the packet is bound to the configuration that is active now
        have answer : s.kernel.config.activeConfig = latest.activeConfig := since.untouched.active
        have frozen : Frozen active.activeSlot latest s.kernel.config := since.untouched.toFrozen
        obtain ⟨older, head⟩ := since.head
        refine .after latest (head ▸ List.mem_cons_self) (Bool.or_true _) ?_ ?_
        · intro l member
          simp only [readsActive, Bool.or_true, if_true, nothing, List.mem_singleton] at member
          subst member
          exact answer
        · intro _
          refine ⟨?_, ⟨_, since.activeSlot, frozen⟩, fun _ => rfl⟩
          have seen := rest latest
          rw [← answer] at seen
          exact seen
    | after c member read held running =>
      obtain ⟨sees, ⟨slot, at', frozen⟩, current⟩ := running (by rw [shape]; rfl)
      rw [shape] at sees
      have here := exec_heldBy at' frozen sees.1
      refine .after c member (by simp only [read, Bool.true_or]) ?_ ?_
      · intro l looked
        simp only [read, Bool.true_or, if_true, List.mem_cons] at looked
        rcases looked with rfl | earlier
        · exact here
        · exact held l earlier
      · intro _
        exact ⟨sees.2 _ here, ⟨slot, at', config.symm ▸ frozen⟩, current⟩
  | _ =>
    have stays : s.packetStep = s := by rw [System.packetStep, shape]
    rw [stays]
    exact ⟨latest, active, since, standing⟩

theorem viewInv_step {e : Event} {next : System} (inv : ViewInv s) (allowed : lateWrite s e = false)
    (stepped : s.step e = some next) : ViewInv next := by
  cases e with
  | applyCall fate =>
    cases stepped
    exact viewInv_applyStep inv allowed
  | packetCall =>
    cases stepped
    exact viewInv_packetStep inv
  | start run =>
    obtain ⟨latest, active, since, standing⟩ := inv
    obtain ⟨_, ⟨⟩⟩ := Option.ite_none_right_eq_some.mp stepped
    exact ⟨latest, active, since.start run, standing.congr rfl rfl rfl rfl rfl rfl⟩
  | kill =>
    obtain ⟨latest, active, since, standing⟩ := inv
    cases stepped
    exact ⟨latest, active, ⟨since.head, since.published, since.untouched, Or.inl rfl⟩,
      standing.congr rfl rfl rfl rfl rfl rfl⟩
  | others runtime =>
    obtain ⟨latest, active, since, standing⟩ := inv
    cases stepped
    exact ⟨latest, active, since.congr rfl rfl rfl, standing.congr rfl rfl rfl rfl rfl rfl⟩

end Steps

/-- In a run without late writes, everything a packet finds from its read of `active_config` on is
what one of the committed configurations holds. -/
theorem lookups_one_configuration (k : Kernel) (active : ActiveConfig)
    (loaded : k.config.activeConfig = some active) (frame : Frame) (events : List Event)
    (final : System)
    (ran : Transition.run System.step (System.initial k frame) events = some final)
    (noLateWrite : Transition.RunAll System.step (fun s e _ => lateWrite s e = false)
      (System.initial k frame) events) :
    ∃ c ∈ final.committed, ∀ l ∈ final.lookups, l.call.HeldBy c l.answer := by
  have start : ViewInv (System.initial k frame) :=
    ⟨k.config, active, ⟨⟨[], rfl⟩, loaded, Untouched.refl _ _, Or.inl rfl⟩,
      .before rfl rfl rfl (xdpGateway_readsOnce frame)⟩
  have preserved (s : System) (e : Event) (next : System) (inv : ViewInv s)
      (allowed : lateWrite s e = false) (stepped : s.step e = some next) : ViewInv next :=
    viewInv_step inv allowed stepped
  obtain ⟨latest, active', since, standing⟩ :=
    Transition.run_invariant_of_runAll preserved start noLateWrite ran
  cases standing with
  | before _ _ nothing _ =>
    obtain ⟨older, head⟩ := since.head
    refine ⟨latest, head ▸ List.mem_cons_self, fun l member => ?_⟩
    rw [nothing] at member
    cases member
  | after c member _ held _ => exact ⟨c, member, held⟩

/-- A packet reads `active_config` while an apply is under way, which commits before the packet
goes on. -/
def overtakenRun : List Event :=
  [.start denyOneRun] ++ List.replicate 10 (.applyCall .works) ++ List.replicate 3 .packetCall ++
    List.replicate 70 (.applyCall .works) ++ List.replicate 40 .packetCall

theorem overtaken_lookups_one_configuration :
    ∃ final, Transition.run System.step (System.initial oneServiceKernel tcpFrame) overtakenRun =
        some final ∧
      (final.overtaken, PacketOver final.packet, final.lookups.length) = (true, true, 28) ∧
      ∃ c ∈ final.committed, ∀ l ∈ final.lookups, l.call.HeldBy c l.answer := by
  have ends : (Transition.run System.step (System.initial oneServiceKernel tcpFrame)
      overtakenRun).map (fun s => (s.overtaken, PacketOver s.packet, s.lookups.length)) =
      some (true, true, 28) := by decide +kernel
  obtain ⟨final, ran, state⟩ := Option.map_eq_some_iff.mp ends
  exact ⟨final, ran, state, lookups_one_configuration oneServiceKernel ⟨0, 0⟩ rfl tcpFrame
    overtakenRun final ran (by decide +kernel)⟩

/-! ## A packet takes effect in one configuration -/

open Transition

theorem heldBy_of_plain (plain : q.Plain) (c : ConfigMaps) (answer : q.Answer) :
    q.HeldBy c answer := by
  cases q <;> first | exact plain.elim | trivial

/-- A call whose answer a configuration holds does there what it did. -/
theorem exec_of_heldBy (held : q.HeldBy c (q.exec k).1) :
    q.exec ⟨c, k.runtime⟩ = ((q.exec k).1, ⟨c, (q.exec k).2.runtime⟩) := by
  cases q with
  | activeConfig => exact Prod.ext held.symm rfl
  | outer | fairNodeConfig | gblMeta => exact Prod.ext held.2.symm rfl
  | inner o id key =>
    obtain ⟨slot, _, installed, answer⟩ := held
    rw [slotLookup, installed, Option.bind_some] at answer
    exact Prod.ext answer.symm rfl
  | bucketUpdate | svcStatInsert =>
    simp only [PacketCall.exec]
    split <;> rfl
  | _ => rfl

/-- Where all that the packet has found so far is held, the rest of it ends as `whole` says. -/
structure OnCourse (whole : ConfigMaps → Outcome Verdict × Kernel) (s : System) : Prop where
  once : s.hasRead = false → ReadsOnce s.packet
  course : ∀ c, (∀ l ∈ s.lookups, l.call.HeldBy c l.answer) →
    eval packetMachine s.packet ⟨c, s.kernel.runtime⟩ = whole c

variable {whole : ConfigMaps → Outcome Verdict × Kernel} {s next : System} {e : Event}

theorem OnCourse.packetStep (inv : OnCourse whole s) : OnCourse whole s.packetStep := by
  cases shape : s.packet with
  | call q next =>
    obtain ⟨once, course⟩ := inv
    rw [shape] at once course
    -- before the read nothing of the configuration is looked at
    have plain (notYet : (s.hasRead || readsActive q) = false) :
        q.Plain ∧ ∀ answer, ReadsOnce (next answer) := by
      rw [Bool.or_eq_false_iff] at notYet
      cases once notYet.1 with
      | plain isPlain rest => exact ⟨isPlain, rest⟩
      | read => cases notYet.2
    unfold System.packetStep
    rw [shape]
    refine ⟨fun notYet => (plain notYet).2 _, fun c held => ?_⟩
    have found : q.HeldBy c (q.exec s.kernel).1 ∧ ∀ l ∈ s.lookups, l.call.HeldBy c l.answer := by
      dsimp only at held
      split at held
      · exact List.forall_mem_cons.mp held
      next notYet => exact ⟨heldBy_of_plain (plain (by simpa using notYet)).1 c _, held⟩
    rw [← course c found.2, eval]
    show _ = eval packetMachine (next (q.exec _).1) (q.exec _).2
    rw [exec_of_heldBy found.1]
  | _ =>
    have stays : s.packetStep = s := by rw [System.packetStep, shape]
    rwa [stays]

/-- An event of the packet or of the helper, not of another CPU. -/
def Event.undisturbed : Event → Bool
  | .others _ => false
  | _ => true

theorem OnCourse.step (inv : OnCourse whole s) (undisturbed : e.undisturbed = true)
    (stepped : s.step e = some next) : OnCourse whole next := by
  cases e with
  | packetCall =>
    cases stepped
    exact inv.packetStep
  | others => cases undisturbed
  | start =>
    obtain ⟨_, ⟨⟩⟩ := Option.ite_none_right_eq_some.mp stepped
    exact ⟨inv.once, inv.course⟩
  | _ =>
    cases stepped
    exact ⟨inv.once, inv.course⟩

/-- At every moment of a run of the packet and the helper without a late write there is a committed
configuration on which the whole packet ends like what is left of it: with the same verdict,
buckets, counters and samples. -/
theorem packet_serializable (k : Kernel) (active : ActiveConfig)
    (loaded : k.config.activeConfig = some active) (frame : Frame) (events : List Event)
    (final : System) (ran : run System.step (System.initial k frame) events = some final)
    (allowed : RunAll System.step (fun s e _ => lateWrite s e = false ∧ e.undisturbed = true)
      (System.initial k frame) events) :
    ∃ c ∈ final.committed, eval packetMachine (xdpGateway frame) ⟨c, k.runtime⟩ =
      eval packetMachine final.packet ⟨c, final.kernel.runtime⟩ := by
  have once := xdpGateway_readsOnce frame
  have start : ViewInv (System.initial k frame) :=
    ⟨k.config, active, ⟨⟨[], rfl⟩, loaded, Untouched.refl _ _, Or.inl rfl⟩, .before rfl rfl rfl once⟩
  have preserved (s : System) (e : Event) (next : System)
      (inv : ViewInv s ∧ OnCourse (fun c => eval packetMachine (xdpGateway frame) ⟨c, k.runtime⟩) s)
      (allowed : lateWrite s e = false ∧ e.undisturbed = true) (stepped : s.step e = some next) :=
    And.intro (viewInv_step inv.1 allowed.1 stepped) (inv.2.step allowed.2 stepped)
  obtain ⟨⟨latest, _, since, standing⟩, onCourse⟩ := run_invariant_of_runAll preserved
    ⟨start, fun _ => once, fun _ _ => rfl⟩ allowed ran
  cases standing with
  | before _ _ nothing _ =>
    obtain ⟨older, head⟩ := since.head
    exact ⟨latest, head ▸ List.mem_cons_self, (onCourse.course latest (by simp [nothing])).symm⟩
  | after c member _ held _ => exact ⟨c, member, (onCourse.course c held).symm⟩

theorem overtaken_serializable :
    ∃ final, run System.step (System.initial oneServiceKernel tcpFrame) overtakenRun = some final ∧
      PacketOver final.packet = true ∧
      ∃ c ∈ final.committed, eval packetMachine (xdpGateway tcpFrame) ⟨c, oneServiceKernel.runtime⟩ =
        eval packetMachine final.packet ⟨c, final.kernel.runtime⟩ := by
  have ends : (run System.step (System.initial oneServiceKernel tcpFrame) overtakenRun).map
      (PacketOver ·.packet) = some true := by decide +kernel
  obtain ⟨final, ran, done⟩ := Option.map_eq_some_iff.mp ends
  exact ⟨final, ran, done, packet_serializable oneServiceKernel ⟨0, 0⟩ rfl tcpFrame overtakenRun
    final ran (by decide +kernel)⟩

end ScrubbingGateway.Apply
