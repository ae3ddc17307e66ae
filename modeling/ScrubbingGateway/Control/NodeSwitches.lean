import Mathlib.Data.Finset.Sort
import Mathlib.Data.List.ProdSigma
import ScrubbingGateway.DataPlane.Gateway
import ScrubbingGateway.Lib.Reconcile
import ScrubbingGateway.Lib.Transition

/-!
# Node switches

`node_control_reconciler.py` and `blocked_port_reconciler.py`: the bypass flag and the list of
blocked source ports, driven from their rows into the data plane by `dpstat set-bypass` and
`dpstat set-blocked-ports`. A write that times out or exits with an error may have been made in part.
-/

namespace ScrubbingGateway.Control.NodeSwitches

open Reconcile DataPlane

/-! ## Writers -/

/-- `dpstat set-bypass` writes the one word of `node_control`. -/
def bypassWriter : Reconcile.Writer Nat UInt32 where
  updates := fun bypass => [fun _ => UInt32.ofNat bypass]
  Holds := fun plane bypass => plane = UInt32.ofNat bypass
  written := fun _ _ => rfl

abbrev PortSet := Finset UInt16

/-- The bitmap of each slot, a word for every 64 ports. -/
abbrev PortPlane := Fin 2 → Fin 1024 → UInt64

variable (port : UInt16)

theorem shiftRight_six_lt : (port >>> 6).toNat < 1024 := by
  have bound := port.toNat_lt
  simp only [UInt16.toNat_shiftRight, UInt16.reduceToNat, Nat.reduceMod, Nat.shiftRight_eq_div_pow]
  omega

def wordIndex : Fin 1024 := ⟨(port >>> 6).toNat, shiftRight_six_lt port⟩

def portBit : UInt64 := (1 : UInt64) <<< (port &&& 63).toUInt64

/-- The `words` array of `cmd_set_blocked_ports`, filled argument by argument. -/
def portWords (args : List UInt16) (word : Fin 1024) : UInt64 :=
  args.foldl (fun acc port => if wordIndex port = word then acc ||| portBit port else acc) 0

def setWord (slot : Fin 2) (word : Fin 1024) (value : UInt64) (plane : PortPlane) : PortPlane :=
  Function.update plane slot (Function.update (plane slot) word value)

/-- The arguments are the sorted ports; both slots are written word by word. -/
def setBlockedPorts (ports : PortSet) : List (PortPlane → PortPlane) :=
  ((List.finRange 2).product (List.finRange 1024)).map fun target =>
    setWord target.1 target.2 (portWords (ports.sort (· ≤ ·)) target.2)

/-- In both slots the gateway drops exactly the blocked ports. -/
def BlocksExactly (plane : PortPlane) (ports : PortSet) : Prop :=
  ∀ slot port, portBlocked (plane slot (wordIndex port)) port = true ↔ port ∈ ports

/-! ### The bitmap -/

theorem and_or_distrib (a b c : UInt64) : (a ||| b) &&& c = (a &&& c) ||| (b &&& c) := by
  rw [← UInt64.toNat_inj]
  simp [Nat.and_or_distrib_right]

theorem toNat_and_63 : (port &&& 63).toNat = port.toNat % 64 := by
  rw [UInt16.toNat_and]
  exact Nat.and_two_pow_sub_one_eq_mod port.toNat 6

theorem portBit_eq : portBit port = (1 : UInt64) <<< UInt64.ofNat (port.toNat % 64) := by
  have shift : (port &&& 63).toUInt64 = UInt64.ofNat (port.toNat % 64) := by
    have small : port.toNat % 64 < 2 ^ 64 := lt_trans (Nat.mod_lt _ (by decide)) (by decide)
    rw [← UInt64.toNat_inj, UInt16.toNat_toUInt64, toNat_and_63, UInt64.toNat_ofNat',
      Nat.mod_eq_of_lt small]
  rw [portBit, shift]

theorem oneBit_and_iff : ∀ i j : Fin 64,
    ((1 : UInt64) <<< UInt64.ofNat i.val) &&& ((1 : UInt64) <<< UInt64.ofNat j.val) ≠ 0 ↔ i = j := by
  decide +kernel

theorem wordIndex_val : (wordIndex port).val = port.toNat / 64 := by
  simp only [wordIndex, UInt16.toNat_shiftRight, UInt16.reduceToNat, Nat.reduceMod,
    Nat.shiftRight_eq_div_pow]

theorem portBit_and_iff {a b : UInt16} (sameWord : wordIndex a = wordIndex b) :
    portBit a &&& portBit b ≠ 0 ↔ a = b := by
  have bound (port : UInt16) : port.toNat % 64 < 64 := Nat.mod_lt _ (by decide)
  have bits := oneBit_and_iff ⟨a.toNat % 64, bound a⟩ ⟨b.toNat % 64, bound b⟩
  rw [portBit_eq, portBit_eq, bits, Fin.mk.injEq, ← UInt16.toNat_inj]
  have words : a.toNat / 64 = b.toNat / 64 := by
    rw [← wordIndex_val, ← wordIndex_val, sameWord]
  omega

theorem foldl_portWords (args : List UInt16) (port : UInt16) (acc : UInt64) :
    args.foldl (fun acc p => if wordIndex p = wordIndex port then acc ||| portBit p else acc) acc &&&
        portBit port ≠ 0 ↔ acc &&& portBit port ≠ 0 ∨ port ∈ args := by
  induction args generalizing acc with
  | nil => simp
  | cons head rest ih =>
    rw [List.foldl_cons, ih, List.mem_cons]
    by_cases sameWord : wordIndex head = wordIndex port
    · have own := portBit_and_iff sameWord
      rw [if_pos sameWord, and_or_distrib, Ne, UInt64.or_eq_zero_iff, not_and_or, ← Ne, ← Ne, own,
        or_assoc, eq_comm (a := head)]
    · -- the head sets a bit of another word
      have different : port ≠ head := by
        rintro rfl
        exact sameWord rfl
      rw [if_neg sameWord]
      simp [different]

theorem portBlocked_portWords (args : List UInt16) (port : UInt16) :
    portBlocked (portWords args (wordIndex port)) port = true ↔ port ∈ args := by
  rw [portBlocked, decide_eq_true_eq, ← portBit, portWords, foldl_portWords]
  simp

theorem setWord_apply (slot slot' : Fin 2) (word word' : Fin 1024) (value : UInt64)
    (plane : PortPlane) : setWord slot word value plane slot' word' =
      if (slot', word') = (slot, word) then value else plane slot' word' := by
  rw [setWord, Function.update_apply]
  by_cases sameSlot : slot' = slot
  · subst sameSlot
    simp [Function.update_apply]
  · simp [sameSlot]

theorem applyAll_setWord (value : Fin 1024 → UInt64) (targets : List (Fin 2 × Fin 1024))
    (plane : PortPlane) (slot : Fin 2) (word : Fin 1024) :
    applyAll (targets.map fun target => setWord target.1 target.2 (value target.2)) plane slot word =
      if (slot, word) ∈ targets then value word else plane slot word := by
  induction targets generalizing plane with
  | nil => simp [applyAll]
  | cons target rest ih =>
    have unfolded : applyAll ((target :: rest).map fun t => setWord t.1 t.2 (value t.2)) plane =
        applyAll (rest.map fun t => setWord t.1 t.2 (value t.2))
          (setWord target.1 target.2 (value target.2) plane) := rfl
    rw [unfolded, ih, setWord_apply]
    by_cases later : (slot, word) ∈ rest
    · simp [later]
    · by_cases here : (slot, word) = target
      · simp [← here]
      · simp [later, here]

theorem setBlockedPorts_written (ports : PortSet) (plane : PortPlane) :
    BlocksExactly (applyAll (setBlockedPorts ports) plane) ports := by
  intro slot port
  have everywhere : (slot, wordIndex port) ∈ (List.finRange 2).product (List.finRange 1024) :=
    List.pair_mem_product.mpr ⟨List.mem_finRange _, List.mem_finRange _⟩
  rw [setBlockedPorts, applyAll_setWord, if_pos everywhere, portBlocked_portWords,
    Finset.mem_sort]

def portsWriter : Reconcile.Writer PortSet PortPlane where
  updates := setBlockedPorts
  Holds := BlocksExactly
  written := setBlockedPorts_written

/-! ## The reconcilers -/

/-- The columns of the `node_control` row that the reconciler reads. -/
structure NodeControl where
  bypassEnabled : Bool
  maintenanceEnabled : Bool

/-- The rows, the two reconcilers with what they drive, and the worker's request to look at the
ledger again. -/
structure World where
  control : NodeControl
  blockedPorts : PortSet
  bypass : Cached Nat UInt32
  maintenanceActive : Option Bool
  reconcileRequested : Bool
  ports : Cached PortSet PortPlane

namespace World

def desiredBypass (w : World) : Nat := w.control.bypassEnabled.toNat

/-- `NodeControlReconciler.reconcile_once`. -/
def reconcileNodeControl (w : World) (report : Report) : World :=
  { w with
    bypass := tick bypassWriter w.desiredBypass report w.bypass
    reconcileRequested := w.reconcileRequested ||
      (w.maintenanceActive == some true && !w.control.maintenanceEnabled)
    maintenanceActive := some w.control.maintenanceEnabled }

/-- `BlockedPortReconciler.reconcile_once`. -/
def reconcileBlockedPorts (w : World) (report : Report) : World :=
  { w with ports := tick portsWriter w.blockedPorts report w.ports }

/-- A new worker has asserted nothing yet. -/
def restart (w : World) : World :=
  { w with
    bypass := { w.bypass with asserted := none }
    maintenanceActive := none
    reconcileRequested := false
    ports := { w.ports with asserted := none } }

end World

inductive Label where
  | setBypass (enabled : Bool)
  | setMaintenance (enabled : Bool)
  | addBlockedPort (port : UInt16)
  | removeBlockedPort (port : UInt16)
  | nodeControlTick (report : Report)
  | blockedPortTick (report : Report)
  | restart

/-- A port that is blocked already, or not blocked, is refused with 409 or 404. -/
def step (w : World) : Label → Option World
  | .setBypass enabled => some { w with control := { w.control with bypassEnabled := enabled } }
  | .setMaintenance enabled =>
    some { w with control := { w.control with maintenanceEnabled := enabled } }
  | .addBlockedPort port =>
    if port ∈ w.blockedPorts then none
    else some { w with blockedPorts := insert port w.blockedPorts }
  | .removeBlockedPort port =>
    if port ∈ w.blockedPorts then some { w with blockedPorts := w.blockedPorts.erase port } else none
  | .nodeControlTick report => some (w.reconcileNodeControl report)
  | .blockedPortTick report => some (w.reconcileBlockedPorts report)
  | .restart => some w.restart

/-! ## Convergence -/

structure Converged (w : World) : Prop where
  bypass : Tracks bypassWriter w.desiredBypass w.bypass
  ports : Tracks portsWriter w.blockedPorts w.ports

/-- No change brings a row back to the value that is asserted after a write has been reported as
failed since. -/
def CleanReverts (w : World) (label : Label) (_ : World) : Prop :=
  match label with
  | .setBypass enabled => Clean w.desiredBypass enabled.toNat w.bypass
  | .addBlockedPort port => Clean w.blockedPorts (insert port w.blockedPorts) w.ports
  | .removeBlockedPort port => Clean w.blockedPorts (w.blockedPorts.erase port) w.ports
  | _ => True

instance (w : World) (label : Label) (next : World) : Decidable (CleanReverts w label next) := by
  unfold CleanReverts
  cases label <;> infer_instance

theorem Converged.step {w next : World} {label : Label} (converged : Converged w)
    (clean : CleanReverts w label next) (stepped : step w label = some next) : Converged next := by
  cases label with
  | setBypass enabled =>
    cases stepped
    exact ⟨converged.bypass.change clean, converged.ports⟩
  | setMaintenance enabled =>
    cases stepped
    exact ⟨converged.bypass, converged.ports⟩
  | addBlockedPort port =>
    simp only [NodeSwitches.step] at stepped
    split at stepped
    · cases stepped
    · cases stepped
      exact ⟨converged.bypass, converged.ports.change clean⟩
  | removeBlockedPort port =>
    obtain ⟨_, ⟨⟩⟩ := Option.ite_none_right_eq_some.mp stepped
    exact ⟨converged.bypass, converged.ports.change clean⟩
  | nodeControlTick report =>
    cases stepped
    exact ⟨converged.bypass.tick report, converged.ports⟩
  | blockedPortTick report =>
    cases stepped
    exact ⟨converged.bypass, converged.ports.tick report⟩
  | restart =>
    cases stepped
    exact ⟨tracks_of_unasserted rfl, tracks_of_unasserted rfl⟩

/-- When no row comes back to an asserted value after a failed write, then after every step a switch
whose desired value is asserted has it in the data plane, and the node is not in bypass while the
reconciler has asserted that it is off. -/
theorem switches_converge {start w : World} {labels : List Label}
    (bypassUnknown : start.bypass.asserted = none) (portsUnknown : start.ports.asserted = none)
    (clean : Transition.RunAll step CleanReverts start labels)
    (ran : Transition.run step start labels = some w) :
    (w.bypass.asserted = some w.desiredBypass → w.bypass.plane = UInt32.ofNat w.desiredBypass) ∧
      (w.ports.asserted = some w.blockedPorts → BlocksExactly w.ports.plane w.blockedPorts) ∧
      (w.control.bypassEnabled = false → w.bypass.asserted = some 0 → w.bypass.plane = 0) := by
  have initial : Converged start :=
    ⟨tracks_of_unasserted bypassUnknown, tracks_of_unasserted portsUnknown⟩
  have preserved : ∀ v label next, Converged v → CleanReverts v label next →
      step v label = some next → Converged next :=
    fun _ _ _ converged here stepped => converged.step here stepped
  have converged : Converged w := Transition.run_invariant_of_runAll preserved initial clean ran
  refine ⟨converged.bypass.sound, converged.ports.sound, fun off asserted => ?_⟩
  have desired : w.desiredBypass = 0 := by rw [World.desiredBypass, off]; rfl
  have held := converged.bypass.sound (by rw [desired]; exact asserted)
  rw [desired] at held
  exact held

/-- A node that has just come up, with nothing blocked and no bypass. -/
def cleanNode : World where
  control := ⟨false, false⟩
  blockedPorts := ∅
  bypass := ⟨none, 0, false⟩
  maintenanceActive := none
  reconcileRequested := false
  ports := ⟨none, fun _ _ => 0, false⟩

/-- Bypass is switched on; the first write takes effect but reports a failure, and the next tick
writes it again. Then it is switched off and on before the worker looks. -/
def retriedBypass : List Label :=
  [.nodeControlTick .done, .setBypass true, .nodeControlTick (.failed 1), .nodeControlTick .done,
    .setBypass false, .setBypass true]

theorem retriedBypass_converges :
    ∃ w, Transition.run step cleanNode retriedBypass = some w ∧ w.bypass.asserted = some 1 ∧
      w.bypass.plane = 1 := by
  have clean : Transition.RunAll step CleanReverts cleanNode retriedBypass := by decide
  exact ⟨_, rfl, rfl, (switches_converge rfl rfl clean rfl).1 rfl⟩

/-- Bypass is switched on by a write that reports a failure, and switched off again before the next
tick. -/
def revertedBypass : List Label :=
  [.nodeControlTick .done, .setBypass true, .nodeControlTick (.failed 1), .setBypass false,
    .nodeControlTick .done]

theorem revertedBypass_left_on :
    ∃ w, Transition.run step cleanNode revertedBypass = some w ∧ w.control.bypassEnabled = false ∧
      w.bypass.asserted = some w.desiredBypass ∧ w.bypass.plane ≠ UInt32.ofNat w.desiredBypass :=
  ⟨_, rfl, rfl, rfl, by decide⟩

end ScrubbingGateway.Control.NodeSwitches
