import ScrubbingGateway.Apply.WhitelistMembership

/-!
# When the whitelist loop comes to an end

The index of the loop over a whitelist has 16 bits, and the parser lets through lists of up to 2^20
entries. A service is written in finitely many steps exactly when its list can be counted, or when
an entry that the index reaches is refused.
-/

namespace ScrubbingGateway.Apply

open DataPlane Prog

/-- The entries that the index of the loop can reach. -/
def reachedEntries (s : CfgService) : List CfgSource := s.wl.take 65536

/-- A service whose writes come to an end whatever the maps hold. -/
def EndsWriting (s : CfgService) : Prop :=
  s.wl.length < 65536 ∨ serviceOk s = false ∨ ∃ e ∈ reachedEntries s, 32 < e.prefixlen

instance (s : CfgService) : Decidable (EndsWriting s) := inferInstanceAs (Decidable (_ ∨ _ ∨ _))

/-! ## Services that are written -/

section Ending

variable {fd : Outer → MapId} {s : CfgService}

theorem total_writeWhitelistEntry_of_long (fd : Outer → MapId) (id : UInt32) {e : CfgSource}
    (long : 32 < e.prefixlen) {β : Type} (f : Unit → ConfigProg β) :
    Total (writeWhitelistEntry fd id e >>= f) := by
  have refused : writeWhitelistEntry fd id e = .fail := by
    have unmet : decide (e.prefixlen ≤ 32) = false := decide_eq_false (UInt32.not_le.mpr long)
    rw [writeWhitelistEntry, unmet]
    rfl
  rw [refused]
  trivial

/-- The loop ends at an entry that is refused, if it comes before the index wraps around. -/
theorem total_writeWhitelist_of_long (fd : Outer → MapId) (id : UInt32) {wl : List CfgSource}
    {j : Nat} {e : CfgSource} (reached : j < 65536) (found : wl[j]? = some e)
    (long : 32 < e.prefixlen) (fuel : Nat) (i : UInt16) (before : i.toNat ≤ j)
    (enough : j < i.toNat + fuel) : Total (writeWhitelist fd id wl fuel i) := by
  induction fuel generalizing i with
  | zero => omega
  | succ fuel ih =>
    unfold writeWhitelist
    split
    · trivial
    next source here =>
      by_cases same : i.toNat = j
      · rw [same, found] at here
        cases here
        exact total_writeWhitelistEntry_of_long fd id long _
      · have next : (i + 1).toNat = i.toNat + 1 := by
          rw [UInt16.toNat_add]
          simp only [UInt16.reduceToNat]
          omega
        apply (total_writeWhitelistEntry fd id source).bind
        intro _
        apply ih <;> omega

theorem EndsWriting.total (ends : EndsWriting s) (fd : Outer → MapId) (knobs : Knobs)
    (sum : UInt64) : Total (applyWriteService fd knobs 65536 sum s) := by
  apply total_applyWriteService_of_whitelist
  intro ok
  rcases ends with few | refused | ⟨e, member, long⟩
  · exact total_writeWhitelist fd s.dpId few 65536 0 (by simpa using few) (Nat.zero_le _)
  · rw [ok] at refused
    cases refused
  · obtain ⟨j, inside, rfl⟩ := List.getElem_of_mem member
    rw [reachedEntries, List.length_take] at inside
    have reached : j < 65536 := by omega
    apply total_writeWhitelist_of_long fd s.dpId reached _ long 65536 0 (Nat.zero_le _)
    · simpa using reached
    · rw [List.getElem?_eq_getElem (by omega)]
      simp [reachedEntries]

end Ending

/-! ## Services that are never written -/

section Hanging

variable {fd : Outer → MapId} {s : CfgService} {k : ConfigMaps}

/-- The keys a service puts into the maps before its index wraps around. -/
def reachedKeys (s : CfgService) : (o : Outer) → List o.Key :=
  snapshotKeys [{ s with wl := reachedEntries s }]

theorem roomy_reachedKeys (s : CfgService) : Roomy (reachedKeys s) := by
  intro o limit bounded
  cases o <;> cases bounded
  case whitelistLpm =>
    rw [reachedKeys, length_snapshotKeys_lpm]
    simp [whitelistTotal, reachedEntries]
  case globalBlacklistLpm => exact Nat.zero_le _
  case udpBlockedPortBitmap => exact Nat.zero_le _
  all_goals exact (by decide : 1 ≤ 1024)

/-- From 65536 entries on, the index finds an entry wherever it is, so the loop uses up any fuel. -/
theorem writeWhitelist_unfinished (many : 65536 ≤ s.wl.length)
    (short : ∀ e ∈ reachedEntries s, e.prefixlen ≤ 32) (confined : Confined fd (reachedKeys s) k)
    (fuel : Nat) (i : UInt16) :
    (eval configMachine (writeWhitelist fd s.dpId s.wl fuel i) k).1 = .unfinished := by
  induction fuel generalizing i k with
  | zero => rfl
  | succ fuel ih =>
    have inside : i.toNat < s.wl.length := i.toNat_lt.trans_le many
    rw [writeWhitelist, List.getElem?_eq_getElem inside]
    have listed : s.wl[i.toNat] ∈ reachedEntries s :=
      List.mem_take_iff_getElem.mpr ⟨i.toNat, by have := i.toNat_lt; omega, rfl⟩
    have bloomListed : wlBloomKey s.dpId s.wl[i.toNat].addr ∈ reachedKeys s .whitelistBloom :=
      List.mem_flatMap.mpr ⟨_, List.mem_singleton_self _, List.mem_map_of_mem listed⟩
    have lpmListed : wlLpmKey (32 + s.wl[i.toNat].prefixlen) s.dpId s.wl[i.toNat].addr ∈
        reachedKeys s .whitelistLpm :=
      List.mem_flatMap.mpr ⟨_, List.mem_singleton_self _, List.mem_map.mpr ⟨_, listed, rfl⟩⟩
    have written := writeWhitelistEntry_confined (roomy_reachedKeys s) bloomListed lpmListed
      (short _ listed) confined
    exact written.unfinished fun _ _ confined => ih confined (i + 1)

theorem applyWriteService_unfinished (ok : serviceOk s = true) (many : 65536 ≤ s.wl.length)
    (short : ∀ e ∈ reachedEntries s, e.prefixlen ≤ 32) (confined : Confined fd (reachedKeys s) k)
    (knobs : Knobs) (sum : UInt64) (fuel : Nat) :
    (eval configMachine (applyWriteService fd knobs fuel sum s) k).1 = .unfinished := by
  have roomy := roomy_reachedKeys s
  have destination : serviceKey s.dstPrefixlen s.dstAddr ∈ reachedKeys s .serviceMap :=
    List.mem_singleton_self _
  have own : s.dpId ∈ reachedKeys s .ruleBlockMap := List.mem_singleton_self _
  have valid := keyValid_of_serviceOk ok
  have checked : Works (fun _ now => Confined fd (reachedKeys s) now)
      (Prog.require (serviceOk s)) k := Runs.require (fun _ => confined) (.inr ok)
  unfold applyWriteService
  refine checked.unfinished ?_
  intro _ now confined
  refine (innerUpdate_confined roomy confined (by decide) destination valid _).unfinished ?_
  intro _ now confined
  refine (innerUpdate_confined roomy confined (by decide) own rfl _).unfinished ?_
  intro _ now confined
  exact unfinished_bind (writeWhitelist_unfinished many short confined fuel 0) _

theorem confined_loadedMaps (keys : (o : Outer) → List o.Key) :
    Confined (fun _ => 0) keys loadedMaps :=
  fun _ _ => ⟨∅, rfl, fun _ absent => absurd absent (AList.notMem_empty _)⟩

end Hanging

/-- Writing a service comes to an end from every state of the maps, whichever calls fail, exactly if
its whitelist has fewer than 65536 entries, or the service or an entry that the index reaches is
refused. -/
theorem writeService_finishes_iff (s : CfgService) :
    (∀ fd knobs sum k, Finishes configMachine
      (fun fuel => applyWriteService fd knobs fuel sum s) k) ↔ EndsWriting s := by
  constructor
  · intro finishes
    by_contra infinite
    simp only [EndsWriting, not_or, not_exists, not_and, UInt32.not_lt, Nat.not_lt,
      Bool.not_eq_false] at infinite
    obtain ⟨many, ok, short⟩ := infinite
    refine not_finishes_of_unfinished ?_ (finishes (fun _ => 0) ⟨0, 1, 1⟩ 0 loadedMaps)
    exact applyWriteService_unfinished ok many short (confined_loadedMaps _) ⟨0, 1, 1⟩ 0
  · intro ends fd knobs sum k
    obtain ⟨n, ended⟩ := (ends.total fd knobs sum).ends (m := configMachine) k
    exact ⟨65536, n, ended⟩

/-- A service whose whitelist names one host 65536 times. -/
def repeatedHost : CfgService where
  dstPrefixlen := 32
  dstAddr := 0xcb007101
  dpId := 7
  enabled := 1
  wlFlags := 1
  reserved0 := 0
  vipFlags := 0
  committedBps := 0
  ceilingBps := 0
  vipPps := 0
  vipBps := 0
  servicePps := 0
  serviceBps := 0
  svcRlFlags := 0
  rules := []
  wl := List.replicate 65536 ⟨32, 0x0a000001⟩

/-- The parser accepts the service, and writing it into empty maps never ends. -/
theorem repeatedHost_hangs :
    parseService (putService repeatedHost) = some (repeatedHost, []) ∧
      ¬Finishes configMachine (fun fuel => applyWriteService (fun _ => 0) ⟨0, 1, 1⟩ fuel 0
        repeatedHost) loadedMaps := by
  constructor
  · refine (parseService_exact _ _ _).mpr ⟨⟨rfl, Nat.zero_le _, ?_⟩, (List.append_nil _).symm⟩
    rw [repeatedHost, List.length_replicate]
    decide
  · apply not_finishes_of_unfinished
    apply applyWriteService_unfinished rfl _ _ (confined_loadedMaps _)
    · rw [repeatedHost, List.length_replicate]
    · intro e member
      rw [List.eq_of_mem_replicate (List.mem_of_mem_take member)]
      decide

end ScrubbingGateway.Apply
