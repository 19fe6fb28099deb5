import WordMachine.Proofs.Session.Reachable

/-!
# Limits hold in every state

A fresh machine that was given limits keeps them, whatever code it runs, from whatever address and
however often, and whatever the host answers. Its static bytes never change.

* `Session.Later` : the sessions that a session comes to while its limits stay as they are.
* `Machine.Within` : a machine within its limits.
* `Session.Later.limits_hold` : what this says of the stacks, the heap and the static bytes.
-/

namespace WordMachine

/-! ## Machines within limits -/

/-- A machine that has given limits and keeps them, over given static bytes. -/
structure Machine.Within (fixed : Std.ExtTreeMap Nat UInt8) (limits : Limits) (m : Machine) :
    Prop where
  stackLimit : m.stack.limit = limits.maxStackBytes
  stackFits : m.StackFits
  callLimit : m.calls.limit = limits.maxCallDepth
  callsFit : m.calls.depth ≤ m.calls.limit
  heapLimit : m.memory.limit = limits.maxHeapBytes
  heapFits : m.memory.inUse ≤ m.memory.limit
  heap : m.memory.HeapInvariant
  fixed_eq : m.memory.fixed = fixed

variable {fixed : Std.ExtTreeMap Nat UInt8} {limits : Limits}

/-- A fresh machine has no live blocks, so its heap may go on at any base. -/
theorem Machine.within_withLimits (fixed : Std.ExtTreeMap Nat UInt8) (limits : Limits) :
    ((ofFixed fixed).withLimits limits).Within fixed limits where
  stackLimit := rfl
  stackFits := Nat.zero_le _
  callLimit := rfl
  callsFit := Nat.zero_le _
  heapLimit := rfl
  heapFits := Nat.zero_le _
  heap := ((Memory.heapInvariant_ofFixed fixed _).setHeapBase rfl _).setHeapLimit _
  fixed_eq := rfl

theorem Memory.inUse_discard_le {m : Memory} (h : m.HeapInvariant) (start stop : Nat) :
    (m.discard start stop).inUse ≤ m.inUse := by
  simp only [discard, Extents.foldl_overlap_touching start stop h.ordered]
  exact Nat.sub_le _ _

/-- Every change to a stack or to the heap checks its limit or makes room, and none changes a limit
or a static byte. -/
theorem Machine.stable_within (fixed : Std.ExtTreeMap Nat UInt8) (limits : Limits) :
    Machine.Stable (Machine.Within fixed limits) where
  journal _ h := { h with }
  counter _ h := { h with }
  registers _ h := { h with }
  descriptors _ h := { h with }
  drop n h := { h with stackFits := Machine.stable_stackFits.drop n h.stackFits }
  extend bytes h hroom :=
    { h with stackFits := Machine.stable_stackFits.extend bytes h.stackFits hroom }
  call a h hdepth := { h with callsFit := (Nat.add_comm _ _).trans_le hdepth }
  ret h := { h with callsFit := (Nat.sub_le _ _).trans h.callsFit }
  written written h := { h with heap := h.heap.written written }
  allocate {m size a memory} h hm := by
    have hheap := h.heap.allocate hm
    obtain ⟨hlimit, -, -, rfl⟩ := Memory.allocate_eq_ok.mp hm
    exact { h with heapFits := hlimit, heap := hheap }
  release {m a size memory} h hm := by
    obtain ⟨-, -, rfl⟩ := Memory.release_eq_ok.mp hm
    have hheap := h.heap.discard (Nat.le_add_right a.offset size)
    have hinUse := Memory.inUse_discard_le h.heap a.offset (a.offset + size)
    exact { h with heapFits := hinUse.trans h.heapFits, heap := hheap }

/-! ## Later sessions -/

namespace Session

/-- The sessions that a session comes to: registers are set, runs are started, turns are taken, with
any code and any host, or are left while the host is asked, and its surroundings change. -/
inductive Later (s : Session) : Session → Prop where
  | refl : Later s s
  | setRegister {t : Session} (i : RegisterIndex) (value : UInt64) : Later s t →
    Later s { t with machine := t.machine.setRegister i value }
  | withInput {t : Session} (input : Input) : Later s t → Later s (t.withInput input)
  | withObserver {t : Session} (observer : Observer) : Later s t → Later s { t with observer }
  | withWorld {t : Session} (world : World) : Later s t → Later s { t with world }
  | start {t : Session} (code : Array Word) (entry : Address) : Later s t →
    Later s (t.start code entry)
  | begin {t : Session} (code : Array Word) : Later s t → Later s (t.begin code).session
  | turn {t : Session} (host : World → Request → Reply × World) (code : Array Word) : Later s t →
    Later s (t.turnWith host code).session

variable {s t : Session}

/-- A run ends in a later session. -/
theorem Later.run {code : Array Word} {bound : Nat} {ending : Ending} {u : Session}
    (ht : s.Later t) (h : Session.run code bound t = some (ending, u)) : s.Later u := by
  induction bound generalizing t with
  | zero => cases h
  | succ bound ih =>
    have hturn : s.Later (t.turn code).session := .turn World.answer code ht
    unfold Session.run at h
    split at h
    · rename_i v hv
      rw [hv] at hturn
      exact ih hturn h
    · rename_i ending v hv
      rw [hv] at hturn
      cases h
      exact hturn
    · cases h

theorem Later.execute {code : Array Word} {entry : Address} {bound : Nat} {ending : Ending}
    {u : Session} (ht : s.Later t) (h : t.execute code entry bound = some (ending, u)) :
    s.Later u :=
  (ht.start code entry).run h

/-- A stable property of a machine is one of all later ones. -/
theorem Later.invariant {I : Machine → Prop} (hI : Machine.Stable I) (hs : I s.machine)
    (ht : s.Later t) : I t.machine := by
  induction ht with
  | refl => exact hs
  | setRegister i value _ ih => exact hI.registers _ ih
  | withInput input _ ih => exact hI.descriptors _ ih
  | withObserver observer _ ih => exact ih
  | withWorld world _ ih => exact ih
  | start code entry _ ih => exact hI.journal _ (hI.counter entry ih)
  | begin code _ ih => exact keeps_begin hI code ih
  | turn host code _ ih => exact keeps_turnWith hI host code ih

/-- In every state that a fresh machine with given limits comes to, both stacks and the heap are
within these limits, the bytes in use are those of the live blocks, and every read of a static
address gives what it gave when the machine was made. -/
theorem Later.limits_hold {observer : Observer} {world : World}
    (hs : Later { machine := (Machine.ofFixed fixed).withLimits limits, observer, world } s) :
    s.machine.stack.depth ≤ limits.maxStackBytes ∧
    s.machine.calls.depth ≤ limits.maxCallDepth ∧
    s.machine.memory.inUse ≤ limits.maxHeapBytes ∧
    s.machine.memory.inUse = (s.machine.memory.extents.map Extent.size).sum ∧
    ∀ a : Address, a.space = .static →
      let m := (Machine.ofFixed fixed).memory
      s.machine.memory.read a = m.read a ∧
      (∀ length, s.machine.memory.readBytes a length = m.readBytes a length) ∧
      (∀ width, s.machine.memory.readValue a width = m.readValue a width) ∧
      s.machine.memory.readString a = m.readString a := by
  have h : s.machine.Within fixed limits :=
    hs.invariant (Machine.stable_within fixed limits) (Machine.within_withLimits fixed limits)
  have hbyte : ∀ offset, s.machine.memory.byte? .static offset =
      (Machine.ofFixed fixed).memory.byte? .static offset := by
    intro offset
    simp only [Memory.byte?, h.fixed_eq]
    rfl
  refine ⟨h.stackFits.trans_eq h.stackLimit, h.callsFit.trans_eq h.callLimit,
    h.heapFits.trans_eq h.heapLimit, h.heap.inUse_eq, fun a ha => ?_⟩
  have hbytes := fun length => Memory.readBytes_congr hbyte ha length
  refine ⟨?_, hbytes, fun width => ?_, Memory.readString_congr hbyte ha⟩
  · unfold Memory.read
    rw [ha, Memory.readAt_congr hbyte]
  · unfold Memory.readValue
    rw [hbytes]

/-- Pushes eight bytes and calls itself. -/
def recursing : Array Word := #[.ofOperands (.pushRegister .double) 1 0, .ofOperands .call 0 0]

/-- Room for two pushes and two calls, and for no heap. -/
def tightLimits : Limits :=
  { maxStackBytes := 20, maxCallDepth := 2, heapBase := 0x8000000000000010, maxHeapBytes := 0 }

/-- A fresh session with tight limits. -/
def tightSession : Session := { machine := (Machine.ofLiteral [7]).withLimits tightLimits }

theorem limits_hold_recursing : ∃ u : Session,
    tightSession.execute recursing ⟨0⟩ 5 = some (.error (.stackOverflow 20), u) ∧
    tightSession.Later u ∧ u.machine.stack.depth ≤ 20 ∧ u.machine.calls.depth ≤ 2 ∧
    u.machine.memory.inUse ≤ 0 ∧
    u.machine.memory.read ⟨0x8000000000000000⟩ = .ok 7 := by
  obtain ⟨u, hu⟩ : ∃ u : Session,
      tightSession.execute recursing ⟨0⟩ 5 = some (.error (.stackOverflow 20), u) := ⟨_, rfl⟩
  have hlater : tightSession.Later u := Later.refl.execute hu
  obtain ⟨hstack, hcalls, hheap, -, hstatic⟩ :=
    @Later.limits_hold (Memory.overlay ∅ 0 [7]) tightLimits u .silent {} hlater
  exact ⟨u, hu, hlater, hstack, hcalls, hheap, (hstatic ⟨0x8000000000000000⟩ rfl).1⟩

end Session

end WordMachine
