import Mathlib.Algebra.BigOperators.Group.List.Basic
import WordMachine.Proofs.Session.HostCall

/-!
# Widths on the calculation stack

A value is pushed least significant byte first, so its most significant bytes are on top. It can be
popped in pieces, whose widths make up its own: the piece that was popped first has the most
significant bytes. Pushed again in the opposite order, the pieces make up the value.

* `ByteStack.popAll`, `ByteStack.pushAll` : transfers one after the other.
* `ByteStack.groups` : the pieces of a number, the most significant first.
* `ByteStack.widths_split_and_join` : a value and its pieces on the stack.
-/

namespace WordMachine

open Effect

namespace ByteStack

/-- Pop values of given widths, one after the other. -/
def popAll (s : ByteStack) : List Nat → Except Fault (List UInt64 × ByteStack)
  | [] => .ok ([], s)
  | width :: widths =>
    match s.pop width with
    | .error fault => .error fault
    | .ok (value, s) => (popAll s widths).map fun (values, s) => (value :: values, s)

/-- Push values in given widths, one after the other. -/
def pushAll (s : ByteStack) (values : List (UInt64 × Nat)) : Except Fault ByteStack :=
  values.foldlM (fun s (value, width) => s.push value width) s

/-- The pieces of a number in given widths, the last of them its least significant bytes. -/
def groups (n : Nat) : List Nat → List UInt64
  | [] => []
  | width :: widths => UInt64.ofNat (n / 256 ^ widths.sum % 256 ^ width) :: groups n widths

/-! ## Pieces -/

theorem length_groups (n : Nat) (widths : List Nat) : (groups n widths).length = widths.length := by
  induction widths with
  | nil => rfl
  | cons width widths ih => simp [groups, ih]

theorem toNat_piece (v : UInt64) (place width : Nat) :
    (UInt64.ofNat (v.toNat / 256 ^ place % 256 ^ width)).toNat =
      v.toNat / 256 ^ place % 256 ^ width := by
  apply UInt64.toNat_ofNat_of_lt'
  calc v.toNat / 256 ^ place % 256 ^ width
      ≤ v.toNat / 256 ^ place := Nat.mod_le _ _
    _ ≤ v.toNat := Nat.div_le_self _ _
    _ < 2 ^ 64 := v.toNat_lt

/-- The place of a piece is the width of all that is popped after it. -/
theorem getElem_groups (v : UInt64) (widths : List Nat) {i : Nat} (hi : i < widths.length) :
    ((groups v.toNat widths)[i]?).map UInt64.toNat =
      some (v.toNat / 256 ^ (widths.drop (i + 1)).sum % 256 ^ widths[i]) := by
  induction widths generalizing i with
  | nil => simp at hi
  | cons width widths ih =>
    cases i with
    | zero =>
      simp only [groups, List.getElem?_cons_zero, Option.map_some, toNat_piece,
        List.getElem_cons_zero, List.drop_succ_cons, List.drop_zero, Nat.zero_add]
    | succ i =>
      have hrest := ih (Nat.lt_of_succ_lt_succ hi)
      simpa only [groups, List.getElem?_cons_succ, List.getElem_cons_succ,
        List.drop_succ_cons] using hrest

/-! ## Popping and pushing -/

theorem popAll_extend (s : ByteStack) (n : Nat) (widths : List Nat) :
    popAll (s.extend (littleEndian widths.sum n)) widths = .ok (groups n widths, s) := by
  induction widths with
  | nil =>
    rw [List.sum_nil, littleEndian, Stack.extend_nil]
    rfl
  | cons width widths ih =>
    rw [List.sum_cons, Nat.add_comm, littleEndian_add, Stack.extend_append, popAll,
      pop_littleEndian]
    dsimp only
    rw [ih]
    rfl

theorem pushAll_groups {s : ByteStack} (v : UInt64) {widths : List Nat}
    (hwidth : widths.sum ≤ 8) (hroom : s.depth + widths.sum ≤ s.limit) :
    s.pushAll ((groups v.toNat widths).zip widths).reverse =
      .ok (s.extend (littleEndian widths.sum v.toNat)) := by
  induction widths with
  | nil =>
    rw [List.sum_nil, littleEndian, Stack.extend_nil]
    rfl
  | cons width widths ih =>
    rw [List.sum_cons] at hwidth hroom
    have hbelow := ih (by omega) (by omega)
    -- The piece that was popped first is pushed last, on top of all the others.
    have hlast : ByteStack.push (s.extend (littleEndian widths.sum v.toNat))
        (UInt64.ofNat (v.toNat / 256 ^ widths.sum % 256 ^ width)) width =
        .ok (s.extend (littleEndian (width :: widths).sum v.toNat)) := by
      refine push_eq_ok.mpr ⟨?_, by omega, ?_⟩
      · simp only [Stack.extend, length_littleEndian]
        omega
      · rw [toNat_piece, littleEndian_mod, ← Stack.extend_append, ← littleEndian_add,
          List.sum_cons, Nat.add_comm]
    unfold pushAll at hbelow ⊢
    rw [groups, List.zip_cons_cons, List.reverse_cons, List.foldlM_append, hbelow]
    change (ByteStack.push _ _ width >>= pure) = _
    rw [hlast]
    rfl

/-! ## Values and their pieces -/

/-- **Widths split and join.** If there is room for a value in a width up to eight, it is pushed.
Popped in any widths that make up this one, it comes in pieces, the most significant first: each is
what stands in the value above the bytes that are popped later, cut to its own width. The stack is
then the one before, and the pieces pushed in the opposite order, the least significant first, leave
the same stack as the value. A push over the limit and a pop of more bytes than there are fault, and
the machine is as before. -/
theorem widths_split_and_join (s : ByteStack) (v : UInt64) (w : Nat) :
    (w ≤ 8 → s.depth + w ≤ s.limit → ∃ t, s.push v w = .ok t ∧
      ∀ widths : List Nat, widths.sum = w → ∃ values,
        popAll t widths = .ok (values, s) ∧
        values.length = widths.length ∧
        (∀ i (hi : i < widths.length), values[i]?.map UInt64.toNat =
          some (v.toNat / 256 ^ (w - (widths.take (i + 1)).sum) % 256 ^ widths[i])) ∧
        s.pushAll (values.zip widths).reverse = .ok t) ∧
    (s.limit < s.depth + w → s.push v w = .error (.stackOverflow s.limit) ∧
      ∀ m : Machine, m.stack = s → Action.push v w m = .error (.stackOverflow s.limit) m) ∧
    (s.depth < w → s.pop w = .error (.stackUnderflow w s.depth) ∧
      ∀ m : Machine, m.stack = s → Action.pop w m = .error (.stackUnderflow w s.depth) m) := by
  refine ⟨?_, ?_, ?_⟩
  · intro hwidth hroom
    refine ⟨_, push_eq_ok.mpr ⟨hroom, hwidth, rfl⟩, ?_⟩
    intro widths hsum
    subst hsum
    refine ⟨groups v.toNat widths, popAll_extend s _ widths, length_groups _ _, ?_,
      pushAll_groups v hwidth hroom⟩
    intro i hi
    have hsplit := widths.sum_take_add_sum_drop (i + 1)
    have hplace : widths.sum - (widths.take (i + 1)).sum = (widths.drop (i + 1)).sum := by omega
    rw [hplace]
    exact getElem_groups v widths hi
  · intro hfull
    have hpush : s.push v w = .error (.stackOverflow s.limit) := if_pos hfull
    refine ⟨hpush, ?_⟩
    intro m hm
    subst hm
    exact Action.update_eq_error.mpr ⟨except_map_eq_error.mpr hpush, rfl⟩
  · intro hshort
    refine ⟨pop_eq_error.mpr ⟨hshort, rfl⟩, ?_⟩
    intro m hm
    subst hm
    exact Action.pop_eq_error.mpr ⟨hshort, rfl, rfl⟩

/-- One byte, and room for eight more. -/
def oneByte : ByteStack := ⟨[0xaa], 1, 9, rfl⟩

theorem widths_split_and_join_oneByte :
    (∃ t, oneByte.push 0x1122334455667788 8 = .ok t ∧
      ∃ values, popAll t [1, 0, 5, 2] = .ok (values, oneByte) ∧
        values[2]?.map UInt64.toNat = some 0x2233445566 ∧
        oneByte.pushAll (values.zip [1, 0, 5, 2]).reverse = .ok t) ∧
    oneByte.push 7 9 = .error (.stackOverflow 9) ∧
    oneByte.pop 2 = .error (.stackUnderflow 2 1) := by
  obtain ⟨hgoes, -⟩ := widths_split_and_join oneByte 0x1122334455667788 8
  obtain ⟨t, hpush, hpieces⟩ := hgoes (by decide) (by decide)
  obtain ⟨values, hpop, -, hvalues, hback⟩ := hpieces [1, 0, 5, 2] rfl
  obtain ⟨-, hfull, -⟩ := widths_split_and_join oneByte 7 9
  obtain ⟨-, -, hshort⟩ := widths_split_and_join oneByte 7 2
  exact ⟨⟨t, hpush, values, hpop, hvalues 2 (by decide), hback⟩, (hfull (by decide)).1,
    (hshort (by decide)).1⟩

end ByteStack

end WordMachine
