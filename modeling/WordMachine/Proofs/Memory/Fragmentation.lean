import WordMachine.Proofs.Memory.Coverage

/-!
# How blocks are split cannot be observed

Releasing the same offsets in other pieces, in another order or more than once leaves other blocks:
even an empty piece splits the block it lies in. But reading asks whether an offset is covered, not
by which block, and reserving asks for the next offset and the bytes in use, which are as many as
the covered offsets. So two memories with the same written bytes and the same covered offsets answer
alike, and whatever is done to both, they stay so.

* `Memory.Twin` : memories that differ in how their blocks are split only.
* `Memory.Query`, `Memory.transcript` : what can be asked of a memory, and its answers.
* `Memory.Twin.ask`, `Memory.Twin.transcript_eq` : twins answer alike and stay twins.
* `Memory.fragmentation_unobservable` : releasing the same offsets in two ways.
-/

namespace WordMachine

namespace Memory

/-! ## Releasing in pieces -/

/-- A piece to release: an address, and how many bytes from there on. -/
structure Piece where
  address : Address
  size : Nat
  deriving DecidableEq, Repr

/-- An offset lies in a piece. -/
def Piece.Holds (p : Piece) (offset : Nat) : Prop :=
  p.address.offset ≤ offset ∧ offset < p.address.offset + p.size

/-- Release pieces one after the other, up to the first failure. -/
def releaseAll (m : Memory) : List Piece → Except Fault Memory
  | [] => .ok m
  | p :: ps =>
    match m.release p.address p.size with
    | .ok m' => m'.releaseAll ps
    | .error e => .error e

/-- A memory without the offsets in a set. Nothing is said about how its blocks are split. -/
structure Without (gone : Nat → Prop) (m m' : Memory) : Prop where
  heap : m'.HeapInvariant
  written_gone {offset : Nat} : gone offset → m'.written[offset]? = none
  written_kept {offset : Nat} : ¬ gone offset → m'.written[offset]? = m.written[offset]?
  covers_iff (offset : Nat) : Extents.covers m'.extents offset = true ↔
    Extents.covers m.extents offset = true ∧ ¬ gone offset
  fixed_eq : m'.fixed = m.fixed
  next_eq : m'.next = m.next
  limit_eq : m'.limit = m.limit

theorem without_nil {m : Memory} (h : m.HeapInvariant) : m.Without (fun _ => False) m where
  heap := h
  written_gone hgone := hgone.elim
  written_kept _ := rfl
  covers_iff offset := by simp
  fixed_eq := rfl
  next_eq := rfl
  limit_eq := rfl

theorem without_discard {m : Memory} (h : m.HeapInvariant) {start stop : Nat}
    (hle : start ≤ stop) :
    m.Without (fun offset => start ≤ offset ∧ offset < stop) (m.discard start stop) where
  heap := h.discard hle
  written_gone hgone := by rw [getElem?_written_discard, if_pos hgone]
  written_kept hkept := by rw [getElem?_written_discard, if_neg hkept]
  covers_iff offset := h.covers_discard hle offset
  fixed_eq := rfl
  next_eq := rfl
  limit_eq := rfl

theorem Without.trans {gone gone' : Nat → Prop} {m m₁ m₂ : Memory} (h : m.Without gone m₁)
    (h' : m₁.Without gone' m₂) : m.Without (fun offset => gone offset ∨ gone' offset) m₂ where
  heap := h'.heap
  written_gone {offset} hgone := by
    by_cases hgone' : gone' offset
    · exact h'.written_gone hgone'
    · rw [h'.written_kept hgone']
      exact h.written_gone (hgone.resolve_right hgone')
  written_kept hkept := by
    rw [not_or] at hkept
    rw [h'.written_kept hkept.2, h.written_kept hkept.1]
  covers_iff offset := by
    rw [h'.covers_iff, h.covers_iff, not_or, and_assoc]
  fixed_eq := h'.fixed_eq.trans h.fixed_eq
  next_eq := h'.next_eq.trans h.next_eq
  limit_eq := h'.limit_eq.trans h.limit_eq

theorem Without.of_iff {gone gone' : Nat → Prop} {m m' : Memory} (h : m.Without gone m')
    (hiff : ∀ offset, gone offset ↔ gone' offset) : m.Without gone' m' := by
  have hgone : gone = gone' := funext fun offset => propext (hiff offset)
  exact hgone ▸ h

/-- Releasing pieces leaves a memory without the offsets of all pieces. -/
theorem without_releaseAll {m m' : Memory} (h : m.HeapInvariant) {ps : List Piece}
    (hps : m.releaseAll ps = .ok m') :
    m.Without (fun offset => ∃ p ∈ ps, p.Holds offset) m' := by
  induction ps generalizing m with
  | nil =>
    cases hps
    exact (without_nil h).of_iff fun offset => by simp
  | cons p ps ih =>
    unfold releaseAll at hps
    split at hps
    · rename_i m₁ hm₁
      obtain ⟨-, -, rfl⟩ := release_eq_ok.mp hm₁
      have hfirst := without_discard h (Nat.le_add_right p.address.offset p.size)
      refine (hfirst.trans (ih hfirst.heap hps)).of_iff fun offset => ?_
      rw [List.exists_mem_cons_iff]
      rfl
    · cases hps

/-! ## Twins -/

/-- Two memories that differ in how their blocks are split only. -/
structure Twin (m m' : Memory) : Prop where
  heap : m.HeapInvariant
  heap' : m'.HeapInvariant
  written_eq : m'.written = m.written
  covers_eq (offset : Nat) : Extents.covers m'.extents offset = Extents.covers m.extents offset
  fixed_eq : m'.fixed = m.fixed
  next_eq : m'.next = m.next
  limit_eq : m'.limit = m.limit

theorem Without.twin {gone : Nat → Prop} {m m₁ m₂ : Memory} (h₁ : m.Without gone m₁)
    (h₂ : m.Without gone m₂) : m₁.Twin m₂ where
  heap := h₁.heap
  heap' := h₂.heap
  written_eq := by
    apply Std.ExtTreeMap.ext_getElem?
    intro offset
    by_cases hgone : gone offset
    · rw [h₁.written_gone hgone, h₂.written_gone hgone]
    · rw [h₁.written_kept hgone, h₂.written_kept hgone]
  covers_eq offset := by
    rw [Bool.eq_iff_iff, h₁.covers_iff, h₂.covers_iff]
  fixed_eq := h₂.fixed_eq.trans h₁.fixed_eq.symm
  next_eq := h₂.next_eq.trans h₁.next_eq.symm
  limit_eq := h₂.limit_eq.trans h₁.limit_eq.symm

section Twins

variable {m m' : Memory}

/-- Twins have as many bytes in use, because these are the covered offsets. -/
theorem Twin.inUse_eq (h : m.Twin m') : m'.inUse = m.inUse := by
  have hbelow : ∀ e ∈ m'.extents, e.stop ≤ m.next := fun e he => h.next_eq ▸ h.heap'.below e he
  rw [h.heap'.inUse_eq, h.heap.inUse_eq, Extents.total_eq_card h.heap'.ordered hbelow,
    Extents.total_eq_card h.heap.ordered h.heap.below]
  simp only [h.covers_eq]

theorem Twin.byte?_eq (h : m.Twin m') (space : Space) (offset : Nat) :
    m'.byte? space offset = m.byte? space offset := by
  cases space with
  | static => simp only [byte?, h.fixed_eq]
  | dynamic => simp only [byte?, h.written_eq, h.covers_eq]

theorem Twin.withWritten (h : m.Twin m') (written : Std.ExtTreeMap Nat UInt8) :
    Twin { m with written } { m' with written } :=
  { h with heap := h.heap.written written, heap' := h.heap'.written written, written_eq := rfl }

theorem Twin.withLimit (h : m.Twin m') (limit : Nat) :
    Twin (m.setHeapLimit limit) (m'.setHeapLimit limit) :=
  { h with heap := h.heap.setHeapLimit limit, heap' := h.heap'.setHeapLimit limit, limit_eq := rfl }

theorem Twin.discard (h : m.Twin m') {start stop : Nat} (hle : start ≤ stop) :
    Twin (m.discard start stop) (m'.discard start stop) where
  heap := h.heap.discard hle
  heap' := h.heap'.discard hle
  written_eq := by simp only [Memory.discard, h.written_eq]
  covers_eq offset := by
    rw [Bool.eq_iff_iff, h.heap.covers_discard hle, h.heap'.covers_discard hle, h.covers_eq]
  fixed_eq := h.fixed_eq
  next_eq := h.next_eq
  limit_eq := h.limit_eq

theorem Twin.allocate_ok (h : m.Twin m') {size : Nat} {a : Address} {m₁ : Memory}
    (hm : m.allocate size = .ok (a, m₁)) :
    ∃ m₁', m'.allocate size = .ok (a, m₁') ∧ m₁.Twin m₁' := by
  obtain ⟨m₁', hm'⟩ : ∃ m₁', m'.allocate size = .ok (a, m₁') := by
    obtain ⟨hlimit, hspan, ha, -⟩ := allocate_eq_ok.mp hm
    refine ⟨_, allocate_eq_ok.mpr ⟨?_, ?_, ?_, rfl⟩⟩
    · rwa [h.inUse_eq, h.limit_eq]
    · rwa [h.next_eq]
    · rwa [h.next_eq]
  -- The new block starts at the next offset, which is the same in both.
  have hcovers (offset : Nat) :
      Extents.covers m₁'.extents offset = Extents.covers m₁.extents offset := by
    rw [Bool.eq_iff_iff, h.heap'.covers_allocate hm', h.heap.covers_allocate hm, h.next_eq,
      h.covers_eq]
  refine ⟨m₁', hm', h.heap.allocate hm, h.heap'.allocate hm', ?_, hcovers, ?_, ?_, ?_⟩
  all_goals
    obtain ⟨-, -, -, rfl⟩ := allocate_eq_ok.mp hm
    obtain ⟨-, -, -, rfl⟩ := allocate_eq_ok.mp hm'
  · exact h.written_eq
  · exact h.fixed_eq
  · simp only [h.next_eq]
  · exact h.limit_eq

theorem Twin.allocate_error (h : m.Twin m') {size : Nat} {f : Fault}
    (hm : m.allocate size = .error f) : m'.allocate size = .error f := by
  rw [← hm]
  unfold Memory.allocate at hm ⊢
  rw [h.inUse_eq, h.limit_eq, h.next_eq]
  split
  · rfl
  · rename_i hroom
    rw [if_neg hroom] at hm
    cases hm

end Twins

/-! ## Questions and answers -/

/-- What can be asked of a memory: some of its bytes, or a change. Moving the heap base is not
among them. -/
inductive Query where
  | read (a : Address)
  | readBytes (a : Address) (length : Nat)
  | readValue (a : Address) (width : Nat)
  | readString (a : Address)
  | write (a : Address) (b : UInt8)
  | writeBytes (a : Address) (bytes : List UInt8)
  | writeValue (a : Address) (value : UInt64) (width : Nat)
  | allocate (size : Nat)
  | release (a : Address) (size : Nat)
  | setHeapLimit (limit : Nat)

/-- What a memory answers if it does not fail. -/
inductive Answer where
  | byte (b : UInt8)
  | bytes (bs : List UInt8)
  | value (v : UInt64)
  | address (a : Address)
  | done

/-- The answer and the memory afterwards. -/
def Query.ask (m : Memory) : Query → Except Fault (Answer × Memory)
  | read a => (m.read a).map fun b => (.byte b, m)
  | readBytes a length => (m.readBytes a length).map fun bs => (.bytes bs, m)
  | readValue a width => (m.readValue a width).map fun v => (.value v, m)
  | readString a => (m.readString a).map fun bs => (.bytes bs, m)
  | write a b => (m.write a b).map fun m' => (.done, m')
  | writeBytes a bytes => (m.writeBytes a bytes).map fun m' => (.done, m')
  | writeValue a value width => (m.writeValue a value width).map fun m' => (.done, m')
  | allocate size => (m.allocate size).map fun p => (.address p.1, p.2)
  | release a size => (m.release a size).map fun m' => (.done, m')
  | setHeapLimit limit => .ok (.done, m.setHeapLimit limit)

/-- The answers to questions asked one after the other, failures among them, each with the bytes in
use afterwards. A question that fails leaves the memory as it is. -/
def transcript (m : Memory) : List Query → List (Except Fault Answer × Nat)
  | [] => []
  | q :: qs =>
    match q.ask m with
    | .ok (answer, m') => (.ok answer, m'.inUse) :: m'.transcript qs
    | .error f => (.error f, m.inUse) :: m.transcript qs

/-- The same answer, with twins afterwards, or the same fault. -/
inductive AnsweredAlike : (r r' : Except Fault (Answer × Memory)) → Prop
  | ok {m m' : Memory} (answer : Answer) (h : m.Twin m') :
    AnsweredAlike (.ok (answer, m)) (.ok (answer, m'))
  | error (f : Fault) : AnsweredAlike (.error f) (.error f)

section Questions

variable {m m' : Memory} (h : m.Twin m')

include h

theorem Twin.reading {α : Type} {r r' : Except Fault α} (hr : r' = r) (answer : α → Answer) :
    AnsweredAlike (r.map fun x => (answer x, m)) (r'.map fun x => (answer x, m')) := by
  subst hr
  cases r' with
  | error f => exact .error f
  | ok x => exact .ok (answer x) h

theorem Twin.write (a : Address) (b : UInt8) :
    AnsweredAlike ((m.write a b).map fun m₁ => (.done, m₁))
      ((m'.write a b).map fun m₁ => (.done, m₁)) := by
  unfold Memory.write
  cases a.space with
  | static => exact .error _
  | dynamic =>
    refine .ok .done ?_
    rw [h.written_eq]
    exact h.withWritten _

theorem Twin.writeBytes (a : Address) (bytes : List UInt8) :
    AnsweredAlike ((m.writeBytes a bytes).map fun m₁ => (.done, m₁))
      ((m'.writeBytes a bytes).map fun m₁ => (.done, m₁)) := by
  unfold Memory.writeBytes checkSpan
  by_cases hspan : a.offset + bytes.length ≤ spaceSize
  · rw [if_pos hspan]
    cases a.space with
    | dynamic =>
      refine .ok .done ?_
      rw [h.written_eq]
      exact h.withWritten _
    | static =>
      cases bytes with
      | nil => exact .ok .done h
      | cons b bs => exact .error _
  · rw [if_neg hspan]
    exact .error _

theorem Twin.writeValue (a : Address) (value : UInt64) (width : Nat) :
    AnsweredAlike ((m.writeValue a value width).map fun m₁ => (.done, m₁))
      ((m'.writeValue a value width).map fun m₁ => (.done, m₁)) := by
  unfold Memory.writeValue
  by_cases hwidth : 8 < width
  · rw [if_pos hwidth, if_pos hwidth]
    exact .error _
  · rw [if_neg hwidth, if_neg hwidth]
    exact h.writeBytes a _

theorem Twin.allocate (size : Nat) :
    AnsweredAlike ((m.allocate size).map fun p => (.address p.1, p.2))
      ((m'.allocate size).map fun p => (.address p.1, p.2)) := by
  cases hm : m.allocate size with
  | error f =>
    rw [h.allocate_error hm]
    exact .error f
  | ok p =>
    obtain ⟨m₁', hm', htwin⟩ := h.allocate_ok hm
    rw [hm']
    exact .ok (.address p.1) htwin

theorem Twin.release (a : Address) (size : Nat) :
    AnsweredAlike ((m.release a size).map fun m₁ => (.done, m₁))
      ((m'.release a size).map fun m₁ => (.done, m₁)) := by
  unfold Memory.release checkSpan
  cases a.space with
  | static => exact .error _
  | dynamic =>
    by_cases hspan : a.offset + size ≤ spaceSize
    · rw [if_pos hspan]
      exact .ok .done (h.discard (Nat.le_add_right a.offset size))
    · rw [if_neg hspan]
      exact .error _

/-- Twins answer every question alike and are twins afterwards. -/
theorem Twin.ask (q : Query) : AnsweredAlike (q.ask m) (q.ask m') := by
  have hbytes : ∀ a length, m'.readBytes a length = m.readBytes a length := fun a length =>
    readBytes_congr (h.byte?_eq a.space) rfl length
  cases q with
  | read a => exact h.reading (readAt_congr (h.byte?_eq a.space) a.offset) .byte
  | readBytes a length => exact h.reading (hbytes a length) .bytes
  | readValue a width =>
    refine h.reading ?_ .value
    unfold Memory.readValue
    rw [hbytes]
  | readString a => exact h.reading (readString_congr (h.byte?_eq a.space) rfl) .bytes
  | write a b => exact h.write a b
  | writeBytes a bytes => exact h.writeBytes a bytes
  | writeValue a value width => exact h.writeValue a value width
  | allocate size => exact h.allocate size
  | release a size => exact h.release a size
  | setHeapLimit limit => exact .ok .done (h.withLimit limit)

end Questions

/-- No sequence of questions tells twins apart. -/
theorem Twin.transcript_eq {m m' : Memory} (h : m.Twin m') (qs : List Query) :
    m'.transcript qs = m.transcript qs := by
  -- The memories change with each answer, so the induction is for all twins at once.
  induction qs generalizing m m' with
  | nil => rfl
  | cons q qs ih =>
    have hask := h.ask q
    unfold transcript
    generalize q.ask m = r, q.ask m' = r' at hask
    cases hask with
    | ok answer htwin =>
      dsimp only
      rw [htwin.inUse_eq, ih htwin]
    | error f =>
      dsimp only
      rw [h.inUse_eq, ih h]

/-- Two ways to release the same offsets of a heap, in any order and in any pieces, empty ones and
ones that overlap or were released before among them, cannot be told apart: the bytes in use are
as many, and all later questions are answered alike, failures included. -/
theorem fragmentation_unobservable (fixed : Std.ExtTreeMap Nat UInt8) (heapBase : Nat)
    {ops : List Operation} (hops : BaseSetFirst ops) {m₁ m₂ : Memory} {ps qs : List Piece}
    (h₁ : ((ofFixed fixed heapBase).after ops).releaseAll ps = .ok m₁)
    (h₂ : ((ofFixed fixed heapBase).after ops).releaseAll qs = .ok m₂)
    (hsame : ∀ offset, (∃ p ∈ ps, p.Holds offset) ↔ ∃ q ∈ qs, q.Holds offset) :
    m₁.inUse = m₂.inUse ∧ ∀ queries, m₁.transcript queries = m₂.transcript queries := by
  have hheap := heapInvariant_after fixed heapBase hops
  have hfirst := without_releaseAll hheap h₁
  have hsecond := (without_releaseAll hheap h₂).of_iff fun offset => (hsame offset).symm
  have htwin := hfirst.twin hsecond
  exact ⟨htwin.inUse_eq.symm, fun queries => (htwin.transcript_eq queries).symm⟩

/-- A block of eight bytes, with one written. -/
def oneBlock : List Operation := [.setHeapBase 0x10, .allocate 8, .write ⟨0x12⟩ 7]

theorem exists_of_extents {r : Except Fault Memory} {xs : List Extent}
    (h : r.map extents = .ok xs) : ∃ m, r = .ok m ∧ m.extents = xs := by
  cases r with
  | error f => cases h
  | ok m => exact ⟨m, rfl, Except.ok.inj h⟩

/-- Four bytes inside the block at once, or in pieces that overlap, with an empty one behind. -/
theorem fragmentation_unobservable_pieces : ∃ m₁ m₂,
    ((ofFixed ∅ 0).after oneBlock).releaseAll [⟨⟨0x11⟩, 4⟩] = .ok m₁ ∧
    ((ofFixed ∅ 0).after oneBlock).releaseAll
      [⟨⟨0x13⟩, 2⟩, ⟨⟨0x17⟩, 0⟩, ⟨⟨0x11⟩, 3⟩, ⟨⟨0x12⟩, 1⟩] = .ok m₂ ∧
    m₁.extents = [⟨0x15, 3⟩, ⟨0x10, 1⟩] ∧ m₂.extents = [⟨0x17, 1⟩, ⟨0x15, 2⟩, ⟨0x10, 1⟩] ∧
    m₁.inUse = m₂.inUse ∧ ∀ queries, m₁.transcript queries = m₂.transcript queries := by
  have hops : BaseSetFirst oneBlock :=
    ⟨oneBlock.take 1, oneBlock.drop 1, rfl, by simp [oneBlock], by simp [oneBlock]⟩
  have hone : (((ofFixed ∅ 0).after oneBlock).releaseAll [⟨⟨0x11⟩, 4⟩]).map extents =
      .ok [⟨0x15, 3⟩, ⟨0x10, 1⟩] := by decide +kernel
  have hpieces : (((ofFixed ∅ 0).after oneBlock).releaseAll
      [⟨⟨0x13⟩, 2⟩, ⟨⟨0x17⟩, 0⟩, ⟨⟨0x11⟩, 3⟩, ⟨⟨0x12⟩, 1⟩]).map extents =
      .ok [⟨0x17, 1⟩, ⟨0x15, 2⟩, ⟨0x10, 1⟩] := by decide +kernel
  obtain ⟨m₁, h₁, he₁⟩ := exists_of_extents hone
  obtain ⟨m₂, h₂, he₂⟩ := exists_of_extents hpieces
  refine ⟨m₁, m₂, h₁, h₂, he₁, he₂, fragmentation_unobservable ∅ 0 hops h₁ h₂ fun offset => ?_⟩
  simp only [List.exists_mem_cons_iff, List.not_mem_nil, false_and, exists_false, or_false,
    Piece.Holds, Address.offset, Address.toNat, spaceSize, UInt64.reduceToNat]
  omega

end Memory

end WordMachine
