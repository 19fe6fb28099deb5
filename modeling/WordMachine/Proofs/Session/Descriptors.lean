import Mathlib.Data.List.Induction
import WordMachine.Proofs.Session.FileCalls

/-!
# Descriptors over any sequence of calls

Host functions are called one after the other. The table of open files is all that they share, so
its numbers depend on the history of the calls alone: how often the host opened a file before, and
which numbers were closed since. A number that was closed is below the next one and not in the
table, and no call changes that.

* `Session.history` : what was seen of the calls.
* `Tracks` : the table says what the history says.
* `Session.tracks` : it does, after any calls.
* `Session.descriptor_safety` : numbers, closing, and stale descriptors.
-/

namespace WordMachine

/-! ## The table -/

namespace Descriptors

variable {d : Descriptors} {number other : Nat}

theorem isOpen_register :
    d.register.isOpen number = true ↔ number = d.next ∨ d.isOpen number = true := by
  simp [isOpen, register]

theorem isOpen_forget :
    (d.forget other).isOpen number = true ↔ d.isOpen number = true ∧ number ≠ other := by
  simp [isOpen, forget]

/-- A number that named a file and does not any more. -/
def Spent (d : Descriptors) (number : Nat) : Prop :=
  3 ≤ number ∧ number < d.next ∧ d.isOpen number = false

theorem Spent.register (h : d.Spent number) : d.register.Spent number := by
  obtain ⟨hge, hlt, hclosed⟩ := h
  refine ⟨hge, Nat.lt_succ_of_lt hlt, Bool.eq_false_iff.mpr fun hopen => ?_⟩
  rcases isOpen_register.mp hopen with rfl | hopen
  · exact Nat.lt_irrefl _ hlt
  · simp [hclosed] at hopen

theorem Spent.forget (h : d.Spent number) (other : Nat) : (d.forget other).Spent number := by
  obtain ⟨hge, hlt, hclosed⟩ := h
  refine ⟨hge, hlt, Bool.eq_false_iff.mpr fun hopen => ?_⟩
  have hbefore := (isOpen_forget.mp hopen).1
  simp [hclosed] at hbefore

end Descriptors

/-! ## Histories -/

namespace Record

/-- A descriptor was handed out for a file that the host opened, and was not closed since. -/
def OpenAfter (history : List Record) (descriptor : UInt64) : Prop :=
  ∃ before r after, history = before ++ r :: after ∧ r.granted = true ∧
    r.result = some descriptor ∧ ∀ r' ∈ after, ¬ r'.Closes descriptor

theorem openAfter_concat {history : List Record} {r : Record} {descriptor : UInt64} :
    OpenAfter (history ++ [r]) descriptor ↔ (r.granted = true ∧ r.result = some descriptor) ∨
      (OpenAfter history descriptor ∧ ¬ r.Closes descriptor) := by
  constructor
  · rintro ⟨before, r', after, heq, hgranted, hresult, hkept⟩
    rcases after.eq_nil_or_concat' with rfl | ⟨after, last, rfl⟩
    · obtain ⟨-, ⟨⟩⟩ := List.append_inj' heq rfl
      exact .inl ⟨hgranted, hresult⟩
    · rw [← List.cons_append, ← List.append_assoc] at heq
      obtain ⟨rfl, ⟨⟩⟩ := List.append_inj' heq rfl
      refine .inr ⟨⟨before, r', after, rfl, hgranted, hresult, ?_⟩, hkept r (by simp)⟩
      intro r'' hr''
      exact hkept r'' (List.mem_append_left _ hr'')
  · rintro (⟨hgranted, hresult⟩ | ⟨⟨before, r', after, rfl, hgranted, hresult, hkept⟩, hclose⟩)
    · exact ⟨history, r, [], rfl, hgranted, hresult, by simp⟩
    · refine ⟨before, r', after ++ [r], by simp, hgranted, hresult, ?_⟩
      intro r'' hr''
      rcases List.mem_append.mp hr'' with hr'' | hr''
      · exact hkept r'' hr''
      · rwa [List.mem_singleton.mp hr'']

theorem Closes.granted {r : Record} {descriptor : UInt64} (h : r.Closes descriptor) :
    r.granted = false := by
  simp [Record.granted, h.1.1]

/-- A call closes one descriptor. -/
theorem Closes.eq {r : Record} {descriptor other : UInt64} (h : r.Closes descriptor)
    (h' : r.Closes other) : other = descriptor := by
  have htop := h'.1.2.symm.trans h.1.2
  simpa using htop

end Record

namespace Session

/-- The calls that were made, oldest first. -/
def history (s : Session) : List HostCall → List Record
  | [] => []
  | c :: cs => s.record c :: (s.make c).2.history cs

/-- The session after some calls. -/
def afterCalls (s : Session) (calls : List HostCall) : Session :=
  calls.foldl (fun s c => (s.make c).2) s

theorem history_append (s : Session) (cs ds : List HostCall) :
    s.history (cs ++ ds) = s.history cs ++ (s.afterCalls cs).history ds := by
  induction cs generalizing s with
  | nil => rfl
  | cons c cs ih => exact congrArg (s.record c :: ·) (ih _)

theorem afterCalls_append (s : Session) (cs ds : List HostCall) :
    s.afterCalls (cs ++ ds) = (s.afterCalls cs).afterCalls ds := List.foldl_append

/-- A part of a history is the history of a part of the calls. -/
theorem history_eq_append_cons {s : Session} {calls : List HostCall} {before after : List Record}
    {r : Record} (h : s.history calls = before ++ r :: after) :
    ∃ cs c ds, calls = cs ++ c :: ds ∧ before = s.history cs ∧ r = (s.afterCalls cs).record c ∧
      after = (s.afterCalls (cs ++ [c])).history ds := by
  induction before generalizing s calls with
  | nil =>
    cases calls with
    | nil => cases h
    | cons c cs =>
      obtain ⟨rfl, rfl⟩ := List.cons.inj h
      exact ⟨[], c, cs, rfl, rfl, rfl, rfl⟩
  | cons r' before ih =>
    cases calls with
    | nil => cases h
    | cons c calls =>
      obtain ⟨rfl, hrest⟩ := List.cons.inj h
      obtain ⟨cs, c', ds, rfl, rfl, rfl, rfl⟩ := ih hrest
      exact ⟨c :: cs, c', ds, rfl, rfl, rfl, rfl⟩

end Session

/-! ## What the table says -/

/-- The table of open files says what the history of the calls says. -/
structure Tracks (history : List Record) (d : Descriptors) : Prop where
  next_eq : d.next = (history.filter Record.granted).length + 3
  range {number : Nat} : d.isOpen number = true → 3 ≤ number ∧ number < d.next
  isOpen_iff (descriptor : UInt64) :
    d.isOpen descriptor.toNat = true ↔ Record.OpenAfter history descriptor
  spent {r : Record} {descriptor : UInt64} : r ∈ history → r.Closes descriptor →
    d.Spent descriptor.toNat

namespace Tracks

variable {history : List Record} {r : Record} {d d' : Descriptors} {descriptor : UInt64}

theorem nil : Tracks [] {} where
  next_eq := rfl
  range h := by simp [Descriptors.isOpen] at h
  isOpen_iff descriptor := by simp [Descriptors.isOpen, Record.OpenAfter]
  spent h := by simp at h

theorem next_concat (h : Tracks history d) (hgranted : r.granted = false) :
    d.next = ((history ++ [r]).filter Record.granted).length + 3 := by
  have hnot : ¬ r.granted = true := by simp [hgranted]
  rw [List.filter_append, List.filter_cons_of_neg hnot, List.filter_nil, List.append_nil]
  exact h.next_eq

/-- Numbers spent before stay so, and the call spends the one that it closes. -/
theorem spent_concat (h : Tracks history d) (hold : ∀ {number}, d.Spent number → d'.Spent number)
    (hnew : ∀ {descriptor : UInt64}, r.Closes descriptor → d'.Spent descriptor.toNat) {r' : Record}
    (hmem : r' ∈ history ++ [r]) (hclose : r'.Closes descriptor) : d'.Spent descriptor.toNat := by
  rcases List.mem_append.mp hmem with hmem | hmem
  · exact hold (h.spent hmem hclose)
  · rw [List.mem_singleton.mp hmem] at hclose
    exact hnew hclose

theorem opened (h : Tracks history d) (hgranted : r.granted = true)
    (hresult : r.result = some (UInt64.ofNat d.next)) (hlt : d.next < 2 ^ 64) :
    Tracks (history ++ [r]) d.register := by
  have hnot : ∀ {descriptor}, ¬ r.Closes descriptor := by
    intro descriptor hclose
    simp [hclose.granted] at hgranted
  have hnext : d.register.next = d.next + 1 := rfl
  refine ⟨?_, ?_, ?_, h.spent_concat .register fun hclose => absurd hclose hnot⟩
  · rw [List.filter_append, List.filter_cons_of_pos hgranted, List.length_append, hnext, h.next_eq]
    rfl
  · intro number hopen
    rcases Descriptors.isOpen_register.mp hopen with rfl | hopen
    · have := h.next_eq
      omega
    · have := h.range hopen
      omega
  · intro descriptor
    have hnumber : descriptor.toNat = d.next ↔ r.result = some descriptor := by
      rw [hresult, Option.some_inj, ← UInt64.toNat_inj, UInt64.toNat_ofNat_of_lt' hlt, eq_comm]
    rw [Record.openAfter_concat, Descriptors.isOpen_register, h.isOpen_iff, hnumber]
    simp [hgranted, hnot]

theorem closed (h : Tracks history d) (hclose : r.Closes descriptor)
    (hopen : d.isOpen descriptor.toNat = true) :
    Tracks (history ++ [r]) (d.forget descriptor.toNat) := by
  refine ⟨h.next_concat hclose.granted, ?_, ?_, h.spent_concat (.forget · _) ?_⟩
  · intro number hopen'
    exact h.range (Descriptors.isOpen_forget.mp hopen').1
  · intro other
    have hother : r.Closes other ↔ other.toNat = descriptor.toNat := by
      rw [UInt64.toNat_inj]
      constructor
      · exact hclose.eq
      · rintro rfl
        exact hclose
    rw [Record.openAfter_concat, Descriptors.isOpen_forget, h.isOpen_iff, hother]
    simp [hclose.granted]
  · intro other hclose'
    obtain rfl := hclose.eq hclose'
    obtain ⟨hge, hlt⟩ := h.range hopen
    refine ⟨hge, hlt, Bool.eq_false_iff.mpr ?_⟩
    intro hstill
    exact (Descriptors.isOpen_forget.mp hstill).2 rfl

theorem kept (h : Tracks history d) (hgranted : r.granted = false)
    (hnot : ∀ descriptor, ¬ r.Closes descriptor) : Tracks (history ++ [r]) d := by
  refine ⟨h.next_concat hgranted, h.range, ?_, h.spent_concat id fun hclose => ?_⟩
  · intro descriptor
    rw [Record.openAfter_concat, h.isOpen_iff]
    simp [hgranted, hnot]
  · exact absurd hclose (hnot _)

theorem dealt (h : Tracks history d) (hd : Session.Dealt d r d') (hlt : d.next < 2 ^ 64) :
    Tracks (history ++ [r]) d' := by
  cases hd with
  | opened hgranted hresult => exact h.opened hgranted hresult hlt
  | closed hclose hopen => exact h.closed hclose hopen
  | kept hgranted hnot => exact h.kept hgranted hnot

end Tracks

namespace Session

/-- The files that the host opens in a sequence of calls. -/
def openings (s : Session) (calls : List HostCall) : Nat :=
  ((s.history calls).filter Record.granted).length

theorem openings_append_le (s : Session) (cs ds : List HostCall) :
    s.openings cs ≤ s.openings (cs ++ ds) := by
  unfold openings
  rw [history_append, List.filter_append, List.length_append]
  exact Nat.le_add_right _ _

theorem openings_le (s : Session) (calls : List HostCall) : s.openings calls ≤ calls.length := by
  refine (List.length_filter_le _ _).trans (Nat.le_of_eq ?_)
  induction calls generalizing s with
  | nil => rfl
  | cons c calls ih => exact congrArg (· + 1) (ih _)

theorem tracks {s : Session} (hs : s.machine.descriptors = {}) (calls : List HostCall)
    (hfew : s.openings calls < 2 ^ 64 - 4) :
    Tracks (s.history calls) (s.afterCalls calls).machine.descriptors := by
  induction calls using List.reverseRecOn with
  | nil => exact hs ▸ Tracks.nil
  | append_singleton cs c ih =>
    have hle := s.openings_append_le cs [c]
    have hbefore := ih (by omega)
    have hlt : (s.afterCalls cs).machine.descriptors.next < 2 ^ 64 := by
      have hnext : (s.afterCalls cs).machine.descriptors.next = s.openings cs + 3 :=
        hbefore.next_eq
      omega
    rw [history_append, afterCalls_append]
    exact hbefore.dealt ((s.afterCalls cs).dealt c) hlt

/-- **Descriptor safety.** Take any call of any sequence of calls that starts with no open file. If
the host opens a file, the call returns the number of the files opened before, plus three. If the
host refuses to, it returns a word of ones, and the numbers of later files do not depend on it. A
descriptor that was handed out and not closed since can be closed, and no other. A descriptor that
was closed before is not accepted any more. -/
theorem descriptor_safety {s : Session} (hs : s.machine.descriptors = {}) {calls : List HostCall}
    (hfew : s.openings calls < 2 ^ 64 - 4) {before after : List Record} {r : Record}
    (hr : s.history calls = before ++ r :: after) :
    (r.granted = true →
      r.result.map UInt64.toNat = some ((before.filter Record.granted).length + 3)) ∧
    (r.refused = true → r.result = some openFailedResult) ∧
    (∀ descriptor, r.AsksToClose descriptor →
      (Record.OpenAfter before descriptor → r.ending = .ok none) ∧
      (¬ Record.OpenAfter before descriptor →
        r.ending = .error (.badDescriptor descriptor.toNat))) ∧
    ∀ descriptor, ∀ closing ∈ before, closing.Closes descriptor → r.Uses descriptor →
      r.ending = .error (.badDescriptor descriptor.toNat) := by
  obtain ⟨cs, c, ds, rfl, rfl, rfl, -⟩ := history_eq_append_cons hr
  have hle := s.openings_append_le cs (c :: ds)
  have htracks := tracks hs cs (by omega)
  generalize s.afterCalls cs = t at htracks hr ⊢
  have hlt : t.machine.descriptors.next < 2 ^ 64 := by
    have hnext : t.machine.descriptors.next = s.openings cs + 3 := htracks.next_eq
    omega
  refine ⟨?_, ?_, ?_, ?_⟩
  · intro hgranted
    rw [result_of_granted hgranted, Option.map_some, UInt64.toNat_ofNat_of_lt' hlt, htracks.next_eq]
  · intro hrefused
    exact result_of_refused hrefused
  · intro descriptor hask
    rw [← htracks.isOpen_iff]
    refine ⟨make_close hask, fun hclosed => ?_⟩
    exact make_of_closed (.close hask) (Bool.eq_false_iff.mpr hclosed) (absurd hask.1)
  · intro descriptor closing hmem hclose huses
    obtain ⟨hge, -, hclosed⟩ := htracks.spent hmem hclose
    exact make_of_closed huses hclosed fun _ => hge

/-- A call with some arguments on the stack and the name of a file in the memory. -/
def namedCall (f : HostFunction) (arguments : List UInt64) (reply : Reply) : HostCall where
  function := f
  stack := (Stack.empty (8 * arguments.length)).extend (argumentBytes arguments)
  memory := .ofLiteral [0x66, 0] 0
  host w _ := (reply, w)
  fits := by simp [Stack.extend, Stack.empty, length_argumentBytes]

/-- Two files are opened with a refusal between them, and the first is closed. -/
def twoFiles : List HostCall :=
  let name := (Address.ofOffset .static 0).bits
  [namedCall .openFile [name] (.ok []), namedCall .openFile [name] (.error "denied"),
    namedCall .openFile [name] (.ok []), namedCall .closeFile [3] (.ok [])]

/-- The first file is read after it was closed. -/
def staleRead : HostCall := namedCall .read [3, 0, 1] (.ok [])

/-- A session without open files. -/
def noFiles : Session := { machine := .ofLiteral [] }

theorem descriptor_safety_staleRead :
    (noFiles.history twoFiles)[0]?.map Record.result = some (some 3) ∧
    (noFiles.history twoFiles)[1]?.map Record.result = some (some openFailedResult) ∧
    (noFiles.history twoFiles)[2]?.map Record.result = some (some 4) ∧
    (noFiles.history twoFiles)[3]?.map Record.ending = some (.ok none) ∧
    ((noFiles.afterCalls twoFiles).record staleRead).ending = .error (.badDescriptor 3) := by
  have hfew : noFiles.openings (twoFiles ++ [staleRead]) < 2 ^ 64 - 4 :=
    (noFiles.openings_le _).trans_lt (by decide)
  obtain ⟨-, -, -, hstale⟩ :=
    descriptor_safety rfl hfew (noFiles.history_append twoFiles [staleRead])
  refine ⟨rfl, rfl, rfl, rfl, ?_⟩
  exact hstale 3 _ (List.mem_of_getElem? (i := 3) rfl) ⟨⟨rfl, rfl⟩, rfl⟩ (.read rfl rfl)

end Session

end WordMachine
