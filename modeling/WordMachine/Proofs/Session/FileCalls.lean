import WordMachine.Proofs.Session.Arguments

/-!
# Calls and the open files

A host function may be called with any stack and any memory, and with a host that refuses what it
likes. What the call does to the table of open files follows from what its caller and the host see
of it: a file that the host opens gets the next number, a number that is closed leaves the table,
and nothing else changes it.

* `HostCall`, `Record` : a call, and what its caller and the host saw of it.
* `Session.opening_cases` : what opening returns.
* `Session.make_close`, `Session.make_of_closed` : using an open or a closed descriptor.
* `Session.dealt` : all that a call can do to the table.
-/

namespace WordMachine

open Effect

/-! ## Calls -/

/-- A call of a host function: the stack and the memory that it is handed, and the host that
answers. -/
structure HostCall where
  function : HostFunction
  stack : ByteStack
  memory : Memory
  host : Host
  fits : stack.depth ≤ stack.limit

/-- A call that was made. -/
structure Record where
  call : HostCall
  /-- What the host answered, if it was asked. -/
  reply : Option Reply
  ending : Except Fault (Option Int)
  /-- The stack that the call left. -/
  left : ByteStack

namespace Record

/-- The host opened a file. -/
def granted (r : Record) : Bool :=
  r.call.function == .openFile && r.reply.any fun reply => reply.isOk

/-- The host was asked to open a file and did not. -/
def refused (r : Record) : Bool :=
  r.call.function == .openFile && r.reply.any fun reply => !reply.isOk

theorem function_of_granted {r : Record} (h : r.granted = true) : r.call.function = .openFile := by
  simp only [granted, Bool.and_eq_true, beq_iff_eq] at h
  exact h.1

theorem function_of_refused {r : Record} (h : r.refused = true) : r.call.function = .openFile := by
  simp only [refused, Bool.and_eq_true, beq_iff_eq] at h
  exact h.1

/-- The value that a call that goes on leaves on top of the stack. -/
def result (r : Record) : Option UInt64 :=
  match r.ending, ByteStack.top? 1 r.left with
  | .ok none, some [value] => some value
  | _, _ => none

/-- A call to close a descriptor. -/
def AsksToClose (r : Record) (descriptor : UInt64) : Prop :=
  r.call.function = .closeFile ∧ ByteStack.top? 1 r.call.stack = some [descriptor]

/-- A call that closed a descriptor. -/
def Closes (r : Record) (descriptor : UInt64) : Prop :=
  r.AsksToClose descriptor ∧ r.ending = .ok none

/-- A call that gets as far as using a descriptor. Reading and closing look at it first; writing
reads the buffer before. -/
inductive Uses (r : Record) (descriptor : UInt64) : Prop where
  | close : r.AsksToClose descriptor → Uses r descriptor
  | read {buffer length : UInt64} : r.call.function = .read →
    ByteStack.top? 3 r.call.stack = some [descriptor, buffer, length] → Uses r descriptor
  | write {buffer length : UInt64} {bytes : List UInt8} : r.call.function = .write →
    ByteStack.top? 3 r.call.stack = some [descriptor, buffer, length] →
    r.call.memory.readBytes ⟨buffer⟩ length.toNat = .ok bytes → Uses r descriptor

end Record

namespace Session

/-- A session with the stack and the memory of a call. -/
def handed (s : Session) (c : HostCall) : Session :=
  { s with machine := { s.machine with stack := c.stack, memory := c.memory } }

/-- Make a call: how it ends, and the session afterwards. -/
def make (s : Session) (c : HostCall) : Except Fault (Option Int) × Session :=
  (s.handed c).perform c.host c.function.begin

/-- What the host answers in a call, if it is asked. -/
def reply? (s : Session) (c : HostCall) : Option Reply :=
  match c.function.begin (s.handed c).machine with
  | .ok (.ask request) _ => some (c.host s.world request).1
  | _ => none

def record (s : Session) (c : HostCall) : Record :=
  ⟨c, s.reply? c, (s.make c).1, (s.make c).2.machine.stack⟩

/-! ## One call -/

variable {s u : Session} {c : HostCall} {host : Host} {f : HostFunction}

/-- A call that faults leaves the open files. -/
theorem descriptors_of_error (hs : s.machine.StackFits) {fault : Fault}
    (h : s.perform host f.begin = (.error fault, u)) :
    u.machine.descriptors = s.machine.descriptors := by
  have hbegin := f.triple_begin hs
  have hpopped := Machine.popped_refl s.machine
  unfold perform at h
  split at h
  · rename_i m hm
    cases h
    obtain ⟨j, -, hj⟩ := (hbegin.error hpopped hm).popped
    exact hj.descriptors
  · cases h
  · cases h
  · rename_i request m hm
    split at h
    · rename_i m' hm'
      cases h
      have hasked := hbegin.ok hpopped hm request rfl
      obtain ⟨j, -, hj⟩ := ((request.triple_finish hs f.arity_pos _).error hasked hm').popped
      exact hj.descriptors
    · cases h

/-- A call that ends the program leaves the open files. -/
theorem descriptors_of_exit {status : Int}
    (h : s.perform host f.begin = (.ok (some status), u)) :
    u.machine.descriptors = s.machine.descriptors := by
  unfold perform at h
  split at h
  · cases h
  · cases h
  · rename_i m hm
    cases h
    obtain rfl : f = .exit := HostFunction.goes_of_begin hm
    obtain ⟨arguments, htop⟩ := HostFunction.top?_of_begin hm
    obtain ⟨value, rfl⟩ := List.length_eq_one_iff.mp (ByteStack.top?_eq_some.mp htop).1
    rw [HostFunction.begin_of_top? htop, HostFunction.serve, Action.note_bind, pure_eq_ok] at hm
    rw [hm.2]
    rfl
  · split at h
    · cases h
    · cases h

/-- A call that goes on has found its arguments and did what the rule of its function says. -/
theorem completes_of_begin (h : s.perform host f.begin = (.ok none, u)) :
    ∃ arguments stack result after, ByteStack.top? f.arity s.machine.stack = some arguments ∧
      f.Completes host s.hostState arguments result after ∧
      ((s.withStack stack).returned result after).Alike u := by
  obtain ⟨arguments, htop⟩ : ∃ arguments,
      ByteStack.top? f.arity s.machine.stack = some arguments := by
    rcases perform_eq_ok_none.mp h with ⟨m, hm, -⟩ | ⟨request, m, m', hm, -⟩
    · exact f.top?_of_begin hm
    · exact f.top?_of_begin hm
  obtain ⟨hlength, stack, hstack⟩ := ByteStack.top?_eq_some.mp htop
  rw [perform_begin hlength hstack] at h
  obtain ⟨result, after, hcompletes, halike⟩ := completes_of_perform hlength h
  exact ⟨arguments, stack, result, after, htop, hcompletes, halike⟩

/-- A call that goes on leaves the open files, unless it opens or closes one. -/
theorem descriptors_of_ok (h : s.perform host f.begin = (.ok none, u)) (hopen : f ≠ .openFile) :
    (f ≠ .closeFile ∧ u.machine.descriptors = s.machine.descriptors) ∨
    ∃ descriptor, f = .closeFile ∧ ByteStack.top? 1 s.machine.stack = some [descriptor] ∧
      s.machine.descriptors.isOpen descriptor.toNat = true ∧
      u.machine.descriptors = s.machine.descriptors.forget descriptor.toNat := by
  obtain ⟨_, _, _, after, htop, hcompletes, ⟨journal, hu⟩, -⟩ := completes_of_begin h
  have hafter : u.machine.descriptors = after.descriptors := by
    rw [hu]
    rfl
  rw [hafter]
  cases hcompletes with
  | opened | openFailed => exact absurd rfl hopen
  | @closeFile descriptor _ _ hisOpen => exact .inr ⟨descriptor, rfl, htop, hisOpen, rfl⟩
  | read | write | malloc | free => exact .inl ⟨by decide, rfl⟩

/-! ## Opening -/

theorem reply?_of_error {fault : Fault} {m : Machine}
    (h : c.function.begin (s.handed c).machine = .error fault m) : s.reply? c = none := by
  unfold reply?
  rw [h]

theorem reply?_of_ask {request : Request} {m : Machine}
    (h : c.function.begin (s.handed c).machine = .ok (.ask request) m) :
    s.reply? c = some (c.host s.world request).1 := by
  unfold reply?
  rw [h]

theorem result_of_extend {r : Record} {stack : ByteStack} {value : UInt64}
    (hending : r.ending = .ok none) (hleft : r.left = stack.extend (littleEndian 8 value.toNat)) :
    r.result = some value := by
  unfold Record.result
  rw [hending, hleft, ByteStack.top?_extend]

/-- Opening faults, or asks for a file under the next number. -/
theorem begin_openFile {m m' : Machine} {progress : Progress}
    (h : HostFunction.openFile.begin m = .ok progress m') :
    ∃ path, progress = .ask (.openFile m.descriptors.next path) := by
  obtain ⟨arguments, htop⟩ := HostFunction.top?_of_begin h
  rw [HostFunction.begin_of_top? htop] at h
  obtain ⟨name, rfl⟩ := List.length_eq_one_iff.mp (ByteStack.top?_eq_some.mp htop).1
  obtain ⟨bytes, -, rfl, -⟩ := HostFunction.beginOpen_eq_ok.mp h
  exact ⟨_, rfl⟩

/-- What the host answers decides what opening returns, and whether a number is used up. -/
theorem opening_cases (hf : c.function = .openFile) :
    ((s.record c).granted = true ∧ (s.record c).refused = false ∧
      (s.record c).result = some (UInt64.ofNat s.machine.descriptors.next) ∧
      (s.make c).2.machine.descriptors = s.machine.descriptors.register) ∨
    ((s.record c).granted = false ∧ (s.record c).refused = true ∧
      (s.record c).result = some openFailedResult ∧
      (s.make c).2.machine.descriptors = s.machine.descriptors) ∨
    ((s.record c).granted = false ∧ (s.record c).refused = false ∧
      (s.make c).2.machine.descriptors = s.machine.descriptors) := by
  have hfits : (s.handed c).machine.StackFits := c.fits
  have hgranted : (s.record c).granted = (s.reply? c).any fun reply => reply.isOk := by
    simp [Record.granted, record, hf]
  have hrefused : (s.record c).refused = (s.reply? c).any fun reply => !reply.isOk := by
    simp [Record.refused, record, hf]
  cases hbegin : c.function.begin (s.handed c).machine with
  | error fault m =>
    have hmake : s.make c = (.error fault, { s.handed c with machine := m }) :=
      perform_of_error hbegin
    have hdescriptors := descriptors_of_error hfits hmake
    rw [hgranted, hrefused, reply?_of_error hbegin, hmake]
    exact .inr (.inr ⟨rfl, rfl, hdescriptors⟩)
  | ok progress m =>
    obtain ⟨path, rfl⟩ := begin_openFile (hf ▸ hbegin)
    have hasked := (c.function.triple_begin hfits).ok (Machine.popped_refl _) hbegin _ rfl
    have hpopped := hasked.resolve_right (by rintro ⟨_, ⟨⟩⟩)
    have hroom := hpopped.hasRoom hfits c.function.arity_pos
    have hdescriptors : m.descriptors = s.machine.descriptors := hpopped.descriptors
    rw [hgranted, hrefused, reply?_of_ask hbegin]
    cases hreply : (c.host s.world (.openFile (s.handed c).machine.descriptors.next path)).1 with
    | ok line =>
      have hmake : s.make c = _ := perform_of_ask c.host hbegin
        (Request.finish_openFile_eq_ok.mpr ⟨hroom, .inl ⟨line, hreply, rfl⟩⟩)
      have hending : (s.record c).ending = .ok none := congrArg Prod.fst hmake
      have hresult := result_of_extend hending (congrArg (·.2.machine.stack) hmake)
      refine .inl ⟨rfl, rfl, hresult, ?_⟩
      rw [hmake, ← hdescriptors]
      rfl
    | error reason =>
      have hmake : s.make c = _ := perform_of_ask c.host hbegin
        (Request.finish_openFile_eq_ok.mpr ⟨hroom, .inr ⟨reason, hreply, rfl⟩⟩)
      have hending : (s.record c).ending = .ok none := congrArg Prod.fst hmake
      have hresult := result_of_extend hending (congrArg (·.2.machine.stack) hmake)
      refine .inr (.inl ⟨rfl, rfl, hresult, ?_⟩)
      rw [hmake, ← hdescriptors]
      rfl

theorem result_of_granted (h : (s.record c).granted = true) :
    (s.record c).result = some (UInt64.ofNat s.machine.descriptors.next) := by
  have hf : c.function = .openFile := Record.function_of_granted h
  rcases opening_cases (s := s) hf with ⟨-, -, hresult, -⟩ | ⟨hnot, -⟩ | ⟨hnot, -⟩
  · exact hresult
  · cases hnot.symm.trans h
  · cases hnot.symm.trans h

theorem result_of_refused (h : (s.record c).refused = true) :
    (s.record c).result = some openFailedResult := by
  have hf : c.function = .openFile := Record.function_of_refused h
  rcases opening_cases (s := s) hf with ⟨-, hnot, -⟩ | ⟨-, -, hresult, -⟩ | ⟨-, hnot, -⟩
  · cases hnot.symm.trans h
  · exact hresult
  · cases hnot.symm.trans h

/-! ## Using a descriptor -/

/-- A call that finds its arguments starts with them. -/
theorem begin_handed {arguments : List UInt64} (hf : c.function = f)
    (htop : ByteStack.top? f.arity c.stack = some arguments) :
    c.function.begin (s.handed c).machine =
      f.serve arguments { (s.handed c).machine with stack := c.stack.drop (8 * f.arity) } := by
  rw [hf]
  exact HostFunction.begin_of_top? htop

/-- Closing an open descriptor succeeds. -/
theorem make_close {descriptor : UInt64} (h : (s.record c).AsksToClose descriptor)
    (hopen : s.machine.descriptors.isOpen descriptor.toNat = true) : (s.make c).1 = .ok none := by
  have hbegin : c.function.begin (s.handed c).machine =
      .ok (.ask (.closeFile descriptor.toNat)) _ :=
    (begin_handed h.1 h.2).trans (HostFunction.beginClose_eq_ok.mpr ⟨hopen, rfl, rfl⟩)
  have hmake : s.make c = _ := perform_of_ask c.host hbegin rfl
  rw [hmake]

theorem requireOpen_bind_of_closed {descriptor : Nat} {m : Machine}
    (h : m.descriptors.isOpen descriptor = false) (x : Action Progress) :
    ∃ m', (HostFunction.requireOpen descriptor >>= fun _ => x) m =
      .error (.badDescriptor descriptor) m' := by
  refine ⟨m, bind_eq_error.mpr (.inl (Action.look_eq_error.mpr ⟨?_, rfl⟩))⟩
  rw [h]
  rfl

/-- A call that uses a descriptor that is not open is rejected, if it is not one of the standard
streams. -/
theorem make_of_closed {descriptor : UInt64} (h : (s.record c).Uses descriptor)
    (hclosed : s.machine.descriptors.isOpen descriptor.toNat = false)
    (hfile : c.function ≠ .closeFile → 3 ≤ descriptor.toNat) :
    (s.make c).1 = .error (.badDescriptor descriptor.toNat) := by
  obtain ⟨m, hbegin⟩ : ∃ m, c.function.begin (s.handed c).machine =
      .error (.badDescriptor descriptor.toNat) m := by
    cases h with
    | close h =>
      rw [begin_handed (c := c) h.1 h.2]
      apply requireOpen_bind_of_closed
      exact hclosed
    | @read buffer length hf htop =>
      have hge := hfile (by rw [show c.function = .read from hf]; decide)
      have hstandard : ¬ (descriptor.toNat = 1 ∨ descriptor.toNat = 2) := by omega
      have hzero : descriptor.toNat ≠ 0 := by omega
      rw [begin_handed (c := c) hf htop, HostFunction.serve, HostFunction.beginRead,
        if_neg hstandard, if_pos hzero]
      apply requireOpen_bind_of_closed
      exact hclosed
    | @write buffer length bytes hf htop hbytes =>
      have hge := hfile (by rw [show c.function = .write from hf]; decide)
      have hzero : ¬ descriptor.toNat = 0 := by omega
      have hopen : 2 < descriptor.toNat := by omega
      rw [begin_handed (c := c) hf htop, HostFunction.serve, HostFunction.beginWrite,
        bind_of_ok (Action.look_eq_ok.mpr ⟨hbytes, rfl⟩), Action.note_bind, if_neg hzero,
        if_pos hopen]
      apply requireOpen_bind_of_closed
      exact hclosed
  have hmake : s.make c = _ := perform_of_error hbegin
  rw [hmake]

/-! ## What a call does to the open files -/

/-- All that a call can do to the open files. -/
inductive Dealt (d : Descriptors) (r : Record) : Descriptors → Prop where
  | opened : r.granted = true → r.result = some (UInt64.ofNat d.next) → Dealt d r d.register
  | closed {descriptor : UInt64} : r.Closes descriptor → d.isOpen descriptor.toNat = true →
    Dealt d r (d.forget descriptor.toNat)
  | kept : r.granted = false → (∀ descriptor, ¬ r.Closes descriptor) → Dealt d r d

theorem dealt (s : Session) (c : HostCall) :
    Dealt s.machine.descriptors (s.record c) (s.make c).2.machine.descriptors := by
  by_cases hopen : c.function = .openFile
  · have hnot : ∀ descriptor, ¬ (s.record c).Closes descriptor := by
      intro descriptor h
      exact absurd (hopen.symm.trans h.1.1) (by decide)
    rcases opening_cases (s := s) hopen with ⟨hgranted, -, hresult, hd⟩ | ⟨hgranted, -, -, hd⟩ |
        ⟨hgranted, -, hd⟩
    · rw [hd]
      exact .opened hgranted hresult
    · rw [hd]
      exact .kept hgranted hnot
    · rw [hd]
      exact .kept hgranted hnot
  · have hgranted : (s.record c).granted = false := by
      simp [Record.granted, record, hopen]
    have hending : (s.record c).ending = (s.make c).1 := rfl
    generalize hmake : s.make c = outcome at hending ⊢
    obtain ⟨fault | none | status, u⟩ := outcome
    · have hfits : (s.handed c).machine.StackFits := c.fits
      rw [descriptors_of_error hfits hmake]
      refine .kept hgranted fun descriptor h => ?_
      cases hending.symm.trans h.2
    · rcases descriptors_of_ok hmake hopen with ⟨hclose, hd⟩ |
          ⟨descriptor, hclose, htop, hisOpen, hd⟩
      · rw [hd]
        exact .kept hgranted fun descriptor h => hclose h.1.1
      · rw [hd]
        exact .closed ⟨⟨hclose, htop⟩, hending⟩ hisOpen
    · rw [descriptors_of_exit hmake]
      refine .kept hgranted fun descriptor h => ?_
      cases hending.symm.trans h.2

end Session

end WordMachine
