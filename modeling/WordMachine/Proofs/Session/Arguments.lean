import WordMachine.Proofs.Session.HostCall

/-!
# The arguments of a call

A host function takes as many values off the calculation stack as it has arguments. If they are
there, it works on what lies below them; if not, it faults and changes nothing but the stack.

* `ByteStack.top?` : the values on top of a stack.
* `HostFunction.begin_of_top?` : a function that finds its arguments.
* `HostFunction.top?_of_begin` : a function that does not fault has found them.
* `HostFunction.goes_of_begin` : how each function goes on.
* `Session.perform_of_error`, `Session.perform_of_ask`, `Session.perform_of_refusal` : what a call
  comes to.
-/

namespace WordMachine

open Effect

namespace ByteStack

/-- The values on top of a stack, topmost first, if there are as many as are asked for. -/
def top? : (count : Nat) → ByteStack → Option (List UInt64)
  | 0, _ => some []
  | count + 1, stack =>
    match stack.pop 8 with
    | .ok (value, rest) => (top? count rest).map (value :: ·)
    | .error _ => none

/-- A value that is popped whole was pushed whole. -/
theorem extend_of_pop {stack rest : ByteStack} {value : UInt64}
    (h : stack.pop 8 = .ok (value, rest)) :
    stack = rest.extend (littleEndian 8 value.toNat) := by
  obtain ⟨hdepth, rfl, rfl⟩ := pop_eq_ok.mp h
  have hlength : (stack.items.take 8).reverse.length = 8 := by
    rw [stack.depth_eq] at hdepth
    simp [hdepth]
  have hlt := ofLittleEndian_lt (stack.items.take 8).reverse
  rw [hlength] at hlt
  have hbytes := littleEndian_ofLittleEndian (stack.items.take 8).reverse
  rw [hlength] at hbytes
  refine Stack.eq_of_items ?_ rfl
  rw [UInt64.toNat_ofNat_of_lt' hlt, hbytes]
  simp [Stack.extend, Stack.drop]

theorem top?_eq_some {count : Nat} {stack : ByteStack} {values : List UInt64} :
    top? count stack = some values ↔
      values.length = count ∧ ∃ rest : ByteStack, stack = rest.extend (argumentBytes values) := by
  induction count generalizing stack values with
  | zero =>
    simp only [top?, Option.some.injEq, List.length_eq_zero_iff]
    constructor
    · rintro rfl
      exact ⟨rfl, stack, stack.extend_nil.symm⟩
    · rintro ⟨rfl, -⟩
      rfl
  | succ count ih =>
    constructor
    · intro h
      unfold top? at h
      split at h
      · rename_i value rest hpop
        obtain ⟨values, hvalues, rfl⟩ := Option.map_eq_some_iff.mp h
        obtain ⟨rfl, base, rfl⟩ := ih.mp hvalues
        refine ⟨rfl, base, ?_⟩
        rw [argumentBytes_cons, Stack.extend_append]
        exact extend_of_pop hpop
      · cases h
    · rintro ⟨hlength, base, rfl⟩
      obtain ⟨value, values, rfl⟩ := List.exists_cons_of_length_eq_add_one hlength
      rw [argumentBytes_cons, Stack.extend_append, top?, pop_extend]
      have hvalues : top? count (base.extend (argumentBytes values)) = some values :=
        ih.mpr ⟨by simpa using hlength, base, rfl⟩
      dsimp only
      rw [hvalues]
      rfl

/-- A value that was pushed whole is on top. -/
theorem top?_extend (stack : ByteStack) (value : UInt64) :
    top? 1 (stack.extend (littleEndian 8 value.toNat)) = some [value] := by
  rw [top?, pop_extend]
  rfl

theorem exists_top? {count : Nat} {stack : ByteStack} (h : 8 * count ≤ stack.depth) :
    ∃ values, top? count stack = some values := by
  induction count generalizing stack with
  | zero => exact ⟨[], rfl⟩
  | succ count ih =>
    have hpop : stack.pop 8 = .ok (_, stack.drop 8) := pop_eq_ok.mpr ⟨by omega, rfl, rfl⟩
    have hdepth : 8 * count ≤ (stack.drop 8).depth := by
      simp only [Stack.drop]
      omega
    obtain ⟨values, hvalues⟩ := ih hdepth
    rw [top?, hpop]
    dsimp only
    rw [hvalues]
    exact ⟨_, rfl⟩

end ByteStack

namespace HostFunction

variable {f : HostFunction} {m m' : Machine} {arguments : List UInt64} {progress : Progress}

/-- A function that finds its arguments takes them off the stack and works with them. -/
theorem begin_of_top? (h : ByteStack.top? f.arity m.stack = some arguments) :
    f.begin m = f.serve arguments { m with stack := m.stack.drop (8 * f.arity) } := by
  obtain ⟨hlength, stack, hstack⟩ := ByteStack.top?_eq_some.mp h
  have hbegin := f.begin_eq_serve hlength m stack
  have hbytes : (argumentBytes arguments).length = 8 * f.arity := by
    rw [length_argumentBytes, hlength]
  have hdrop := stack.drop_extend (argumentBytes arguments)
  rw [hbytes] at hdrop
  rw [← hstack] at hbegin hdrop
  rw [hdrop]
  exact hbegin

/-- Each argument that was taken was there. -/
theorem popArgument_bind_eq_ok {α : Type} {x : UInt64 → Action α} {a : α}
    (h : (Action.popArgument >>= x) m = .ok a m') :
    8 ≤ m.stack.depth ∧ ∃ value, x value { m with stack := m.stack.drop 8 } = .ok a m' := by
  obtain ⟨value, _, hpop, hx⟩ := bind_eq_ok.mp h
  obtain ⟨hdepth, -, rfl⟩ := Action.pop_eq_ok.mp hpop
  exact ⟨hdepth, value, hx⟩

theorem top?_of_begin (h : f.begin m = .ok progress m') :
    ∃ arguments, ByteStack.top? f.arity m.stack = some arguments := by
  apply ByteStack.exists_top?
  cases f with
  | read | write =>
    obtain ⟨h₁, _, h⟩ := popArgument_bind_eq_ok h
    obtain ⟨h₂, _, h⟩ := popArgument_bind_eq_ok h
    obtain ⟨h₃, -⟩ := popArgument_bind_eq_ok h
    simp only [Stack.drop] at h₂ h₃
    simp only [arity]
    omega
  | free =>
    obtain ⟨h₁, _, h⟩ := popArgument_bind_eq_ok h
    obtain ⟨h₂, -⟩ := popArgument_bind_eq_ok h
    simp only [Stack.drop] at h₂
    simp only [arity]
    omega
  | openFile | closeFile | exit | malloc => exact (popArgument_bind_eq_ok h).1

/-- How a function may go on. -/
def Goes (f : HostFunction) : Progress → Prop
  | .done => f = .malloc ∨ f = .free
  | .exit _ => f = .exit
  | .ask (.readLine _ _ _) => f = .read
  | .ask (.write _ _) => f = .write
  | .ask (.openFile _ _) => f = .openFile
  | .ask (.closeFile _) => f = .closeFile

theorem goes_of_begin (h : f.begin m = .ok progress m') : f.Goes progress := by
  obtain ⟨arguments, htop⟩ := top?_of_begin h
  rw [begin_of_top? htop] at h
  have hlength := (ByteStack.top?_eq_some.mp htop).1
  cases f with
  | read =>
    obtain ⟨_, _, _, rfl⟩ := List.length_eq_three.mp hlength
    obtain ⟨-, -, rfl, -⟩ := beginRead_eq_ok.mp h
    exact rfl
  | write =>
    obtain ⟨_, _, _, rfl⟩ := List.length_eq_three.mp hlength
    obtain ⟨_, -, -, -, rfl, -⟩ := beginWrite_eq_ok.mp h
    exact rfl
  | openFile =>
    obtain ⟨_, rfl⟩ := List.length_eq_one_iff.mp hlength
    obtain ⟨_, -, rfl, -⟩ := beginOpen_eq_ok.mp h
    exact rfl
  | closeFile =>
    obtain ⟨_, rfl⟩ := List.length_eq_one_iff.mp hlength
    obtain ⟨-, rfl, -⟩ := beginClose_eq_ok.mp h
    exact rfl
  | exit =>
    obtain ⟨_, rfl⟩ := List.length_eq_one_iff.mp hlength
    rw [serve, Action.note_bind, pure_eq_ok] at h
    rw [h.1]
    exact rfl
  | malloc =>
    obtain ⟨_, rfl⟩ := List.length_eq_one_iff.mp hlength
    obtain ⟨_, _, -, -, rfl, -⟩ := serve_malloc_eq_ok.mp h
    exact .inl rfl
  | free =>
    obtain ⟨_, _, rfl⟩ := List.length_eq_two.mp hlength
    obtain ⟨_, -, rfl, -⟩ := serve_free_eq_ok.mp h
    exact .inr rfl

end HostFunction

namespace Session

variable {s : Session} {host : Host} {x : Action Progress}

theorem perform_of_error {fault : Fault} {m : Machine} (h : x s.machine = .error fault m) :
    s.perform host x = (.error fault, { s with machine := m }) := by
  unfold perform
  rw [h]

theorem perform_of_ask (host : Host) {request : Request} {m m' : Machine}
    (h : x s.machine = .ok (.ask request) m)
    (hfinish : request.finish (host s.world request).1 m = .ok () m') :
    s.perform host x =
      (.ok none, { s with machine := m', world := (host s.world request).2 }) :=
  perform_eq_ok_none.mpr (.inr ⟨request, m, m', h, hfinish, rfl⟩)

theorem perform_of_refusal (host : Host) {request : Request} {fault : Fault} {m m' : Machine}
    (h : x s.machine = .ok (.ask request) m)
    (hfinish : request.finish (host s.world request).1 m = .error fault m') :
    s.perform host x =
      (.error fault, { s with machine := m', world := (host s.world request).2 }) := by
  unfold perform
  rw [h]
  dsimp only
  rw [hfinish]

end Session

end WordMachine
