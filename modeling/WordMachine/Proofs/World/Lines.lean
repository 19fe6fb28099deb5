import WordMachine.World.Input

/-!
# Lines of the input

A line is read byte by byte. Interrupted reads are tried again and leave no trace. Reading stops at
the limit, behind a newline, at the end of the input, or at a read that fails; it takes nothing that
stands behind, so what is left is where the next line begins.

* `Input.bytes` : the bytes of a piece of input.
* `Input.IsLine` : where a line ends.
* `Input.taken_readLine` : all that reading a line can do.
* `Input.readLine_of_failure` : a read that fails before the line is complete.
-/

namespace WordMachine

namespace Input

/-- The bytes of a piece of input, without what happens between them. -/
def bytes (input : Input) : List UInt8 :=
  input.filterMap fun
    | .byte b => some b
    | .interrupt | .failure _ => none

/-- Input of which no read fails. -/
def Reliable (input : Input) : Prop := ∀ reason, .failure reason ∉ input

theorem bytes_append (xs ys : Input) : bytes (xs ++ ys) = bytes xs ++ bytes ys :=
  List.filterMap_append

theorem reliable_nil : Reliable [] := fun _ => List.not_mem_nil

theorem reliable_cons {item : InputItem} {input : Input} (hitem : ∀ reason, item ≠ .failure reason)
    (h : input.Reliable) : Reliable (item :: input) := by
  intro reason hmem
  rcases List.mem_cons.mp hmem with heq | hmem
  · exact hitem reason heq.symm
  · exact h reason hmem

/-- A line of at most `limit` bytes, with the input that is left behind it. -/
structure IsLine (limit : Nat) (text : List UInt8) (rest : Input) : Prop where
  length_le : text.length ≤ limit
  /-- A newline ends the line. -/
  newline_last {i : Nat} : text[i]? = some newline → i + 1 = text.length
  /-- A line that could be longer was ended by a newline, or by the end of the input. -/
  short : text.length < limit → text.getLast? = some newline ∨ rest = []

theorem IsLine.cons {limit : Nat} {line : List UInt8} {rest : Input} {b : UInt8}
    (h : IsLine limit line rest) (hb : b ≠ newline) : IsLine (limit + 1) (b :: line) rest where
  length_le := Nat.succ_le_succ h.length_le
  newline_last := by
    intro i hi
    cases i with
    | zero => exact absurd (Option.some.inj hi) hb
    | succ i => exact congrArg (· + 1) (h.newline_last hi)
  short := by
    intro hlt
    refine (h.short (Nat.lt_of_succ_lt_succ hlt)).imp_left fun hlast => ?_
    cases line with
    | nil => cases hlast
    | cons x xs => exact hlast

/-- All that reading a line can do, with the bytes read before it in front of the line. -/
inductive Taken (limit : Nat) (input : Input) (before : List UInt8) :
    Except String (List UInt8) × Input → Prop where
  | line {consumed rest : Input} : input = consumed ++ rest → consumed.Reliable →
    IsLine limit consumed.bytes rest →
    Taken limit input before (.ok (before ++ consumed.bytes), rest)
  | failed {consumed rest : Input} {reason : String} :
    input = consumed ++ .failure reason :: rest → Taken limit input before (.error reason, rest)

section Taken

variable {limit : Nat} {input : Input} {before : List UInt8}
  {outcome : Except String (List UInt8) × Input}

theorem taken_nothing (h : IsLine limit [] input) : Taken limit input before (.ok before, input) := by
  have htaken : Taken limit input before (.ok (before ++ bytes []), input) :=
    .line (List.nil_append input).symm reliable_nil h
  rwa [show before ++ bytes [] = before from List.append_nil before] at htaken

theorem Taken.byte {b : UInt8} (hb : b ≠ newline) (h : Taken limit input (before ++ [b]) outcome) :
    Taken (limit + 1) (.byte b :: input) before outcome := by
  cases h with
  | @line consumed rest hinput hreliable hline =>
    have hwhole : .byte b :: input = .byte b :: consumed ++ rest := by rw [hinput, List.cons_append]
    rw [List.append_assoc]
    exact .line hwhole (reliable_cons nofun hreliable) (hline.cons hb)
  | @failed consumed rest reason hinput =>
    have hwhole : .byte b :: input = .byte b :: consumed ++ .failure reason :: rest := by
      rw [hinput, List.cons_append]
    exact .failed hwhole

theorem Taken.interrupt (h : Taken limit input before outcome) :
    Taken limit (.interrupt :: input) before outcome := by
  cases h with
  | @line consumed rest hinput hreliable hline =>
    have hwhole : .interrupt :: input = .interrupt :: consumed ++ rest := by
      rw [hinput, List.cons_append]
    have hbytes : bytes consumed = bytes (.interrupt :: consumed) := rfl
    rw [hbytes] at hline ⊢
    exact .line hwhole (reliable_cons nofun hreliable) hline
  | @failed consumed rest reason hinput =>
    have hwhole : .interrupt :: input = .interrupt :: consumed ++ .failure reason :: rest := by
      rw [hinput, List.cons_append]
    exact .failed hwhole

end Taken

theorem taken_collectLine (limit : Nat) (input : Input) (done : List UInt8) :
    Taken limit input done.reverse (collectLine limit input done) := by
  fun_induction collectLine limit input done with
  | case1 input done => exact taken_nothing ⟨Nat.le_refl 0, nofun, nofun⟩
  | case2 done limit => exact taken_nothing ⟨Nat.zero_le _, nofun, fun _ => .inr rfl⟩
  | case3 limit input done =>
    have hwhole : .byte newline :: input = [.byte newline] ++ input := rfl
    rw [List.reverse_cons]
    refine .line hwhole (reliable_cons nofun reliable_nil)
      ⟨Nat.succ_le_succ (Nat.zero_le _), ?_, fun _ => .inl rfl⟩
    intro i hi
    obtain ⟨hlt, -⟩ := List.getElem?_eq_some_iff.mp hi
    exact congrArg (· + 1) (Nat.lt_one_iff.mp hlt)
  | case4 done limit b input hb ih =>
    rw [List.reverse_cons] at ih
    exact ih.byte hb
  | case5 done limit input ih => exact ih.interrupt
  | case6 done limit reason input => exact .failed (List.nil_append _).symm

theorem taken_readLine (input : Input) (limit : Nat) :
    Taken limit input [] (input.readLine limit) :=
  taken_collectLine limit input []

/-- Without failing reads there is a line. -/
theorem Reliable.readLine {input : Input} (h : input.Reliable) (limit : Nat) :
    ∃ consumed rest : Input, input.readLine limit = (.ok consumed.bytes, rest) ∧
      input = consumed ++ rest ∧ rest.Reliable ∧ IsLine limit consumed.bytes rest := by
  have htaken := input.taken_readLine limit
  generalize input.readLine limit = outcome at htaken
  cases htaken with
  | @line consumed rest hinput _ hline =>
    refine ⟨consumed, rest, rfl, hinput, fun reason hmem => h reason ?_, hline⟩
    rw [hinput]
    exact List.mem_append_right _ hmem
  | @failed consumed rest reason hinput =>
    refine absurd ?_ (h reason)
    rw [hinput]
    simp

/-- A read that fails before the line is complete fails the line. The bytes read before it are
lost. -/
theorem collectLine_of_failure {consumed : Input} (hreliable : consumed.Reliable) {limit : Nat}
    (hlimit : consumed.bytes.length < limit) (hnewline : newline ∉ consumed.bytes)
    (reason : String) (rest : Input) (done : List UInt8) :
    collectLine limit (consumed ++ .failure reason :: rest) done = (.error reason, rest) := by
  obtain ⟨limit, rfl⟩ := Nat.exists_eq_succ_of_ne_zero (Nat.ne_zero_of_lt hlimit)
  induction consumed generalizing limit done with
  | nil => rfl
  | cons item consumed ih =>
    have htail : Reliable consumed := fun reason hmem =>
      hreliable reason (List.mem_cons_of_mem _ hmem)
    cases item with
    | byte b =>
      have hbytes : bytes (.byte b :: consumed) = b :: bytes consumed := rfl
      rw [hbytes] at hlimit hnewline
      have hb : b ≠ newline := fun heq => hnewline (heq ▸ List.mem_cons_self)
      have hlimit' : (bytes consumed).length < limit := Nat.lt_of_succ_lt_succ hlimit
      obtain ⟨limit, rfl⟩ := Nat.exists_eq_succ_of_ne_zero (Nat.ne_zero_of_lt hlimit')
      rw [List.cons_append, collectLine, if_neg hb]
      exact ih htail (fun hmem => hnewline (List.mem_cons_of_mem _ hmem)) _ _ hlimit'
    | interrupt => exact ih htail hnewline _ _ hlimit
    | failure reason' => exact absurd List.mem_cons_self (hreliable reason')

theorem readLine_of_failure {consumed : Input} (hreliable : consumed.Reliable) {limit : Nat}
    (hlimit : consumed.bytes.length < limit) (hnewline : newline ∉ consumed.bytes)
    (reason : String) (rest : Input) :
    readLine (consumed ++ .failure reason :: rest) limit = (.error reason, rest) :=
  collectLine_of_failure hreliable hlimit hnewline reason rest []

end Input

end WordMachine
