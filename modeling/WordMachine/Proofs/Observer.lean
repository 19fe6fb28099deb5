import WordMachine.Proofs.Event
import WordMachine.Proofs.Session.Notifications
import WordMachine.Proofs.World.Streams

/-!
# Writing events until it fails

A writer offers the line of each word to its sink, text and newline apart. The first line that the
sink does not take whole is reported, and from then on the sink is left alone: what it would do with
later lines does not matter. So what it has taken is always a start of all the lines.

* `Event.took_emit` : what a sink takes of one line.
* `Device.RoomFor`, `Sink.Within` : devices that take so many bytes in all.
* `Observer.Emitted` : lines that were taken whole, one after the other.
* `Observer.writer_stops_cleanly` : what a writer leaves in its sink and in the log.
-/

namespace WordMachine

/-! ## One line -/

theorem Took.left {bytes before after : List UInt8} (h : Took bytes before after false)
    (rest : List UInt8) : Took (bytes ++ rest) before after false := by
  obtain ⟨accepted, hstart, hafter, -⟩ := h
  exact ⟨accepted, hstart.trans (List.prefix_append bytes rest), hafter, by simp⟩

theorem Took.append {bytes rest before middle after : List UInt8} {done : Bool}
    (h : Took bytes before middle true) (h' : Took rest middle after done) :
    Took (bytes ++ rest) before after done := by
  obtain ⟨accepted, -, hmiddle, hall⟩ := h
  obtain ⟨accepted', hstart, hafter, hdone⟩ := h'
  rw [hall rfl] at hmiddle
  refine ⟨bytes ++ accepted', ?_, ?_, ?_⟩
  · exact (List.prefix_append_right_inj bytes).mpr hstart
  · rw [hafter, hmiddle, List.append_assoc]
  · intro h
    rw [hdone h]

theorem Event.took_emit (format : EventFormat) (step : Address × Word) (s : Sink) :
    Took (line format step) s.taken ((ofStep step.1 step.2).emit format s).2.taken
      ((ofStep step.1 step.2).emit format s).1.isOk := by
  unfold emit line Sink.writeAll
  generalize Text.Utf8.encode ((ofStep step.1 step.2).text format) = text
  have htext := Sink.took_offer text.length text s
  generalize Sink.offer text.length text s = outcome at htext ⊢
  obtain ⟨reason | ⟨⟩, t⟩ := outcome
  · exact htext.left [0x0a]
  · exact htext.append (Sink.took_offer _ [0x0a] t)

/-! ## Room for so many bytes -/

/-- A device with room for `n` bytes in all: as long as there is room it takes some of the bytes
offered, as many as it likes, and then none. -/
structure Device.RoomFor (device : Device) (n : Nat) : Prop where
  takes : ∀ (calls : Nat) {taken offered : Nat}, taken < n → 0 < offered →
    ∃ k, device.take calls taken offered = .ok k ∧ 0 < k ∧ k ≤ offered ∧ taken + k ≤ n
  full : ∀ {calls offered k : Nat}, device.take calls n offered = .ok k → k = 0

theorem Device.roomFor_bounded (n : Nat) (full flush : Option String) :
    (bounded (some n) full flush).RoomFor n where
  takes := by
    intro calls taken offered hroom hoffered
    refine ⟨min offered (n - taken), if_pos hroom, ?_, ?_, ?_⟩ <;> omega
  full := by
    intro calls offered k htake
    unfold bounded at htake
    dsimp only at htake
    rw [if_neg (Nat.lt_irrefl n)] at htake
    cases full with
    | none => exact (Except.ok.inj htake).symm
    | some reason => cases htake

namespace Sink

/-- A sink whose device has room for `n` bytes in all, with its count of bytes right. -/
structure Within (s : Sink) (n : Nat) : Prop where
  room : s.device.RoomFor n
  size_eq : s.size = s.taken.length
  size_le : s.size ≤ n

/-- The device refuses bytes only when it has no room left. -/
theorem Within.size_of_refused {s : Sink} {n : Nat} {bytes : List UInt8} (h : s.Within n)
    (hbytes : bytes ≠ []) (calls : Nat)
    (hrefused : ∀ k, s.device.take calls s.size bytes.length = .ok k → bytes.take k = []) :
    s.size = n := by
  by_contra hne
  have hroom : s.size < n := Nat.lt_of_le_of_ne h.size_le hne
  have hoffered : 0 < bytes.length := List.length_pos_iff.mpr hbytes
  obtain ⟨k, hk, hpos, -⟩ := h.room.takes calls hroom hoffered
  rcases List.take_eq_nil_iff.mp (hrefused k hk) with hzero | hnil
  · omega
  · exact hbytes hnil

theorem within_offer {rounds n : Nat} {bytes : List UInt8} {s : Sink}
    (hrounds : bytes.length ≤ rounds) (h : s.Within n) :
    (offer rounds bytes s).2.Within n ∧
      ((offer rounds bytes s).1.isOk = false → (offer rounds bytes s).2.size = n) := by
  fun_induction offer rounds bytes s with
  | case1 => exact ⟨h, by simp [Except.isOk, Except.toBool]⟩
  | case2 => simp at hrounds
  | case3 rounds bytes s hbytes calls reason htake =>
    refine ⟨⟨h.room, h.size_eq, h.size_le⟩, fun _ => h.size_of_refused hbytes calls ?_⟩
    intro k hk
    rw [htake] at hk
    cases hk
  | case4 rounds bytes s hbytes calls k htake piece hpiece =>
    refine ⟨⟨h.room, h.size_eq, h.size_le⟩, fun _ => h.size_of_refused hbytes calls ?_⟩
    intro k' hk'
    rw [htake] at hk'
    cases hk'
    exact List.isEmpty_iff.mp hpiece
  | case5 rounds bytes s hbytes calls k htake piece hpiece ih =>
    -- The device took something, so there was room, and it took no more than fits.
    have hoffered : 0 < bytes.length := List.length_pos_iff.mpr hbytes
    have hroom : s.size < n := by
      apply Nat.lt_of_le_of_ne h.size_le
      intro hfull
      rw [hfull] at htake
      have hzero := h.room.full htake
      subst hzero
      simp [piece] at hpiece
    obtain ⟨k', hk', hpos, hle, hfits⟩ := h.room.takes calls hroom hoffered
    rw [htake] at hk'
    cases hk'
    have hlength : piece.length = k := by
      simp only [piece, List.length_take]
      omega
    apply ih
    · rw [List.length_drop]
      omega
    · refine ⟨h.room, ?_, ?_⟩
      · simp [taken, h.size_eq]
      · change s.size + piece.length ≤ n
        omega

theorem Within.emit {s : Sink} {n : Nat} (h : s.Within n) (e : Event) (format : EventFormat) :
    (e.emit format s).2.Within n ∧
      ((e.emit format s).1.isOk = false → (e.emit format s).2.size = n) := by
  unfold Event.emit writeAll
  generalize Text.Utf8.encode (e.text format) = text
  have htext := within_offer (Nat.le_refl text.length) h
  generalize offer text.length text s = outcome at htext ⊢
  obtain ⟨reason | ⟨⟩, t⟩ := outcome
  · exact htext
  · exact within_offer (Nat.le_refl _) htext.1

end Sink

/-! ## Many lines -/

namespace Observer

/-- What an observer reports of some notifications. -/
def reports (o : Observer) : List Notification → List Entry
  | [] => []
  | n :: ns => (o.notify n).2 ++ (o.notify n).1.reports ns

/-- The lines of words are taken whole, one after the other, from a first sink to a last one. -/
inductive Emitted (format : EventFormat) : Sink → List (Address × Word) → Sink → Prop where
  | nil (s : Sink) : Emitted format s [] s
  | cons {s t u : Sink} {step : Address × Word} {steps : List (Address × Word)} :
    (Event.ofStep step.1 step.2).emit format s = (.ok (), t) → Emitted format t steps u →
    Emitted format s (step :: steps) u

/-- How writing words ends: with all of them written, or at the first that is not. -/
inductive Wrote (format : EventFormat) (s : Sink) (steps : List (Address × Word)) :
    Sink → Option String → Prop where
  | all {t : Sink} : Emitted format s steps t → Wrote format s steps t none
  | stopped {before later : List (Address × Word)} {step : Address × Word} {t u : Sink}
      {reason : String} :
    steps = before ++ step :: later → Emitted format s before t →
    (Event.ofStep step.1 step.2).emit format t = (.error reason, u) →
    Wrote format s steps u (some reason)

variable {format : EventFormat} {s t u : Sink} {steps : List (Address × Word)} {n : Nat}

theorem Emitted.taken (h : Emitted format s steps t) :
    t.taken = s.taken ++ Event.stream format steps := by
  induction h with
  | nil s => exact s.taken.append_nil.symm
  | @cons s t u step steps hemit _ ih =>
    obtain ⟨accepted, -, htaken, hall⟩ := Event.took_emit format step s
    rw [hemit] at htaken hall
    rw [ih, htaken, hall rfl, List.append_assoc]
    rfl

theorem Emitted.within (h : Emitted format s steps t) (hs : s.Within n) : t.Within n := by
  induction h with
  | nil => exact hs
  | @cons s t u step steps hemit _ ih =>
    have ht := (hs.emit (Event.ofStep step.1 step.2) format).1
    rw [hemit] at ht
    exact ih ht

theorem Wrote.cons {reason : Option String} {step : Address × Word}
    (hemit : (Event.ofStep step.1 step.2).emit format s = (.ok (), t))
    (h : Wrote format t steps u reason) : Wrote format s (step :: steps) u reason := by
  cases h with
  | all hall => exact .all (.cons hemit hall)
  | stopped hsteps hbefore hfailed =>
    rw [hsteps]
    exact .stopped List.cons_append.symm (.cons hemit hbefore) hfailed

/-- What has been taken is a start of all the lines. -/
theorem Wrote.isPrefix {reason : Option String} (h : Wrote format s steps t reason) :
    t.taken <+: s.taken ++ Event.stream format steps := by
  cases h with
  | all hall => exact hall.taken ▸ List.prefix_rfl
  | @stopped before later step middle _ reason hsteps hbefore hfailed =>
    obtain ⟨accepted, hstart, htaken, -⟩ := Event.took_emit format step middle
    rw [hfailed] at htaken
    have hstream : Event.stream format steps =
        Event.stream format before ++ (Event.line format step ++ Event.stream format later) := by
      rw [hsteps]
      exact List.flatMap_append
    rw [htaken, hbefore.taken, hstream, ← List.append_assoc]
    exact (List.prefix_append_right_inj _).mpr (hstart.trans (List.prefix_append _ _))

/-- With room for so many bytes, all the room is used before writing fails. -/
theorem Wrote.taken_of_within {reason : Option String} (h : Wrote format s steps t reason)
    (hs : s.Within n) : t.taken = (s.taken ++ Event.stream format steps).take n := by
  have hstart := h.isPrefix
  cases h with
  | all hall =>
    have ht := hall.within hs
    have hlength : t.taken.length ≤ n := ht.size_eq ▸ ht.size_le
    rw [← hall.taken, List.take_of_length_le hlength]
  | @stopped before later step middle _ reason hsteps hbefore hfailed =>
    obtain ⟨ht, hfull⟩ := (hbefore.within hs).emit (Event.ofStep step.1 step.2) format
    rw [hfailed] at ht hfull
    have hlength : t.taken.length = n := ht.size_eq ▸ hfull rfl
    rw [← hlength]
    exact List.prefix_iff_eq_take.mp hstart

/-! ## Writers -/

theorem after_cons (o : Observer) (n : Notification) (ns : List Notification) :
    o.after (n :: ns) = (o.notify n).1.after ns := rfl

/-- A writer that has stopped leaves its sink alone, whatever the sink would do. -/
theorem after_stopped (format : EventFormat) (s : Sink) (ns : List Notification) :
    (writer format s true).after ns = writer format s true ∧
      (writer format s true).reports ns = [] := by
  induction ns with
  | nil => exact ⟨rfl, rfl⟩
  | cons n ns ih =>
    have hnotify : (writer format s true).notify n = (writer format s true, []) := by
      cases n <;> rfl
    rw [after_cons, reports, hnotify]
    exact ih

/-- A writer after some notifications has written their words, as far as its sink let it. -/
theorem wrote_after (format : EventFormat) (s : Sink) (ns : List Notification) :
    ∃ t reason, Wrote format s (Notification.steps ns) t reason ∧
      (writer format s false).after ns = writer format t reason.isSome ∧
      (writer format s false).reports ns =
        reason.toList.map fun reason => .notice (.eventsStopped reason) := by
  induction ns generalizing s with
  | nil => exact ⟨s, none, .all (.nil s), rfl, rfl⟩
  | cons n ns ih =>
    cases n with
    | jump a => exact ih s
    | step a w =>
      have hsteps : Notification.steps (.step a w :: ns) = (a, w) :: Notification.steps ns := rfl
      have hnotify : (writer format s false).notify (.step a w) = writeStep format s a w := rfl
      rw [hsteps, after_cons, reports, hnotify, writeStep]
      rcases hemit : (Event.ofStep a w).emit format s with ⟨reason | ⟨⟩, t⟩
      · obtain ⟨hafter, hreports⟩ := after_stopped format t ns
        refine ⟨t, some reason, ?_, hafter, ?_⟩
        · exact .stopped (List.nil_append _).symm (.nil s) hemit
        · rw [hreports]
          rfl
      · obtain ⟨u, reason, hwrote, hafter, hreports⟩ := ih t
        exact ⟨u, reason, hwrote.cons hemit, hafter, hreports⟩

/-- A writer's sink has taken the whole lines of the words before the first that fails, and then a
start of that one's line. The failure is reported once, as a warning, and the sink is as the failure
left it, also if it would take more. Of a sink with room for so many bytes, all the room is used. In
either format each line ends in its one newline. -/
theorem writer_stops_cleanly (format : EventFormat) (sink : Sink) (ns : List Notification) :
    ((∃ t, Emitted format sink (Notification.steps ns) t ∧
        t.taken = sink.taken ++ Event.stream format (Notification.steps ns) ∧
        (writer format sink false).after ns = writer format t false ∧
        (writer format sink false).reports ns = []) ∨
      (∃ before step later t u reason part,
        Notification.steps ns = before ++ step :: later ∧
        Emitted format sink before t ∧
        (Event.ofStep step.1 step.2).emit format t = (.error reason, u) ∧
        part <+: Event.line format step ∧
        u.taken = sink.taken ++ Event.stream format before ++ part ∧
        (writer format sink false).after ns = writer format u true ∧
        (writer format sink false).reports ns = [.notice (.eventsStopped reason)] ∧
        (Notice.eventsStopped reason).level = .warn)) ∧
    (∀ (recovered : Sink) (later : List Notification),
      (writer format recovered true).after later = writer format recovered true ∧
      (writer format recovered true).reports later = []) ∧
    (∀ n, sink.Within n → ∀ t stopped,
      (writer format sink false).after ns = writer format t stopped →
      t.taken = (sink.taken ++ Event.stream format (Notification.steps ns)).take n) ∧
    (∀ step, ∃ body, Event.line format step = body ++ [0x0a] ∧ 0x0a ∉ body) ∧
    (Event.stream format (Notification.steps ns)).count 0x0a = (Notification.steps ns).length := by
  obtain ⟨t, reason, hwrote, hafter, hreports⟩ := wrote_after format sink ns
  refine ⟨?_, after_stopped format, ?_, Event.newline_line format, Event.count_stream format _⟩
  · cases hwrote with
    | all hall => exact .inl ⟨t, hall, hall.taken, hafter, hreports⟩
    | @stopped before later step middle _ reason hsteps hbefore hfailed =>
      obtain ⟨part, hpart, htaken, -⟩ := Event.took_emit format step middle
      rw [hfailed, hbefore.taken] at htaken
      exact .inr ⟨before, step, later, middle, t, reason, part, hsteps, hbefore, hfailed, hpart,
        htaken, hafter, hreports, rfl⟩
  · intro n hwithin t' stopped hafter'
    rw [hafter] at hafter'
    cases hafter'
    exact hwrote.taken_of_within hwithin

/-- A sink with room for the line of one word and a part of the next. -/
def narrow : Sink := { device := .bounded (some 30) (some "full") none }

/-- Two words and the move between them. -/
def twoWords : List Notification := [.step ⟨0⟩ ⟨0⟩, .jump ⟨1⟩, .step ⟨1⟩ ⟨0⟩]

theorem writer_stops_cleanly_narrow :
    narrow.Within 30 ∧ 30 < (Event.stream .pretty (Notification.steps twoWords)).length ∧
    ∃ t, (writer .pretty narrow false).after twoWords = writer .pretty t true ∧
      t.taken = (Event.stream .pretty (Notification.steps twoWords)).take 30 := by
  have hwithin : narrow.Within 30 := ⟨Device.roomFor_bounded 30 (some "full") none, rfl, by decide⟩
  have hlong : 30 < (Event.stream .pretty (Notification.steps twoWords)).length := by decide
  obtain ⟨hends, -, hroom, -⟩ := writer_stops_cleanly .pretty narrow twoWords
  refine ⟨hwithin, hlong, ?_⟩
  rcases hends with ⟨t, -, htaken, hafter, -⟩ | ⟨_, _, _, _, u, _, _, -, -, -, -, -, hafter, -⟩
  · have hcut := congrArg List.length (hroom 30 hwithin t false hafter)
    rw [htaken, List.length_take] at hcut
    have hnil : narrow.taken = [] := rfl
    rw [hnil, List.nil_append] at hcut
    omega
  · exact ⟨u, hafter, hroom 30 hwithin u true hafter⟩

end Observer

end WordMachine
