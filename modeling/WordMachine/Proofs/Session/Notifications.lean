import WordMachine.Proofs.Session.Alike

/-!
# What observers are told

A run tells its observer of each word before it is executed, and then of the address where it goes
on: the address of the next word, if there is one. The last word of a run that exits or faults is
followed by no address. All observers are told the same, and none has a say in the run.

* `Session.notifications` : what a run has told after some turns.
* `Session.observer_course` : every observer has been told just that.
* `Announced`, `Stage.Follows` : the order in which it is told.
* `Session.observer_protocol` : every run keeps to this order, whatever the observer.
-/

namespace WordMachine

/-- An observer after some notifications. -/
def Observer.after (o : Observer) (ns : List Notification) : Observer :=
  ns.foldl (fun o n => (o.notify n).1) o

theorem Observer.after_append (o : Observer) (ns ns' : List Notification) :
    o.after (ns ++ ns') = (o.after ns).after ns' :=
  List.foldl_append

/-- A recorder of words and moves has the event of every notification, the newest first. -/
theorem Observer.after_recorder (events : List Event) (ns : List Notification) :
    (recorder true events).after ns =
      recorder true ((ns.map Notification.event).reverse ++ events) := by
  induction ns generalizing events with
  | nil => rfl
  | cons n ns ih =>
    have hnotify : ((recorder true events).notify n).1 = recorder true (n.event :: events) := by
      cases n <;> rfl
    have hcons : (recorder true events).after (n :: ns) =
        (recorder true (n.event :: events)).after ns := congrArg (Observer.after · ns) hnotify
    rw [hcons, ih]
    simp

/-! ## The notifications of a run -/

namespace Session

/-- What a turn that comes to a stage tells the observer. -/
def told (code : Array Word) (s : Session) (stage : Stage) : List Notification :=
  match fetch code s.machine.counter with
  | .word w =>
    .step s.machine.counter w ::
      match stage with
      | .running t => [.jump t.machine.counter]
      | _ => []
  | _ => []

/-- What a run has told its observer after some turns. -/
def notifications (hosts : Nat → Host) (code : Array Word) (s : Session) : Nat → List Notification
  | 0 => []
  | n + 1 =>
    notifications hosts code s n ++
      match s.course hosts code n with
      | .running t => t.told code (t.turnWith (hosts n) code)
      | _ => []

variable {s t : Session} {hosts : Nat → Host} {code : Array Word}

theorem observer_turnWith (host : Host) (code : Array Word) (s : Session) :
    (s.turnWith host code).session.observer =
      s.observer.after (s.told code (s.turnWith host code)) := by
  have hturned := turned host code s
  unfold told
  generalize s.turnWith host code = stage at hturned ⊢
  cases hturned with
  | outside hfetch | finished hfetch =>
    rw [hfetch]
    rfl
  | moved hfetch | faulted hfetch | exited hfetch | answered hfetch | refused hfetch =>
    rw [hfetch]
    rfl

/-- The observer of a run has been told its notifications, and nothing else. -/
theorem observer_course (hosts : Nat → Host) (code : Array Word) (s : Session) (n : Nat) :
    (s.course hosts code n).session.observer =
      s.observer.after (s.notifications hosts code n) := by
  induction n with
  | zero => rfl
  | succ n ih =>
    rw [notifications, Observer.after_append, ← ih]
    cases hn : s.course hosts code n with
    | running t =>
      rw [course_succ_of_running hn]
      exact observer_turnWith (hosts n) code t
    | ended ending t =>
      rw [course_succ_of_ended hn]
      rfl
    | waiting request t => exact absurd hn (course_ne_waiting request)

end Session

/-- A notification with its word changed. -/
def Notification.mapWord (f : Word → Word) : Notification → Notification
  | step a w => step a (f w)
  | jump a => jump a

theorem fetch_map (f : Word → Word) (code : Array Word) (a : Address) :
    fetch (code.map f) a =
      match fetch code a with
      | .word w => .word (f w)
      | fetched => fetched := by
  unfold fetch
  cases a.space with
  | static => rfl
  | dynamic =>
    rw [Array.getElem?_map, Array.size_map]
    cases code[a.toNat]? with
    | some w => rfl
    | none => by_cases hsize : a.toNat = code.size <;> simp [hsize]

namespace Session

variable {s t : Session}

/-- Alike runs of code with words of the same effect tell of the same addresses, each with its own
words. -/
theorem notifications_map {f : Word → Word} {code : Array Word}
    (hcode : EquivalentCode code (code.map f)) (h : s.Alike t) (hosts : Nat → Host) (n : Nat) :
    t.notifications hosts (code.map f) n =
      (s.notifications hosts code n).map (Notification.mapWord f) := by
  induction n with
  | zero => rfl
  | succ n ih =>
    have hcourse := alike_course hcode h hosts n
    rw [notifications, notifications, ih, List.map_append]
    congr 1
    generalize s.course hosts code n = stage at hcourse ⊢
    generalize t.course hosts (code.map f) n = stage' at hcourse ⊢
    cases hcourse with
    | @running u v halike =>
      have hturn := alike_turnWith hcode halike (hosts n)
      dsimp only
      unfold told
      rw [fetch_map, halike.counter_eq]
      cases fetch code u.machine.counter with
      | outside | finished => rfl
      | word w =>
        generalize u.turnWith (hosts n) code = stage at hturn ⊢
        generalize v.turnWith (hosts n) (code.map f) = stage' at hturn ⊢
        cases hturn with
        | running hmoved => simp [Notification.mapWord, hmoved.counter_eq]
        | ended | waiting => rfl
    | ended | waiting => rfl

/-- Whatever the observer, it is told the same. -/
theorem notifications_eq (h : s.Alike t) (hosts : Nat → Host) (code : Array Word) (n : Nat) :
    t.notifications hosts code n = s.notifications hosts code n := by
  have hcode : EquivalentCode code (code.map id) := by
    rw [Array.map_id]
    exact equivalentCode_refl code
  have hid : Notification.mapWord id = id := by
    funext notification
    cases notification <;> rfl
  have hmap := notifications_map hcode h hosts n
  rwa [Array.map_id, hid, List.map_id] at hmap

end Session

/-! ## The order of notifications -/

/-- Words of the code and the addresses behind them, in turn: each word stands at the address told
before it, the first at a first address, and the last address told is a last one. -/
inductive Announced (code : Array Word) : Address → List Notification → Address → Prop where
  | nil (a : Address) : Announced code a [] a
  | cons {a b c : Address} {w : Word} {ns : List Notification} :
    a.space = .dynamic → code[a.toNat]? = some w → Announced code b ns c →
    Announced code a (.step a w :: .jump b :: ns) c

/-- The words told, with their addresses. -/
def Notification.steps (ns : List Notification) : List (Address × Word) :=
  ns.filterMap fun
    | step a w => some (a, w)
    | jump _ => none

/-- The addresses told where a run goes on. -/
def Notification.jumps (ns : List Notification) : List Address :=
  ns.filterMap fun
    | step _ _ => none
    | jump a => some a

namespace Announced

variable {code : Array Word} {a b c : Address} {ns ns' : List Notification}

theorem append (h : Announced code a ns b) (h' : Announced code b ns' c) :
    Announced code a (ns ++ ns') c := by
  induction h with
  | nil => exact h'
  | cons hspace hword _ ih => exact .cons hspace hword (ih h')

theorem length_steps (h : Announced code a ns b) :
    (Notification.steps ns).length = (Notification.jumps ns).length := by
  induction h with
  | nil => rfl
  | cons _ _ _ ih => exact congrArg (· + 1) ih

theorem getLastD_jumps (h : Announced code a ns b) : (Notification.jumps ns).getLastD a = b := by
  induction h with
  | nil => rfl
  | @cons a b c w ns _ _ _ ih =>
    have hcons : Notification.jumps (.step a w :: .jump b :: ns) = b :: Notification.jumps ns := rfl
    rw [hcons, List.getLastD_cons, ih]

end Announced

/-- Every word told is followed by an address, and the last address is a given one. -/
structure Complete (code : Array Word) (entry : Address) (ns : List Notification)
    (last : Address) : Prop where
  announced : Announced code entry ns last
  balanced : (Notification.steps ns).length = (Notification.jumps ns).length
  last_jump : (Notification.jumps ns).getLastD entry = last

/-- The last word told, at a given address, is followed by no address. -/
structure Interrupted (code : Array Word) (entry : Address) (ns : List Notification)
    (last : Address) : Prop where
  announced : ∃ before w, ns = before ++ [.step last w] ∧ Announced code entry before last
  unbalanced : (Notification.steps ns).length = (Notification.jumps ns).length + 1
  last_step : ∃ w, (Notification.steps ns).getLast? = some (last, w) ∧
    last.space = .dynamic ∧ code[last.toNat]? = some w

theorem Announced.complete {code : Array Word} {entry last : Address} {ns : List Notification}
    (h : Announced code entry ns last) : Complete code entry ns last where
  announced := h
  balanced := h.length_steps
  last_jump := h.getLastD_jumps

theorem Announced.interrupted {code : Array Word} {entry last : Address} {ns : List Notification}
    {w : Word} (h : Announced code entry ns last) (hspace : last.space = .dynamic)
    (hword : code[last.toNat]? = some w) :
    Interrupted code entry (ns ++ [.step last w]) last := by
  have hsteps : Notification.steps (ns ++ [.step last w]) = Notification.steps ns ++ [(last, w)] :=
    List.filterMap_append
  have hjumps : Notification.jumps (ns ++ [.step last w]) = Notification.jumps ns := by
    simp [Notification.jumps]
  refine ⟨⟨ns, w, rfl, h⟩, ?_, w, ?_, hspace, hword⟩
  · rw [hsteps, hjumps, List.length_append, h.length_steps]
    rfl
  · rw [hsteps, List.getLast?_append]
    rfl

/-- What a run that stands at a stage has told since it was at an entry address. -/
def Stage.Follows (code : Array Word) (entry : Address) (ns : List Notification) : Stage → Prop
  | .running t => Complete code entry ns t.machine.counter
  | .ended (.ok .endOfCode) _ =>
    ∃ last, Complete code entry ns last ∧ last.space = .dynamic ∧ last.toNat = code.size
  | .ended (.error (.counterOutOfRange a _)) _ => Complete code entry ns a
  | .ended _ t => Interrupted code entry ns t.machine.counter
  | .waiting _ _ => False

theorem Stage.follows_ended {code : Array Word} {entry : Address} {ns : List Notification}
    {ending : Ending} {t : Session} (hending : ending.OfWord)
    (h : Interrupted code entry ns t.machine.counter) :
    (Stage.ended ending t).Follows code entry ns := by
  unfold Follows
  split
  · rename_i heq
    cases heq
  · rename_i heq
    cases heq
    cases hending
  · rename_i heq
    cases heq
    cases hending
  · rename_i heq
    cases heq
    exact h
  · rename_i heq
    cases heq

namespace Session

variable {s t : Session} {host : Host} {code : Array Word} {entry : Address}
  {ns : List Notification}

/-- A turn tells what is due next. -/
theorem follows_turnWith (h : Announced code entry ns s.machine.counter) :
    (s.turnWith host code).Follows code entry (ns ++ s.told code (s.turnWith host code)) := by
  unfold told
  cases hturn : s.turnWith host code with
  | running t =>
    obtain ⟨w, hfetch, -⟩ := turnWith_running hturn
    obtain ⟨hspace, hword⟩ := fetch_eq_word.mp hfetch
    rw [hfetch]
    exact (h.append (.cons hspace hword (.nil _))).complete
  | ended ending t =>
    obtain ⟨⟨-, hcounter⟩, hending⟩ := turnWith_ended hturn
    cases hfetch : fetch code s.machine.counter with
    | outside =>
      rw [hfetch] at hending
      subst hending
      rw [List.append_nil]
      exact h.complete
    | finished =>
      rw [hfetch] at hending
      subst hending
      rw [List.append_nil]
      exact ⟨_, h.complete, fetch_eq_finished.mp hfetch⟩
    | word w =>
      rw [hfetch] at hending
      obtain ⟨hspace, hword⟩ := fetch_eq_word.mp hfetch
      apply Stage.follows_ended hending
      rw [hcounter]
      exact h.interrupted hspace hword
  | waiting request t => exact absurd hturn (turnWith_ne_waiting host code request)

/-- All along a run, what was told is in order. -/
theorem follows_course (hosts : Nat → Host) (code : Array Word) (s : Session) (n : Nat) :
    (s.course hosts code n).Follows code s.machine.counter (s.notifications hosts code n) := by
  induction n with
  | zero => exact (Announced.nil _).complete
  | succ n ih =>
    rw [notifications]
    cases hn : s.course hosts code n with
    | running t =>
      rw [hn] at ih
      rw [course_succ_of_running hn]
      exact follows_turnWith ih.announced
    | ended ending t =>
      rw [hn] at ih
      rw [course_succ_of_ended hn, List.append_nil]
      exact ih
    | waiting request t => exact absurd hn (course_ne_waiting request)

/-- Every run from an entry address tells of words and addresses in order, the first word at the
entry, and how it ends shows in what it told last. Whatever the observer, it is told just that, and
the run goes the same way: with the same result and world, and with the same machine apart from its
reports. -/
theorem observer_protocol (s : Session) (code : Array Word) (entry : Address) :
    (∀ hosts n,
      let stage := (s.start code entry).course hosts code n
      let told := (s.start code entry).notifications hosts code n
      stage.Follows code entry told ∧
      ∀ observer,
        let stage' := ({ s with observer }.start code entry).course hosts code n
        stage.Alike stage' ∧ stage'.session.observer = observer.after told ∧
        ∀ events, observer = .recorder true events →
          stage'.session.observer =
            .recorder true ((told.map Notification.event).reverse ++ events)) ∧
    ∀ bound observer,
      Option.Rel (fun p q => p.1 = q.1 ∧ p.2.Alike q.2)
        (s.execute code entry bound) ({ s with observer }.execute code entry bound) ∧
      ∀ ending t, { s with observer }.execute code entry bound = some (ending, t) →
        let told := (s.start code entry).notifications (fun _ => World.answer) code bound
        (Stage.ended ending t).Follows code entry told ∧ t.observer = observer.after told := by
  have hstart : ∀ observer, (s.start code entry).Alike ({ s with observer }.start code entry) :=
    fun observer => alike_start s observer code code entry
  have hobserver : ∀ hosts n observer,
      (({ s with observer }.start code entry).course hosts code n).session.observer =
        observer.after ((s.start code entry).notifications hosts code n) := by
    intro hosts n observer
    rw [observer_course, notifications_eq (hstart observer)]
    rfl
  refine ⟨fun hosts n => ⟨follows_course hosts code _ n, fun observer => ⟨?_, ?_, ?_⟩⟩,
    fun bound observer => ⟨?_, ?_⟩⟩
  · exact alike_course (equivalentCode_refl code) (hstart observer) hosts n
  · exact hobserver hosts n observer
  · rintro events rfl
    rw [hobserver, Observer.after_recorder]
  · exact alike_run (equivalentCode_refl code) (hstart observer) bound
  · intro ending t hend
    have hcourse := execute_eq_some.mp hend
    have hfollows := follows_course (fun _ => World.answer) code
      ({ s with observer }.start code entry) bound
    have htold := hobserver (fun _ => World.answer) bound observer
    rw [hcourse, notifications_eq (hstart observer)] at hfollows
    rw [hcourse] at htold
    exact ⟨hfollows, htold⟩

/-- Goes on once, and then divides by zero. -/
def dividing : Array Word := #[.ofOperands .nop 0 0, .ofOperands (.binary .div) 1 2]

theorem observer_protocol_dividing : ∃ t : Session,
    { machine := .ofFixed ∅, observer := .recorder true [] : Session }.execute dividing ⟨0⟩ 2 =
      some (.error (.divisionByZero ⟨1⟩), t) ∧
    Interrupted dividing ⟨0⟩
      [.step ⟨0⟩ (.ofOperands .nop 0 0), .jump ⟨1⟩,
        .step ⟨1⟩ (.ofOperands (.binary .div) 1 2)] ⟨1⟩ ∧
    t.observer = .recorder true
      [.ofStep ⟨1⟩ (.ofOperands (.binary .div) 1 2), .ofJump ⟨1⟩,
        .ofStep ⟨0⟩ (.ofOperands .nop 0 0)] := by
  obtain ⟨-, hexecute⟩ := observer_protocol { machine := .ofFixed ∅ } dividing ⟨0⟩
  obtain ⟨-, hended⟩ := hexecute 2 (.recorder true [])
  obtain ⟨hfollows, hobserver⟩ := hended (.error (.divisionByZero ⟨1⟩)) _ rfl
  exact ⟨_, rfl, hfollows, hobserver⟩

end Session

end WordMachine
