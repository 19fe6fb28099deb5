import WordMachine.Proofs.Session.Notifications

/-!
# Code as its listing shows it

A listing shows the instruction of a word, and not the bits that its operation does not use. Code
with these bits cleared runs as it did: every state, the world and the ending stay the same. Only
observers and reports, which show the words themselves, can tell the difference.

* `equivalentCode_canonical` : clearing the bits of all words keeps their effects.
* `Session.canonical_runs_alike` : and so it keeps all runs.
-/

namespace WordMachine

theorem equivalentCode_canonical (code : Array Word) :
    EquivalentCode code (code.map Word.canonical) where
  size_eq := Array.size_map
  word {i w w'} h h' := by
    rw [Array.getElem?_map, h] at h'
    cases h'
    exact w.equivalent_canonical

namespace Session

/-- Clearing the bits that the operations of the code do not use changes no run, from whatever entry
and with whatever host: after every turn the machines differ in their reports only, the worlds are
the same, and the observer was told of the same addresses, with the words of the changed code. A
bounded run ends, or does not end, in the same way. -/
theorem canonical_runs_alike (s : Session) (code : Array Word) (entry : Address) :
    let code' := code.map Word.canonical
    (∀ hosts n,
      let stage := (s.start code entry).course hosts code n
      let stage' := (s.start code' entry).course hosts code' n
      let told := (s.start code entry).notifications hosts code n
      stage.Alike stage' ∧
      stage.session.observer = s.observer.after told ∧
      stage'.session.observer =
        s.observer.after (told.map (Notification.mapWord Word.canonical))) ∧
    ∀ bound, Option.Rel (fun p q => p.1 = q.1 ∧ p.2.Alike q.2)
      (s.execute code entry bound) (s.execute code' entry bound) := by
  intro code'
  have hcode : EquivalentCode code code' := equivalentCode_canonical code
  have hstart : (s.start code entry).Alike (s.start code' entry) :=
    alike_start s s.observer code code' entry
  refine ⟨fun hosts n => ⟨?_, ?_, ?_⟩, fun bound => ?_⟩
  · exact alike_course hcode hstart hosts n
  · exact observer_course hosts code _ n
  · rw [observer_course, notifications_map hcode hstart]
    rfl
  · exact alike_run hcode hstart bound

-- A return uses neither register, and a goto only the first.
example : Word.canonical (.ofOperands .ret 3 5) = .ofOperands .ret 0 0 ∧
    Word.canonical (.ofOperands .goto 3 5) = .ofOperands .goto 3 0 := by decide

end Session

end WordMachine
