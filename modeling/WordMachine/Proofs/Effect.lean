/-!
# Computations on a state that may fail

How a sequence of two computations ends, and triples that say what holds after a computation, both
when it succeeds and when it fails.

* `Effect.bind_eq_ok`, `Effect.bind_eq_error` : the ends of a sequence.
* `Effect.Triple`, `Effect.triple_bind` : triples, and how they follow one another.
* `Effect.Keeps` : a property kept by success and failure alike.
* `Effect.Agrees` : two computations that do the same from states with a property.
* `Effect.Matches`, `Effect.matches_bind` : two computations that keep a relation between states.
-/

namespace WordMachine

namespace Effect

variable {ε σ α β : Type}

/-! ## Sequences -/

theorem bind_eq_ok {x : EStateM ε σ α} {f : α → EStateM ε σ β} {s t : σ} {b : β} :
    (x >>= f) s = .ok b t ↔ ∃ a u, x s = .ok a u ∧ f a u = .ok b t := by
  cases hx : x s with
  | error e u => simp [bind, EStateM.bind, hx]
  | ok a u =>
    simp only [bind, EStateM.bind, hx, EStateM.Result.ok.injEq]
    constructor
    · intro h
      exact ⟨a, u, ⟨rfl, rfl⟩, h⟩
    · rintro ⟨_, _, ⟨rfl, rfl⟩, h⟩
      exact h

theorem bind_of_ok {x : EStateM ε σ α} {s t : σ} {a : α} (h : x s = .ok a t)
    (f : α → EStateM ε σ β) : (x >>= f) s = f a t := by
  simp only [bind, EStateM.bind, h]

theorem pure_eq_ok {a b : α} {s t : σ} :
    (pure a : EStateM ε σ α) s = .ok b t ↔ b = a ∧ t = s := by
  show EStateM.Result.ok a s = .ok b t ↔ _
  rw [EStateM.Result.ok.injEq, eq_comm, @eq_comm σ]

/-- A computation that is refused under a condition succeeds without it. -/
theorem refused_eq_ok {p : Prop} [Decidable p] {e : ε} {x : EStateM ε σ α} {s t : σ} {a : α} :
    (if p then (throw e : EStateM ε σ β) >>= fun _ => x else x) s = .ok a t ↔
      ¬ p ∧ x s = .ok a t := by
  by_cases hp : p
  · rw [if_pos hp, bind_eq_ok]
    constructor
    · rintro ⟨_, _, hthrow, -⟩
      cases hthrow
    · rintro ⟨hnot, -⟩
      exact absurd hp hnot
  · rw [if_neg hp, and_iff_right hp]

/-- A sequence fails in its first part, or in its second part after the first has succeeded. -/
theorem bind_eq_error {x : EStateM ε σ α} {f : α → EStateM ε σ β} {s t : σ} {e : ε} :
    (x >>= f) s = .error e t ↔ x s = .error e t ∨ ∃ a u, x s = .ok a u ∧ f a u = .error e t := by
  cases hx : x s with
  | error e u => simp [bind, EStateM.bind, hx]
  | ok a u =>
    simp only [bind, EStateM.bind, hx, EStateM.Result.ok.injEq, reduceCtorEq, false_or]
    constructor
    · intro h
      exact ⟨a, u, ⟨rfl, rfl⟩, h⟩
    · rintro ⟨_, _, ⟨rfl, rfl⟩, h⟩
      exact h

theorem except_bind_eq_error {x : Except ε α} {f : α → Except ε β} {e : ε} :
    (x >>= f) = .error e ↔ x = .error e ∨ ∃ a, x = .ok a ∧ f a = .error e := by
  cases x <;> simp [bind, Except.bind]

theorem except_map_eq_ok {x : Except ε α} {f : α → β} {b : β} :
    (x >>= fun a => pure (f a)) = .ok b ↔ ∃ a, x = .ok a ∧ f a = b := by
  cases x <;> simp [bind, Except.bind, pure, Except.pure]

theorem except_map_eq_error {x : Except ε α} {f : α → β} {e : ε} :
    (x >>= fun a => pure (f a)) = .error e ↔ x = .error e := by
  cases x <;> simp [bind, Except.bind, pure, Except.pure]

/-! ## Triples -/

/-- From a state with `P`, a computation that succeeds gives a result and a state with `Q`, and one
that fails gives a reason and a state with `E`. -/
structure Triple (P : σ → Prop) (x : EStateM ε σ α) (Q : α → σ → Prop) (E : ε → σ → Prop) :
    Prop where
  ok {s t : σ} {a : α} : P s → x s = .ok a t → Q a t
  error {s t : σ} {e : ε} : P s → x s = .error e t → E e t

/-- A computation that starts in a state with a property ends in one, failing or not. -/
abbrev Keeps (I : σ → Prop) (x : EStateM ε σ α) : Prop := Triple I x (fun _ => I) (fun _ => I)

variable {P P' : σ → Prop} {Q : α → σ → Prop} {E : ε → σ → Prop} {x y : EStateM ε σ α}

theorem Triple.of_pre (h : Triple P x Q E) (hP : ∀ s, P' s → P s) : Triple P' x Q E where
  ok hs hx := h.ok (hP _ hs) hx
  error hs hx := h.error (hP _ hs) hx

/-- What does not depend on the state may be assumed. -/
theorem triple_and {p : Prop} (h : p → Triple P x Q E) : Triple (fun s => p ∧ P s) x Q E where
  ok hs hx := (h hs.1).ok hs.2 hx
  error hs hx := (h hs.1).error hs.2 hx

theorem triple_pure {a : α} (h : ∀ s, P s → Q a s) : Triple P (pure a) Q E where
  ok hs hx := by cases hx; exact h _ hs
  error _ hx := by cases hx

theorem triple_throw {e : ε} (h : ∀ s, P s → E e s) :
    Triple P (throw e : EStateM ε σ α) Q E where
  ok _ hx := by cases hx
  error hs hx := by cases hx; exact h _ hs

theorem triple_get {Q : σ → σ → Prop} (h : ∀ s, P s → Q s s) :
    Triple P (get : EStateM ε σ σ) Q E where
  ok hs hx := by cases hx; exact h _ hs
  error _ hx := by cases hx

theorem triple_modify {f : σ → σ} {Q : PUnit → σ → Prop} (h : ∀ s, P s → Q ⟨⟩ (f s)) :
    Triple P (modify f : EStateM ε σ PUnit) Q E where
  ok hs hx := by cases hx; exact h _ hs
  error _ hx := by cases hx

theorem triple_ite {p : Prop} [Decidable p] (hx : Triple P x Q E) (hy : Triple P y Q E) :
    Triple P (if p then x else y) Q E := by
  split
  · exact hx
  · exact hy

theorem triple_bind {f : α → EStateM ε σ β} {R : β → σ → Prop} (hx : Triple P x Q E)
    (hf : ∀ a, Triple (Q a) (f a) R E) : Triple P (x >>= f) R E where
  ok hs h := by
    obtain ⟨a, u, hxa, hfa⟩ := bind_eq_ok.mp h
    exact (hf a).ok (hx.ok hs hxa) hfa
  error hs h := by
    rcases bind_eq_error.mp h with hxe | ⟨a, u, hxa, hfe⟩
    · exact hx.error hs hxe
    · exact (hf a).error (hx.ok hs hxa) hfe

/-! ## Agreement -/

/-- Two computations end alike from every state with a property. -/
def Agrees (I : σ → Prop) (x y : EStateM ε σ α) : Prop := ∀ s, I s → x s = y s

theorem agrees_refl (x : EStateM ε σ α) : Agrees P x x := fun _ _ => rfl

/-- Sequences agree if their parts do, and the first part keeps the property. -/
theorem agrees_bind {f g : α → EStateM ε σ β} (hxy : Agrees P x y) (hy : Keeps P y)
    (hfg : ∀ a, Agrees P (f a) (g a)) : Agrees P (x >>= f) (y >>= g) := by
  intro s hs
  simp only [bind, EStateM.bind, hxy s hs]
  cases h : y s with
  | ok a t => exact hfg a t (hy.ok hs h)
  | error e t => rfl

/-! ## Matching -/

/-- Two computations ended alike: with related results or for the same reason, in related states. -/
inductive EndedAlike (R : σ → σ → Prop) (V : α → β → Prop) :
    EStateM.Result ε σ α → EStateM.Result ε σ β → Prop where
  | ok {a : α} {b : β} {s t : σ} : V a b → R s t → EndedAlike R V (.ok a s) (.ok b t)
  | error {e : ε} {s t : σ} : R s t → EndedAlike R V (.error e s) (.error e t)

/-- From related states, two computations end alike. -/
def Matches (R : σ → σ → Prop) (V : α → β → Prop) (x : EStateM ε σ α) (y : EStateM ε σ β) : Prop :=
  ∀ s t, R s t → EndedAlike R V (x s) (y t)

section Matching

variable {γ δ : Type} {R : σ → σ → Prop} {V : α → β → Prop} {W : γ → δ → Prop}

theorem matches_pure {a : α} {b : β} (h : V a b) :
    Matches R V (pure a : EStateM ε σ α) (pure b) :=
  fun _ _ hst => .ok h hst

theorem matches_throw (e : ε) :
    Matches R V (throw e : EStateM ε σ α) (throw e : EStateM ε σ β) :=
  fun _ _ hst => .error hst

theorem matches_get : Matches R R (get : EStateM ε σ σ) get :=
  fun _ _ hst => .ok hst hst

theorem matches_modify {f g : σ → σ} (h : ∀ s t, R s t → R (f s) (g t)) :
    Matches R Eq (modify f : EStateM ε σ PUnit) (modify g) :=
  fun s t hst => .ok rfl (h s t hst)

theorem matches_bind {x : EStateM ε σ α} {y : EStateM ε σ β} {f : α → EStateM ε σ γ}
    {g : β → EStateM ε σ δ} (hxy : Matches R V x y) (hfg : ∀ a b, V a b → Matches R W (f a) (g b)) :
    Matches R W (x >>= f) (y >>= g) := by
  intro s t hst
  have h := hxy s t hst
  simp only [bind, EStateM.bind]
  generalize x s = r at h ⊢
  generalize y t = r' at h ⊢
  cases h with
  | ok hab hst' => exact hfg _ _ hab _ _ hst'
  | error hst' => exact .error hst'

/-- Sequences match if their first parts do with equal results. -/
theorem matches_seq {x y : EStateM ε σ α} {f : α → EStateM ε σ γ} {g : α → EStateM ε σ δ}
    (hxy : Matches R Eq x y) (hfg : ∀ a, Matches R W (f a) (g a)) :
    Matches R W (x >>= f) (y >>= g) := by
  refine matches_bind hxy ?_
  rintro a _ rfl
  exact hfg a

theorem matches_ite {p : Prop} [Decidable p] {x x' : EStateM ε σ α} {y y' : EStateM ε σ β}
    (h : Matches R V x y) (h' : Matches R V x' y') :
    Matches R V (if p then x else x') (if p then y else y') := by
  split
  · exact h
  · exact h'

end Matching

end Effect

end WordMachine
