import Mathlib.Data.List.TakeWhile
import WordMachine.ObjectFile.Reader
import WordMachine.Proofs.ByteOrder
import WordMachine.Proofs.ObjectFile.Image

/-!
# Readers and the forms they accept

A form says which bytes stand for which value. A reader reads a form if it accepts exactly the bytes
of that form, takes all of them, and leaves whatever stands behind them. So one statement about a
reader gives both directions: what is read was written in the form, and what is written in the form
is read. What a reader reports on its way does not matter here.

* `Reader.Reads` : the notion.
* `Reader.reads_bind`, `Reader.reads_ite`, `Reader.reads_many` : how readers are put together.
* `Reader.reads_bytes`, `Reader.reads_number`, `Reader.reads_name` : the fields.
-/

namespace WordMachine

namespace Reader

variable {α β : Type}

/-- A reader accepts exactly the bytes of a form. -/
structure Reads (r : Reader α) (Form : α → List UInt8 → Prop) : Prop where
  /-- What is read stood there in the form. -/
  form {c c' : Cursor} {a : α} : r c = .ok a c' →
    ∃ image, c.rest = image ++ c'.rest ∧ Form a image
  /-- What stands there in the form is read, whatever stands behind it. -/
  accepts {c : Cursor} {a : α} {image rest : List UInt8} : Form a image →
    c.rest = image ++ rest → ∃ c', r c = .ok a c' ∧ c'.rest = rest

theorem Reads.of_iff {r : Reader α} {P Q : α → List UInt8 → Prop} (h : r.Reads P)
    (hPQ : ∀ a image, P a image ↔ Q a image) : r.Reads Q := by
  have : P = Q := funext fun a => funext fun image => propext (hPQ a image)
  exact this ▸ h

/-! ## Putting readers together -/

theorem reads_pure (a : α) : (pure a : Reader α).Reads fun b image => b = a ∧ image = [] where
  form := by
    intro c c' b h
    cases h
    exact ⟨[], rfl, rfl, rfl⟩
  accepts := by
    rintro c b image rest ⟨rfl, rfl⟩ hc
    exact ⟨c, rfl, hc⟩

theorem reads_throw (e : FormatError) : (throw e : Reader α).Reads fun _ _ => False where
  form := by
    intro c c' b h
    cases h
  accepts h := h.elim

theorem reads_bind {r : Reader α} {f : α → Reader β} {P : α → List UInt8 → Prop}
    {Q : α → β → List UInt8 → Prop} (hr : r.Reads P) (hf : ∀ a, (f a).Reads (Q a)) :
    (r >>= f).Reads fun b image => ∃ a xs ys, image = xs ++ ys ∧ P a xs ∧ Q a b ys where
  form := by
    intro c c' b h
    obtain ⟨a, d, hra, hfa⟩ := Effect.bind_eq_ok.mp h
    obtain ⟨xs, hxs, hP⟩ := hr.form hra
    obtain ⟨ys, hys, hQ⟩ := (hf a).form hfa
    refine ⟨xs ++ ys, ?_, a, xs, ys, rfl, hP, hQ⟩
    rw [hxs, hys, List.append_assoc]
  accepts := by
    rintro c b _ rest ⟨a, xs, ys, rfl, hP, hQ⟩ hc
    rw [List.append_assoc] at hc
    obtain ⟨d, hra, hd⟩ := hr.accepts hP hc
    obtain ⟨c', hfa, hc'⟩ := (hf a).accepts hQ hd
    exact ⟨c', Effect.bind_eq_ok.mpr ⟨a, d, hra, hfa⟩, hc'⟩

theorem reads_map {r : Reader α} {P : α → List UInt8 → Prop} (hr : r.Reads P) (f : α → β) :
    (r >>= fun a => pure (f a)).Reads fun b image => ∃ a, b = f a ∧ P a image := by
  refine (reads_bind hr fun a => reads_pure (f a)).of_iff fun b image => ?_
  constructor
  · rintro ⟨a, xs, _, rfl, hP, rfl, rfl⟩
    exact ⟨a, rfl, by rwa [List.append_nil]⟩
  · rintro ⟨a, rfl, hP⟩
    exact ⟨a, image, [], (List.append_nil _).symm, hP, rfl, rfl⟩

theorem reads_ite {p : Prop} [Decidable p] {r s : Reader α} {P Q : α → List UInt8 → Prop}
    (hr : r.Reads P) (hs : s.Reads Q) :
    (if p then r else s).Reads fun a image => (p ∧ P a image) ∨ (¬ p ∧ Q a image) := by
  by_cases hp : p
  · simp only [hp, if_true, true_and, not_true_eq_false, false_and, or_false]
    exact hr
  · simp only [hp, if_false, false_and, not_false_eq_true, true_and, false_or]
    exact hs

theorem reads_note (n : Notice) : (note n).Reads fun _ image => image = [] where
  form := by
    intro c c' a h
    cases h
    exact ⟨[], rfl, rfl⟩
  accepts := by
    rintro c a image rest rfl hc
    exact ⟨_, rfl, hc⟩

/-- A note before a reader changes nothing. -/
theorem reads_note_bind {r : Reader α} {P : α → List UInt8 → Prop} (n : Notice)
    (hr : r.Reads P) : (note n >>= fun _ => r).Reads P := by
  refine (reads_bind (reads_note n) fun _ => hr).of_iff fun a image => ?_
  constructor
  · rintro ⟨-, _, ys, rfl, rfl, h⟩
    exact h
  · intro h
    exact ⟨(), [], image, rfl, rfl, h⟩

/-- Requiring bytes that every accepted image has changes nothing. -/
theorem reads_require_bind {r : Reader α} {P : α → List UInt8 → Prop} {n : Nat} {field : Field}
    (hr : r.Reads P) (hn : ∀ a image, P a image → n ≤ image.length) :
    (require n field >>= fun _ => r).Reads P where
  form := by
    intro c c' a h
    obtain ⟨_, d, hd, hra⟩ := Effect.bind_eq_ok.mp h
    unfold require at hd
    split at hd
    · cases hd
    · cases hd
      exact hr.form hra
  accepts := by
    intro c a image rest hP hc
    obtain ⟨c', hra, hc'⟩ := hr.accepts hP hc
    have hlen : ¬ c.rest.length < n := by
      have := hn a image hP
      rw [hc, List.length_append]
      omega
    exact ⟨c', Effect.bind_eq_ok.mpr ⟨(), c, by simp only [require, if_neg hlen], hra⟩, hc'⟩

/-! ## Fields -/

theorem reads_bytes (n : Nat) (field : Field) :
    (bytes n field).Reads fun a image => a.length = n ∧ image = a where
  form := by
    intro c c' a h
    simp only [bytes] at h
    split at h
    · cases h
    · rename_i hlen
      cases h
      refine ⟨c.rest.take n, (List.take_append_drop n c.rest).symm, ?_, rfl⟩
      have := List.length_take_le n c.rest
      omega
  accepts := by
    rintro c _ image rest ⟨rfl, rfl⟩ hc
    refine ⟨{ c with rest := rest, offset := c.offset + image.length }, ?_, rfl⟩
    simp only [bytes, hc, List.take_left, List.drop_left, lt_irrefl, if_false]

theorem reads_number (order : ByteOrder) (width : Nat) (field : Field) :
    (number order width field).Reads fun n image =>
      n < 256 ^ width ∧ image = order.encode width n := by
  refine (reads_map (reads_bytes width field) order.decode).of_iff fun n image => ?_
  constructor
  · rintro ⟨_, rfl, rfl, rfl⟩
    exact ⟨order.decode_lt image, (order.encode_decode image).symm⟩
  · rintro ⟨hn, rfl⟩
    refine ⟨order.encode width n, ?_, by simp, rfl⟩
    rw [order.decode_encode, Nat.mod_eq_of_lt hn]

theorem isWritable_iff {name : List UInt8} :
    ObjectFile.isWritable name = true ↔ ∀ b ∈ name, b ≠ 0 := by
  simp only [ObjectFile.isWritable, Bool.not_eq_true', List.contains_eq_mem, decide_eq_false_iff_not]
  exact ⟨fun h b hb h0 => h (h0 ▸ hb), fun h h0 => h 0 h0 rfl⟩

theorem reads_name (field : Field) :
    (name field).Reads fun a image =>
      ObjectFile.isWritable a = true ∧ image = ObjectFile.encodeName a where
  form := by
    intro c c' a h
    have hsplit := List.takeWhile_append_dropWhile (p := fun b => decide (b ≠ 0)) (l := c.rest)
    simp only [name] at h
    split at h
    · cases h
    · rename_i b rest hdrop
      cases h
      have hb : b = 0 := by
        have hhead := List.head?_dropWhile_not (fun b => decide (b ≠ 0)) c.rest
        rw [hdrop] at hhead
        simpa using hhead
      refine ⟨ObjectFile.encodeName (c.rest.takeWhile fun b => decide (b ≠ 0)), ?_, ?_, rfl⟩
      · rw [hdrop, hb] at hsplit
        simpa [ObjectFile.encodeName] using hsplit.symm
      · rw [isWritable_iff]
        intro x hx
        simpa using List.mem_takeWhile_imp hx
  accepts := by
    rintro c a _ rest ⟨ha, rfl⟩ hc
    rw [isWritable_iff] at ha
    have hall : ∀ b ∈ a, decide (b ≠ 0) = true := fun b hb => by simpa using ha b hb
    have hc' : c.rest = a ++ 0 :: rest := by simpa [ObjectFile.encodeName] using hc
    have htake : (c.rest.takeWhile fun b => decide (b ≠ 0)) = a := by
      rw [hc', List.takeWhile_append_of_pos hall]
      simp
    have hdrop : (c.rest.dropWhile fun b => decide (b ≠ 0)) = 0 :: rest := by
      rw [hc', List.dropWhile_append_of_pos hall]
      simp
    exact ⟨{ c with rest := rest, offset := c.offset + a.length + 1 },
      by simp only [name, htake, hdrop], rfl⟩

/-! ## Lists -/

section Many

variable {item : Reader α} {Good : α → Prop} {write : α → List UInt8}

/-- The items already read stay in front of those that are read. -/
theorem reads_collect (h : item.Reads fun a image => Good a ∧ image = write a) (n : Nat)
    (done : List α) : (collect item n done).Reads fun as image => ∃ new, as = done.reverse ++ new ∧
      new.length = n ∧ (∀ a ∈ new, Good a) ∧ image = new.flatMap write := by
  induction n generalizing done with
  | zero =>
    refine (reads_pure done.reverse).of_iff fun as image => ?_
    constructor
    · rintro ⟨rfl, rfl⟩
      exact ⟨[], by simp⟩
    · rintro ⟨new, rfl, hlen, -, rfl⟩
      simp [List.length_eq_zero_iff.mp hlen]
  | succ n ih =>
    refine (reads_bind h fun a => ih (a :: done)).of_iff fun as image => ?_
    constructor
    · rintro ⟨a, _, _, rfl, ⟨ha, rfl⟩, new, rfl, rfl, hnew, rfl⟩
      exact ⟨a :: new, by simp, rfl, by simpa [ha] using hnew, by simp⟩
    · rintro ⟨new, rfl, hlen, hnew, rfl⟩
      obtain ⟨a, new, rfl⟩ := List.exists_cons_of_length_eq_add_one hlen
      simp only [List.forall_mem_cons] at hnew
      exact ⟨a, write a, new.flatMap write, by simp, ⟨hnew.1, rfl⟩, new, by simp,
        by simpa using hlen, hnew.2, rfl⟩

theorem reads_many (h : item.Reads fun a image => Good a ∧ image = write a) (n : Nat) :
    (many n item).Reads fun as image =>
      as.length = n ∧ (∀ a ∈ as, Good a) ∧ image = as.flatMap write :=
  (reads_collect h n []).of_iff fun as image => by simp

end Many

end Reader

end WordMachine
