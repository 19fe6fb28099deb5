import WordMachine.Proofs.ObjectFile.RoundTrip

/-!
# Images that are cut short

A reader refuses an image for one of two kinds of reasons. The image ends inside a field; then more
bytes might have helped. Or the reader has seen something that no following byte can mend, and then
it refuses every image with the same front. Success does not depend on what follows either. So an
image that is cut short can be refused for its end only: every other answer would be the answer for
the whole image too, and the whole image is accepted.

* `Reader.Decisive` : readers whose answers stand, unless they miss bytes.
* `Reader.decisive_bind`, `Reader.decisive_many` : how such readers are put together.
* `Reader.decisive_objectFile` : reading object files is decisive.
* `ObjectFile.decode_truncated` : what is said of an image that is cut short.
-/

namespace WordMachine

/-- A reason that bytes are missing, at an offset that is at most `n`. -/
def FormatError.MissesBytes (n : Nat) (e : FormatError) : Prop :=
  ∃ field offset, e = .unexpectedEnd field offset ∧ offset ≤ n

namespace Reader

variable {α β : Type}

/-- A reader that misses bytes, or else refuses whatever follows. It never moves the end of the
image. -/
structure Decisive (r : Reader α) : Prop where
  total {c c' : Cursor} {a : α} : r c = .ok a c' → c'.total = c.total
  refuses {c c' : Cursor} {e : FormatError} : r c = .error e c' →
    e.MissesBytes c.total ∨ ∀ d more, d.rest = c.rest ++ more → ∃ d', r d = .error e d'

/-! ## Putting readers together -/

theorem decisive_pure (a : α) : (pure a : Reader α).Decisive where
  total h := by cases h; rfl
  refuses h := by cases h

theorem decisive_throw (e : FormatError) : (throw e : Reader α).Decisive where
  total h := by cases h
  refuses h := by
    cases h
    exact Or.inr fun d _ _ => ⟨d, rfl⟩

theorem decisive_note (n : Notice) : (note n).Decisive where
  total h := by cases h; rfl
  refuses h := by cases h

/-- The second reader answers for the same bytes, because the first one leaves the same rest. -/
theorem decisive_bind {r : Reader α} {f : α → Reader β} {P : α → List UInt8 → Prop}
    (hreads : r.Reads P) (hr : r.Decisive) (hf : ∀ a, (f a).Decisive) : (r >>= f).Decisive where
  total h := by
    obtain ⟨a, u, hra, hfa⟩ := Effect.bind_eq_ok.mp h
    exact ((hf a).total hfa).trans (hr.total hra)
  refuses {c c' e} h := by
    rcases Effect.bind_eq_error.mp h with hre | ⟨a, u, hra, hfe⟩
    · rcases hr.refuses hre with hmiss | hstands
      · exact Or.inl hmiss
      · refine Or.inr fun d more hd => ?_
        obtain ⟨d', hd'⟩ := hstands d more hd
        exact ⟨d', Effect.bind_eq_error.mpr (Or.inl hd')⟩
    · rcases (hf a).refuses hfe with hmiss | hstands
      · rw [hr.total hra] at hmiss
        exact Or.inl hmiss
      · refine Or.inr fun d more hd => ?_
        obtain ⟨image, hc, hP⟩ := hreads.form hra
        have hrest : d.rest = image ++ (u.rest ++ more) := by
          rw [hd, hc, List.append_assoc]
        obtain ⟨v, hrv, hv⟩ := hreads.accepts hP hrest
        obtain ⟨d', hd'⟩ := hstands v more hv
        exact ⟨d', Effect.bind_eq_error.mpr (Or.inr ⟨a, v, hrv, hd'⟩)⟩

theorem decisive_map {r : Reader α} {P : α → List UInt8 → Prop} (hreads : r.Reads P)
    (hr : r.Decisive) (f : α → β) : (r >>= fun a => pure (f a)).Decisive :=
  decisive_bind hreads hr fun a => decisive_pure (f a)

theorem decisive_note_bind {r : Reader α} (n : Notice) (hr : r.Decisive) :
    (note n >>= fun _ => r).Decisive :=
  decisive_bind (reads_note n) (decisive_note n) fun _ => hr

theorem decisive_ite {p : Prop} [Decidable p] {r s : Reader α} (hr : r.Decisive)
    (hs : s.Decisive) : (if p then r else s).Decisive := by
  split
  · exact hr
  · exact hs

/-! ## Fields -/

theorem decisive_bytes (n : Nat) (field : Field) : (bytes n field).Decisive where
  total {c c' a} h := by
    simp only [bytes] at h
    split at h
    · cases h
    · rename_i hlen
      cases h
      have htake := List.length_take_le' n c.rest
      simp only [Cursor.total, List.length_drop]
      omega
  refuses {c c' e} h := by
    simp only [bytes] at h
    split at h
    · cases h
      exact Or.inl ⟨field, c.offset, rfl, Nat.le_add_right _ _⟩
    · cases h

theorem decisive_number (order : ByteOrder) (width : Nat) (field : Field) :
    (number order width field).Decisive :=
  decisive_map (reads_bytes width field) (decisive_bytes width field) order.decode

theorem decisive_name (field : Field) : (name field).Decisive where
  total {c c' a} h := by
    have hsplit := List.takeWhile_append_dropWhile (p := fun b => decide (b ≠ 0)) (l := c.rest)
    simp only [name] at h
    split at h
    · cases h
    · rename_i b rest hdrop
      cases h
      have hlen := congrArg List.length hsplit
      rw [hdrop, List.length_append, List.length_cons] at hlen
      simp only [Cursor.total]
      omega
  refuses {c c' e} h := by
    simp only [name] at h
    split at h
    · cases h
      exact Or.inl ⟨field, c.total, rfl, le_rfl⟩
    · cases h

theorem decisive_require (n : Nat) (field : Field) : (require n field).Decisive where
  total h := by
    unfold require at h
    split at h
    · cases h
    · cases h
      rfl
  refuses {c c' e} h := by
    unfold require at h
    split at h
    · cases h
      exact Or.inl ⟨field, c.total, rfl, le_rfl⟩
    · cases h

theorem decisive_require_bind {r : Reader α} (n : Nat) (field : Field) (hr : r.Decisive) :
    (require n field >>= fun _ => r).Decisive where
  total {c c' a} h := by
    obtain ⟨_, d, hd, hra⟩ := Effect.bind_eq_ok.mp h
    exact (hr.total hra).trans ((decisive_require n field).total hd)
  refuses {c c' e} h := by
    by_cases hlen : c.rest.length < n
    · have hrequire : require n field c = .error (.unexpectedEnd field c.total) c := if_pos hlen
      have hbind : (require n field >>= fun _ => r) c = .error (.unexpectedEnd field c.total) c :=
        Effect.bind_eq_error.mpr (Or.inl hrequire)
      rw [hbind] at h
      cases h
      exact Or.inl ⟨field, c.total, rfl, le_rfl⟩
    · -- With the bytes there, they are there whatever follows.
      have hskip : ∀ d : Cursor, n ≤ d.rest.length → (require n field >>= fun _ => r) d = r d := by
        intro d hd
        have hrequire : require n field d = .ok () d := if_neg (by omega)
        simp only [bind, EStateM.bind, hrequire]
      rw [hskip c (by omega)] at h
      refine (hr.refuses h).imp_right fun hstands d more hd => ?_
      have hmore : n ≤ d.rest.length := by
        rw [hd, List.length_append]
        omega
      rw [hskip d hmore]
      exact hstands d more hd

/-! ## Lists -/

theorem decisive_collect {item : Reader α} {P : α → List UInt8 → Prop} (hreads : item.Reads P)
    (hitem : item.Decisive) (n : Nat) (done : List α) : (collect item n done).Decisive := by
  induction n generalizing done with
  | zero => exact decisive_pure done.reverse
  | succ n ih => exact decisive_bind hreads hitem fun a => ih (a :: done)

theorem decisive_many {item : Reader α} {P : α → List UInt8 → Prop} (hreads : item.Reads P)
    (hitem : item.Decisive) (n : Nat) : (many n item).Decisive :=
  decisive_collect hreads hitem n []

/-! ## The parts of an object file -/

theorem decisive_magic : magic.Decisive :=
  decisive_bind (reads_bytes 3 .magic) (decisive_bytes 3 .magic) fun found =>
    decisive_ite (decisive_throw (.badMagic found)) (decisive_pure ())

theorem decisive_byteOrder : byteOrder.Decisive := by
  refine decisive_bind (reads_bytes 2 .byteOrderMarker) (decisive_bytes 2 .byteOrderMarker) ?_
  intro found
  cases ByteOrder.ofMarker? found with
  | none => exact decisive_throw (.badMarker found)
  | some order => exact decisive_note_bind (.byteOrder order) (decisive_pure order)

theorem decisive_version (order : ByteOrder) : (version order).Decisive := by
  refine decisive_bind (reads_number order 8 .formatVersion)
    (decisive_number order 8 .formatVersion) fun n => decisive_note_bind (.formatVersion n) ?_
  refine decisive_ite ?_ (decisive_pure _)
  exact decisive_bind (reads_throw _) (decisive_throw _) fun _ => decisive_pure _

theorem decisive_literal (order : ByteOrder) : (literal order).Decisive := by
  refine decisive_bind (reads_number order 2 .literalSize)
    (decisive_number order 2 .literalSize) fun size => ?_
  refine decisive_bind (reads_bytes size .literalData) (decisive_bytes size .literalData) ?_
  intro data
  exact decisive_note_bind (.literalSize data.length) (decisive_pure data)

theorem decisive_label (order : ByteOrder) : (label order).Decisive := by
  refine decisive_bind (reads_name .labelName) (decisive_name .labelName) fun name => ?_
  exact decisive_map (reads_number order 8 .labelAddress) (decisive_number order 8 .labelAddress) _

theorem decisive_labels (order : ByteOrder) : (labels order).Decisive := by
  refine decisive_bind (reads_number order 2 .labelCount)
    (decisive_number order 2 .labelCount) fun count => ?_
  exact decisive_note_bind (.labelCount count)
    (decisive_many (reads_label order) (decisive_label order) count)

theorem decisive_instructionSet (order : ByteOrder) (v : UInt64) :
    (instructionSet order v).Decisive :=
  decisive_ite (decisive_map (reads_number order 8 .instructionSet)
    (decisive_number order 8 .instructionSet) UInt64.ofNat) (decisive_pure 1)

theorem decisive_word (order : ByteOrder) : (word order).Decisive :=
  decisive_map (reads_number order 2 .code) (decisive_number order 2 .code) Word.ofNat

theorem decisive_code (order : ByteOrder) : (code order).Decisive := by
  refine decisive_bind (reads_number order 8 .codeLength)
    (decisive_number order 8 .codeLength) fun count => ?_
  exact decisive_require_bind (count * 2) .code
    (decisive_many (reads_word order) (decisive_word order) count)

theorem decisive_sectionEntry (order : ByteOrder) : (sectionEntry order).Decisive := by
  refine decisive_bind (reads_name .sectionName) (decisive_name .sectionName) fun name => ?_
  refine decisive_bind (reads_number order 8 .sectionSize)
    (decisive_number order 8 .sectionSize) fun size =>
      decisive_note_bind (.sectionSize name size) ?_
  exact decisive_map (reads_bytes size .sectionData) (decisive_bytes size .sectionData) _

theorem decisive_sections (order : ByteOrder) (v : UInt64) : (sections order v).Decisive := by
  refine decisive_ite ?_ (decisive_pure [])
  refine decisive_bind (reads_number order 8 .sectionCount)
    (decisive_number order 8 .sectionCount) fun count => ?_
  exact decisive_many (reads_sectionEntry order) (decisive_sectionEntry order) count

theorem decisive_trailing : trailing.Decisive where
  total {c c' a} h := by
    obtain ⟨u, d, hget, hnote⟩ := Effect.bind_eq_ok.mp h
    cases hget
    cases hrest : c.rest.isEmpty with
    | true | false =>
      rw [hrest] at hnote
      cases hnote
      rfl
  refuses {c c' e} h := by
    obtain ⟨d, hd, -⟩ := trailing_run c
    rw [hd] at h
    cases h

/-- Whatever a reader of object files answers, unless it misses bytes, is its answer for every
image with the same front. -/
theorem decisive_objectFile : objectFile.Decisive := by
  refine decisive_bind reads_magic decisive_magic fun _ => ?_
  refine decisive_bind reads_byteOrder decisive_byteOrder fun order => ?_
  refine decisive_bind (reads_version order) (decisive_version order) fun version => ?_
  refine decisive_bind (reads_literal order) (decisive_literal order) fun literal => ?_
  refine decisive_bind (reads_labels order) (decisive_labels order) fun labels => ?_
  refine decisive_bind (reads_instructionSet order version)
    (decisive_instructionSet order version) fun instructionSet => ?_
  refine decisive_bind (reads_code order) (decisive_code order) fun code => ?_
  refine decisive_bind (reads_sections order version) (decisive_sections order version) ?_
  intro sections
  exact decisive_map reads_trailing decisive_trailing _

end Reader

namespace ObjectFile

/-! ## Cutting an image short -/

theorem decode_eq_error {b : List UInt8} {e : FormatError} :
    decode b = .error e ↔ ∃ c, Reader.objectFile { rest := b } = .error e c := by
  unfold decode read
  rw [EStateM.run]
  cases h : Reader.objectFile { rest := b } <;> simp

/-- An image is refused for missing bytes, or else it is refused whatever follows. -/
theorem missesBytes_of_decode {b : List UInt8} {e : FormatError} (h : decode b = .error e) :
    e.MissesBytes b.length ∨ ∀ t, decode (b ++ t) = .error e := by
  obtain ⟨c, hc⟩ := decode_eq_error.mp h
  rcases Reader.decisive_objectFile.refuses hc with hmiss | hstands
  · have htotal : Cursor.total { rest := b } = b.length := Nat.zero_add _
    exact Or.inl (htotal ▸ hmiss)
  · exact Or.inr fun t => decode_eq_error.mpr (hstands { rest := b ++ t } t rfl)

/-- The image of an object file is read, and no proper front of it is: each of them is refused for
its end, at an offset within it. An image of 2 ^ 63 bytes or more does not exist in memory; from
2 ^ 64 words on its counts would no longer fit in their fields. -/
theorem decode_truncated {o : ObjectFile} {b : List UInt8} (h : encode o = .ok b)
    (hb : b.length < 2 ^ 63) :
    decode b = .ok o.stored ∧
      ∀ p, p <+: b → p ≠ b → ∃ field offset,
        decode p = .error (.unexpectedEnd field offset) ∧ offset ≤ p.length := by
  have hwhole : decode b = .ok o.stored := by
    simpa using decode_append_of_encode h hb []
  obtain ⟨-, rfl⟩ := encode_eq_ok.mp h
  refine ⟨hwhole, ?_⟩
  rintro p ⟨t, ht⟩ hne
  cases hp : decode p with
  | ok o' =>
    -- What is read from the front is what is read from the whole, and its image is the whole.
    exfalso
    obtain ⟨hstorable, rest, hrest⟩ := decode_eq_ok_iff.mp hp
    have hsame : decode o.image = .ok o' :=
      decode_eq_ok_iff.mpr ⟨hstorable, rest ++ t, by rw [← ht, hrest, List.append_assoc]⟩
    have ho : o'.image = o.image := by
      rw [hwhole] at hsame
      rw [← Except.ok.inj hsame, image_stored]
    have hlen : p.length = o.image.length + rest.length := by
      rw [hrest, List.length_append, ho]
    have hlen' : p.length + t.length = o.image.length := by
      rw [← ht, List.length_append]
    have hnil : t = [] := List.length_eq_zero_iff.mp (by omega)
    apply hne
    rw [← ht, hnil, List.append_nil]
  | error e =>
    rcases missesBytes_of_decode hp with ⟨field, offset, rfl, hoffset⟩ | hstands
    · exact ⟨field, offset, rfl, hoffset⟩
    · exfalso
      have hrefused := hstands t
      rw [ht, hwhole] at hrefused
      cases hrefused

/-- The specimen is cut inside the name of its first label. -/
theorem decode_truncated_specimen :
    let b := image specimenFile
    encode specimenFile = .ok b ∧ b.length < 2 ^ 63 ∧ b.take 19 <+: b ∧ b.take 19 ≠ b ∧
      decode b = .ok specimenFile.stored ∧ ∃ field offset,
        decode (b.take 19) = .error (.unexpectedEnd field offset) ∧
          offset ≤ (b.take 19).length := by
  intro b
  have h : encode specimenFile = .ok b := rfl
  have hb : b.length < 2 ^ 63 := by decide
  have hprefix : b.take 19 <+: b := List.take_prefix 19 b
  have hne : b.take 19 ≠ b := by decide
  obtain ⟨hwhole, hcut⟩ := decode_truncated h hb
  exact ⟨h, hb, hprefix, hne, hwhole, hcut _ hprefix hne⟩

example : decode ((image specimenFile).take 19) = .error (.unexpectedEnd .labelName 19) ∧
    decode ((image specimenFile).take 28) = .error (.unexpectedEnd .labelAddress 21) := by
  decide

end ObjectFile

end WordMachine
