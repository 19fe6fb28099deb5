import Mathlib.Algebra.Order.BigOperators.Group.List
import WordMachine.Proofs.ObjectFile.Representable
import WordMachine.Proofs.ObjectFile.Truncation

/-!
# What reading says of any bytes

An image begins with a header of thirteen bytes: the magic, the byte-order marker and the version.
Only the header can be wrong. Behind it every byte means something, and reading stops only where
bytes are missing. So a few bytes at the front decide which of four reasons can be given, and what
is read is never longer than the bytes it was read from, whatever their counts declare.

* `Reader.Tolerant` : readers that fail only where bytes are missing.
* `Reader.tolerant_body` : everything behind the header.
* `ObjectFile.Verdict`, `ObjectFile.verdict` : the cases, and that there are no others.
* `ObjectFile.decode_classified` : each reason by the bytes that it is given for.
-/

namespace WordMachine

open Effect

/-! ## Readers that fail only where bytes are missing -/

/-- Reading has come at least to an offset, in an image of a given length. -/
def Cursor.Past (base length : Nat) (c : Cursor) : Prop := base ≤ c.offset ∧ c.total = length

/-- Bytes are missing, at an offset within given bounds. -/
def FormatError.EndsWithin (base length : Nat) (e : FormatError) : Prop :=
  ∃ field offset, e = .unexpectedEnd field offset ∧ base ≤ offset ∧ offset ≤ length

namespace Reader

variable {α β : Type}

/-- A reader that goes forward, and fails only where bytes are missing. -/
def Tolerant (r : Reader α) : Prop :=
  ∀ base length, Triple (Cursor.Past base length) r (fun _ => Cursor.Past base length)
    (fun e _ => e.EndsWithin base length)

theorem tolerant_pure (a : α) : (pure a : Reader α).Tolerant :=
  fun _ _ => triple_pure fun _ hc => hc

theorem tolerant_bind {r : Reader α} {f : α → Reader β} (hr : r.Tolerant)
    (hf : ∀ a, (f a).Tolerant) : (r >>= f).Tolerant :=
  fun base length => triple_bind (hr base length) fun a => hf a base length

theorem tolerant_map {r : Reader α} (hr : r.Tolerant) (f : α → β) :
    (r >>= fun a => pure (f a)).Tolerant :=
  tolerant_bind hr fun a => tolerant_pure (f a)

theorem tolerant_ite {p : Prop} [Decidable p] {r s : Reader α} (hr : r.Tolerant)
    (hs : s.Tolerant) : (if p then r else s).Tolerant :=
  fun base length => triple_ite (hr base length) (hs base length)

theorem tolerant_note (n : Notice) : (note n).Tolerant :=
  fun _ _ => triple_modify fun _ hc => hc

theorem tolerant_bytes (n : Nat) (field : Field) : (bytes n field).Tolerant := by
  intro base length
  refine ⟨fun {c c' a} hc h => ⟨?_, ((decisive_bytes n field).total h).trans hc.2⟩,
    fun {c c' e} hc h => ?_⟩
  · have hbase := hc.1
    simp only [bytes] at h
    split at h
    · cases h
    · cases h
      exact Nat.le_add_right_of_le hbase
  · simp only [bytes] at h
    split at h
    · cases h
      exact ⟨field, c.offset, rfl, hc.1, hc.2 ▸ Nat.le_add_right _ _⟩
    · cases h

theorem tolerant_number (order : ByteOrder) (width : Nat) (field : Field) :
    (number order width field).Tolerant :=
  tolerant_map (tolerant_bytes width field) order.decode

theorem tolerant_name (field : Field) : (name field).Tolerant := by
  intro base length
  refine ⟨fun {c c' a} hc h => ⟨?_, ((decisive_name field).total h).trans hc.2⟩,
    fun {c c' e} hc h => ?_⟩
  · have hbase := hc.1
    simp only [name] at h
    split at h
    · cases h
    · cases h
      show base ≤ c.offset + _ + 1
      omega
  · simp only [name] at h
    split at h
    · cases h
      exact ⟨field, c.total, rfl, hc.1.trans (Nat.le_add_right _ _), hc.2.le⟩
    · cases h

theorem tolerant_require (n : Nat) (field : Field) : (require n field).Tolerant := by
  intro base length
  refine ⟨fun {c c' a} hc h => ?_, fun {c c' e} hc h => ?_⟩
  · unfold require at h
    split at h
    · cases h
    · cases h
      exact hc
  · unfold require at h
    split at h
    · cases h
      exact ⟨field, c.total, rfl, hc.1.trans (Nat.le_add_right _ _), hc.2.le⟩
    · cases h

theorem tolerant_collect {item : Reader α} (h : item.Tolerant) (n : Nat) (done : List α) :
    (collect item n done).Tolerant := by
  induction n generalizing done with
  | zero => exact tolerant_pure done.reverse
  | succ n ih => exact tolerant_bind h fun a => ih (a :: done)

theorem tolerant_many {item : Reader α} (h : item.Tolerant) (n : Nat) : (many n item).Tolerant :=
  tolerant_collect h n []

/-! ## Behind the header -/

theorem tolerant_literal (order : ByteOrder) : (literal order).Tolerant := by
  refine tolerant_bind (tolerant_number order 2 .literalSize) fun size => ?_
  refine tolerant_bind (tolerant_bytes size .literalData) fun data => ?_
  exact tolerant_bind (tolerant_note _) fun _ => tolerant_pure data

theorem tolerant_labels (order : ByteOrder) : (labels order).Tolerant := by
  refine tolerant_bind (tolerant_number order 2 .labelCount) fun count => ?_
  refine tolerant_bind (tolerant_note _) fun _ => tolerant_many ?_ count
  exact tolerant_bind (tolerant_name .labelName) fun name =>
    tolerant_map (tolerant_number order 8 .labelAddress) _

theorem tolerant_instructionSet (order : ByteOrder) (v : UInt64) :
    (instructionSet order v).Tolerant :=
  tolerant_ite (tolerant_map (tolerant_number order 8 .instructionSet) _) (tolerant_pure 1)

theorem tolerant_code (order : ByteOrder) : (code order).Tolerant := by
  refine tolerant_bind (tolerant_number order 8 .codeLength) fun count => ?_
  refine tolerant_bind (tolerant_require (count * 2) .code) fun _ => tolerant_many ?_ count
  exact tolerant_map (tolerant_number order 2 .code) _

theorem tolerant_sections (order : ByteOrder) (v : UInt64) : (sections order v).Tolerant := by
  refine tolerant_ite ?_ (tolerant_pure [])
  refine tolerant_bind (tolerant_number order 8 .sectionCount) fun count => tolerant_many ?_ count
  refine tolerant_bind (tolerant_name .sectionName) fun name => ?_
  refine tolerant_bind (tolerant_number order 8 .sectionSize) fun size => ?_
  refine tolerant_bind (tolerant_note _) fun _ => ?_
  exact tolerant_map (tolerant_bytes size .sectionData) _

theorem tolerant_trailing : trailing.Tolerant := by
  intro base length
  refine triple_bind (Q := fun _ => Cursor.Past base length) (triple_get fun _ hc => hc) fun c => ?_
  exact triple_ite (tolerant_note _ base length) (triple_pure fun _ hc => hc)

/-- What is read behind the header. -/
def body (order : ByteOrder) (version : UInt64) : Reader ObjectFile := do
  let literal ← literal order
  let labels ← labels order
  let instructionSet ← instructionSet order version
  let code ← code order
  let sections ← sections order version
  trailing
  return { order, version, literal, labels, instructionSet, code, sections }

theorem objectFile_eq : objectFile = (do
    magic
    let order ← byteOrder
    let version ← version order
    body order version) := rfl

theorem tolerant_body (order : ByteOrder) (version : UInt64) : (body order version).Tolerant := by
  refine tolerant_bind (tolerant_literal order) fun literal => ?_
  refine tolerant_bind (tolerant_labels order) fun labels => ?_
  refine tolerant_bind (tolerant_instructionSet order version) fun instructionSet => ?_
  refine tolerant_bind (tolerant_code order) fun code => ?_
  refine tolerant_bind (tolerant_sections order version) fun sections => ?_
  exact tolerant_map tolerant_trailing _

/-! ## The header -/

variable {c c' : Cursor} {e : FormatError}

theorem bytes_bind_eq_error {n : Nat} {field : Field} {f : List UInt8 → Reader α}
    (h : (bytes n field >>= f) c = .error e c') :
    (c.rest.length < n ∧ e = .unexpectedEnd field c.offset) ∨
      n ≤ c.rest.length ∧ ∃ d, f (c.rest.take n) d = .error e c' := by
  have htake := List.length_take (i := n) (l := c.rest)
  rcases bind_eq_error.mp h with hbytes | ⟨found, d, hbytes, hf⟩
  · simp only [bytes] at hbytes
    split at hbytes
    · cases hbytes
      exact .inl ⟨by omega, rfl⟩
    · cases hbytes
  · simp only [bytes] at hbytes
    split at hbytes
    · cases hbytes
    · cases hbytes
      exact .inr ⟨by omega, _, hf⟩

theorem magic_eq_error (h : magic c = .error e c') :
    (c.rest.length < 3 ∧ e = .unexpectedEnd .magic c.offset) ∨
      3 ≤ c.rest.length ∧ c.rest.take 3 ≠ ObjectFile.magic ∧ e = .badMagic (c.rest.take 3) := by
  refine (bytes_bind_eq_error h).imp_right ?_
  rintro ⟨hlength, d, hd⟩
  refine ⟨hlength, ?_⟩
  split at hd
  · rename_i hne
    cases hd
    exact ⟨hne, rfl⟩
  · cases hd

theorem byteOrder_eq_error (h : byteOrder c = .error e c') :
    (c.rest.length < 2 ∧ e = .unexpectedEnd .byteOrderMarker c.offset) ∨
      2 ≤ c.rest.length ∧ ByteOrder.ofMarker? (c.rest.take 2) = none ∧
        e = .badMarker (c.rest.take 2) := by
  refine (bytes_bind_eq_error h).imp_right ?_
  rintro ⟨hlength, d, hd⟩
  refine ⟨hlength, ?_⟩
  cases hmarker : ByteOrder.ofMarker? (c.rest.take 2) with
  | none =>
    rw [hmarker] at hd
    cases hd
    exact ⟨rfl, rfl⟩
  | some order =>
    rw [hmarker] at hd
    cases hd

/-- Where reading stands behind a field of a fixed length. -/
theorem Reads.advance {r : Reader α} {P : α → List UInt8 → Prop} {k : Nat} {a : α}
    (hreads : r.Reads P) (hr : r.Decisive) (hk : ∀ a image, P a image → image.length = k)
    (h : r c = .ok a c') :
    P a (c.rest.take k) ∧ k ≤ c.rest.length ∧ c'.rest = c.rest.drop k ∧
      c'.offset = c.offset + k := by
  obtain ⟨image, hrest, hP⟩ := hreads.form h
  have hlength := hk a image hP
  have htotal := hr.total h
  simp only [Cursor.total, hrest, List.length_append] at htotal
  rw [hrest, ← hlength, List.take_left, List.drop_left, List.length_append]
  exact ⟨hP, by omega, rfl, by omega⟩

theorem version_eq_error {order : ByteOrder} (h : version order c = .error e c') :
    (c.rest.length < 8 ∧ e = .unexpectedEnd .formatVersion c.offset) ∨
      8 ≤ c.rest.length ∧ 3 < order.decode (c.rest.take 8) ∧
        e = .unsupportedVersion (UInt64.ofNat (order.decode (c.rest.take 8))) 3 := by
  rcases bind_eq_error.mp h with hnumber | ⟨n, d, hnumber, hd⟩
  · refine (bytes_bind_eq_error hnumber).imp_right ?_
    rintro ⟨-, _, ⟨⟩⟩
  · obtain ⟨⟨hn, htake⟩, hlength, -⟩ := (reads_number order 8 .formatVersion).advance (k := 8)
      (decisive_number order 8 .formatVersion) (by rintro n _ ⟨-, rfl⟩; simp) hnumber
    have hdecode : order.decode (c.rest.take 8) = n := by
      rw [htake, order.decode_encode, Nat.mod_eq_of_lt hn]
    obtain ⟨-, _, -, hd⟩ := (bind_eq_error.mp hd).resolve_left (by rintro ⟨⟩)
    split at hd
    · rename_i hnew
      cases hd
      have hnew : 3 < n := by
        have := UInt64.lt_iff_toNat_lt.mp hnew
        rwa [UInt64.toNat_ofNat_of_lt' hn] at this
      exact .inr ⟨hlength, hdecode ▸ hnew, hdecode ▸ rfl⟩
    · cases hd

end Reader

/-- The two bytes that declare a byte order. -/
def ByteOrder.mark : ByteOrder → List UInt8
  | little => [0x00, 0x11]
  | big => [0x11, 0x00]

theorem ByteOrder.encode_marker (order : ByteOrder) : order.encode 2 marker = order.mark := by
  cases order <;> rfl

namespace ObjectFile

/-- Bytes that begin as an image in a byte order does. -/
structure Marked (b : List UInt8) (order : ByteOrder) : Prop where
  magic : b.take 3 = magic
  mark : (b.drop 3).take 2 = order.mark

/-- The version that the header of an image tells. -/
def declaredVersion (b : List UInt8) (order : ByteOrder) : Nat := order.decode ((b.drop 5).take 8)

/-- What reading says of some bytes. -/
inductive Verdict (b : List UInt8) : Except FormatError ObjectFile → Prop where
  | noMagic : b.length < 3 → Verdict b (.error (.unexpectedEnd .magic 0))
  | badMagic : 3 ≤ b.length → b.take 3 ≠ magic → Verdict b (.error (.badMagic (b.take 3)))
  | noMarker : b.take 3 = magic → 3 ≤ b.length → b.length < 5 →
    Verdict b (.error (.unexpectedEnd .byteOrderMarker 3))
  | badMarker : b.take 3 = magic → 5 ≤ b.length →
    (∀ order, (b.drop 3).take 2 ≠ ByteOrder.mark order) →
    Verdict b (.error (.badMarker ((b.drop 3).take 2)))
  | noVersion {order : ByteOrder} : Marked b order → 5 ≤ b.length → b.length < 13 →
    Verdict b (.error (.unexpectedEnd .formatVersion 5))
  | badVersion {order : ByteOrder} : Marked b order → 13 ≤ b.length → 3 < declaredVersion b order →
    Verdict b (.error (.unsupportedVersion (UInt64.ofNat (declaredVersion b order)) 3))
  | cut {order : ByteOrder} {field : Field} {offset : Nat} : Marked b order → 13 ≤ b.length →
    declaredVersion b order ≤ 3 → 13 ≤ offset → offset ≤ b.length →
    Verdict b (.error (.unexpectedEnd field offset))
  | read {order : ByteOrder} {o : ObjectFile} : Marked b order → 13 ≤ b.length →
    declaredVersion b order ≤ 3 → Verdict b (.ok o)

section Header

variable {b : List UInt8} {order : ByteOrder} {v : UInt64} {c₁ c₂ c₃ : Cursor}
  (hmagic : Reader.magic { rest := b } = .ok () c₁)

include hmagic

theorem magic_of_ok :
    b.take 3 = magic ∧ 3 ≤ b.length ∧ c₁.rest = b.drop 3 ∧ c₁.offset = 3 :=
  Reader.reads_magic.advance (k := 3) Reader.decisive_magic (by rintro _ _ rfl; rfl) hmagic

variable (horder : Reader.byteOrder c₁ = .ok order c₂)

include horder

theorem marked_of_ok :
    Marked b order ∧ 5 ≤ b.length ∧ c₂.rest = b.drop 5 ∧ c₂.offset = 5 := by
  obtain ⟨htake, hlength, hrest, hoffset⟩ := magic_of_ok hmagic
  obtain ⟨hmark, hlength₂, hrest₂, hoffset₂⟩ := Reader.reads_byteOrder.advance (k := 2)
    Reader.decisive_byteOrder (by rintro order _ rfl; simp) horder
  rw [hrest] at hmark hlength₂ hrest₂
  rw [ByteOrder.encode_marker] at hmark
  rw [List.length_drop] at hlength₂
  rw [List.drop_drop] at hrest₂
  exact ⟨⟨htake, hmark⟩, by omega, hrest₂, by omega⟩

theorem header_of_ok (hversion : Reader.version order c₂ = .ok v c₃) :
    13 ≤ b.length ∧ declaredVersion b order ≤ 3 ∧ c₃.Past 13 b.length := by
  obtain ⟨-, hlength, hrest, hoffset⟩ := marked_of_ok hmagic horder
  obtain ⟨⟨hv, htake⟩, hlength₃, hrest₃, hoffset₃⟩ := (Reader.reads_version order).advance (k := 8)
    (Reader.decisive_version order) (by rintro v _ ⟨-, rfl⟩; simp) hversion
  rw [hrest] at htake hlength₃ hrest₃
  rw [List.length_drop] at hlength₃
  have hdeclared : declaredVersion b order = v.toNat := by
    unfold declaredVersion
    rw [htake, order.decode_encode]
    exact Nat.mod_eq_of_lt v.toNat_lt
  have htotal : c₃.total = b.length := by
    rw [Cursor.total, hrest₃, List.length_drop, List.length_drop]
    omega
  rw [hdeclared]
  exact ⟨by omega, UInt64.le_iff_toNat_le.mp hv, by omega, htotal⟩

end Header

variable {b : List UInt8}

theorem verdict_of_error {e : FormatError} (h : decode b = .error e) : Verdict b (.error e) := by
  obtain ⟨c, hc⟩ := decode_eq_error.mp h
  rw [Reader.objectFile_eq] at hc
  rcases bind_eq_error.mp hc with hmagic | ⟨_, c₁, hmagic, hc⟩
  · rcases Reader.magic_eq_error hmagic with ⟨hlength, rfl⟩ | ⟨hlength, hne, rfl⟩
    · exact .noMagic hlength
    · exact .badMagic hlength hne
  rcases bind_eq_error.mp hc with horder | ⟨order, c₂, horder, hc⟩
  · obtain ⟨htake, hlength₁, hrest, hoffset⟩ := magic_of_ok hmagic
    rcases Reader.byteOrder_eq_error horder with ⟨hlength, rfl⟩ | ⟨hlength, hnone, rfl⟩
    · rw [hrest, List.length_drop] at hlength
      rw [hoffset]
      exact .noMarker htake hlength₁ (by omega)
    · rw [hrest, List.length_drop] at hlength
      rw [hrest] at hnone ⊢
      refine .badMarker htake (by omega) fun order hmark => ?_
      rw [← ByteOrder.encode_marker, ← ByteOrder.ofMarker?_eq_some, hnone] at hmark
      cases hmark
  obtain ⟨hmarked, hlength₂, hrest, hoffset⟩ := marked_of_ok hmagic horder
  rcases bind_eq_error.mp hc with hversion | ⟨v, c₃, hversion, hbody⟩
  · rcases Reader.version_eq_error hversion with ⟨hlength, rfl⟩ | ⟨hlength, hnew, rfl⟩
    · rw [hrest, List.length_drop] at hlength
      rw [hoffset]
      exact .noVersion hmarked hlength₂ (by omega)
    · rw [hrest, List.length_drop] at hlength
      rw [hrest] at hnew ⊢
      exact .badVersion hmarked (by omega) hnew
  obtain ⟨hlength, hdeclared, hpast⟩ := header_of_ok hmagic horder hversion
  obtain ⟨field, offset, rfl, hbase, htotal⟩ :=
    (Reader.tolerant_body order v 13 b.length).error hpast hbody
  exact .cut hmarked hlength hdeclared hbase htotal

theorem verdict_of_ok {o : ObjectFile} (h : decode b = .ok o) : Verdict b (.ok o) := by
  obtain ⟨c, hc⟩ := decode_eq_ok.mp h
  rw [Reader.objectFile_eq] at hc
  obtain ⟨_, c₁, hmagic, hc⟩ := bind_eq_ok.mp hc
  obtain ⟨order, c₂, horder, hc⟩ := bind_eq_ok.mp hc
  obtain ⟨v, c₃, hversion, -⟩ := bind_eq_ok.mp hc
  obtain ⟨hlength, hdeclared, -⟩ := header_of_ok hmagic horder hversion
  exact .read (marked_of_ok hmagic horder).1 hlength hdeclared

theorem verdict (b : List UInt8) : Verdict b (decode b) := by
  cases h : decode b with
  | error e => exact verdict_of_error h
  | ok o => exact verdict_of_ok h

/-! ## What is read is no longer than what it is read from -/

theorem length_entries_le {o : ObjectFile} (h : decode b = .ok o) :
    9 * (o.labels.length + o.sections.length) + 2 * o.code.length ≤ b.length := by
  obtain ⟨ho, t, rfl⟩ := decode_eq_ok_iff.mp h
  have hlabels := List.card_nsmul_le_sum (o.labels.map fun l => l.name.length + 9) 9 (by simp)
  have hsections := List.card_nsmul_le_sum
    (o.sections.map fun s => s.name.length + s.data.length + 9) 9 (by simp)
  simp only [List.length_map, Nat.nsmul_eq_mul] at hlabels hsections
  rw [List.length_append, length_image]
  by_cases h3 : 3 ≤ o.version
  · rw [if_pos h3]
    omega
  · rw [if_neg h3, ho.noSections h3, List.length_nil]
    omega

/-! ## All cases -/

theorem Marked.unique {order order' : ByteOrder} (h : Marked b order) (h' : Marked b order') :
    order = order' := by
  have hmark := h.mark.symm.trans h'.mark
  cases order <;> cases order' <;> first | rfl | cases hmark

theorem declaredVersion_lt (b : List UInt8) (order : ByteOrder) :
    declaredVersion b order < 2 ^ 64 :=
  calc declaredVersion b order < 256 ^ ((b.drop 5).take 8).length := order.decode_lt _
    _ ≤ 256 ^ 8 := Nat.pow_le_pow_right (by decide) (List.length_take_le 8 _)

theorem decode_eq_badMagic {found : List UInt8} :
    decode b = .error (.badMagic found) ↔
      3 ≤ b.length ∧ b.take 3 ≠ magic ∧ found = b.take 3 := by
  have hverdict := verdict b
  constructor
  · intro h
    rw [h] at hverdict
    cases hverdict with
    | badMagic hlength hne => exact ⟨hlength, hne, rfl⟩
  · rintro ⟨hlength, hne, rfl⟩
    generalize decode b = outcome at hverdict
    cases hverdict with
    | noMagic hshort => omega
    | badMagic => rfl
    | noMarker htake | badMarker htake => exact absurd htake hne
    | noVersion hmarked | badVersion hmarked | cut hmarked | read hmarked =>
      exact absurd hmarked.magic hne

theorem decode_eq_badMarker {found : List UInt8} :
    decode b = .error (.badMarker found) ↔
      b.take 3 = magic ∧ 5 ≤ b.length ∧ (∀ order, (b.drop 3).take 2 ≠ ByteOrder.mark order) ∧
        found = (b.drop 3).take 2 := by
  have hverdict := verdict b
  constructor
  · intro h
    rw [h] at hverdict
    cases hverdict with
    | badMarker htake hlength hmark => exact ⟨htake, hlength, hmark, rfl⟩
  · rintro ⟨htake, hlength, hmark, rfl⟩
    generalize decode b = outcome at hverdict
    cases hverdict with
    | noMagic hshort | noMarker _ _ hshort => omega
    | badMagic _ hne => exact absurd htake hne
    | badMarker => rfl
    | noVersion hmarked | badVersion hmarked | cut hmarked | read hmarked =>
      exact absurd hmarked.mark (hmark _)

theorem decode_eq_unsupportedVersion {found supported : UInt64} :
    decode b = .error (.unsupportedVersion found supported) ↔
      ∃ order, Marked b order ∧ 13 ≤ b.length ∧ 3 < declaredVersion b order ∧
        found.toNat = declaredVersion b order ∧ supported = 3 := by
  have hverdict := verdict b
  constructor
  · intro h
    rw [h] at hverdict
    cases hverdict with
    | @badVersion order hmarked hlength hnew =>
      have hlt := declaredVersion_lt b order
      exact ⟨order, hmarked, hlength, hnew, UInt64.toNat_ofNat_of_lt' hlt, rfl⟩
  · rintro ⟨order, hmarked, hlength, hnew, hfound, rfl⟩
    generalize decode b = outcome at hverdict
    cases hverdict with
    | noMagic hshort | noMarker _ _ hshort | noVersion _ _ hshort => omega
    | badMagic _ hne => exact absurd hmarked.magic hne
    | badMarker _ _ hmark => exact absurd hmarked.mark (hmark order)
    | badVersion hmarked' =>
      rw [← hmarked.unique hmarked', ← hfound, UInt64.ofNat_toNat]
    | cut hmarked' _ hknown | read hmarked' _ hknown =>
      rw [← hmarked.unique hmarked'] at hknown
      omega

/-- **What reading says.** Bytes that do not begin with the magic, whose marker belongs to no byte
order, or whose version is too new are refused for that, as soon as they are long enough to show
it, and no others are. All other bytes are read, or are refused because they end, at an offset
within them, and behind the header once it is complete. A length that an image declares is never
beyond 64 bits, and what is read takes nine bytes for each label and section and two for each word
of code, so it is no longer than the image allows. -/
theorem decode_classified (b : List UInt8) :
    (∀ found, decode b = .error (.badMagic found) ↔
      3 ≤ b.length ∧ b.take 3 ≠ magic ∧ found = b.take 3) ∧
    (∀ found, decode b = .error (.badMarker found) ↔
      b.take 3 = magic ∧ 5 ≤ b.length ∧ (∀ order, (b.drop 3).take 2 ≠ ByteOrder.mark order) ∧
        found = (b.drop 3).take 2) ∧
    (∀ found supported, decode b = .error (.unsupportedVersion found supported) ↔
      ∃ order, Marked b order ∧ 13 ≤ b.length ∧ 3 < declaredVersion b order ∧
        found.toNat = declaredVersion b order ∧ supported = 3) ∧
    ((∃ found, decode b = .error (.badMagic found)) ∨
      (∃ found, decode b = .error (.badMarker found)) ∨
      (∃ found supported, decode b = .error (.unsupportedVersion found supported)) ∨
      (∃ field offset, decode b = .error (.unexpectedEnd field offset) ∧ offset ≤ b.length ∧
        (13 ≤ b.length → 13 ≤ offset)) ∨
      ∃ o, decode b = .ok o ∧ o.labels.length + o.sections.length ≤ b.length / 9 ∧
        o.code.length ≤ b.length / 2) ∧
    ∀ order field c n c', Reader.number order 8 field c = .ok n c' → n < 2 ^ 64 := by
  refine ⟨fun _ => decode_eq_badMagic, fun _ => decode_eq_badMarker,
    fun _ _ => decode_eq_unsupportedVersion, ?_, ?_⟩
  · have hverdict := verdict b
    generalize houtcome : decode b = outcome at hverdict
    cases hverdict with
    | badMagic => exact .inl ⟨_, rfl⟩
    | badMarker => exact .inr (.inl ⟨_, rfl⟩)
    | badVersion => exact .inr (.inr (.inl ⟨_, _, rfl⟩))
    | noMagic hshort =>
      exact .inr (.inr (.inr (.inl ⟨_, _, rfl, Nat.zero_le _, by omega⟩)))
    | noMarker _ hlength hshort | noVersion _ hlength hshort =>
      exact .inr (.inr (.inr (.inl ⟨_, _, rfl, hlength, by omega⟩)))
    | cut _ _ _ hbase hoffset =>
      exact .inr (.inr (.inr (.inl ⟨_, _, rfl, hoffset, fun _ => hbase⟩)))
    | read =>
      have hle := length_entries_le houtcome
      exact .inr (.inr (.inr (.inr ⟨_, rfl, by omega, by omega⟩)))
  · intro order field c n c' h
    obtain ⟨_, -, hn, -⟩ := (Reader.reads_number order 8 field).form h
    exact hn

/-- A header of version 1, no data, no labels, and the largest number of words that can be
declared. -/
def hugeCount : List UInt8 :=
  [0x4e, 0x59, 0x55, 0, 0x11, 1, 0, 0, 0, 0, 0, 0, 0, 0, 0, 0, 0,
    0xff, 0xff, 0xff, 0xff, 0xff, 0xff, 0xff, 0xff]

theorem decode_classified_hugeCount :
    decode hugeCount = .error (.unexpectedEnd .code 25) ∧ 13 ≤ hugeCount.length ∧
      ∃ field offset, decode hugeCount = .error (.unexpectedEnd field offset) ∧
        offset ≤ hugeCount.length ∧ 13 ≤ offset := by
  have hdecode : decode hugeCount = .error (.unexpectedEnd .code 25) := by decide
  have hlength : 13 ≤ hugeCount.length := by decide
  refine ⟨hdecode, hlength, ?_⟩
  obtain ⟨-, -, -, hcases, -⟩ := decode_classified hugeCount
  rw [hdecode] at hcases ⊢
  rcases hcases with ⟨_, ⟨⟩⟩ | ⟨_, ⟨⟩⟩ | ⟨_, _, ⟨⟩⟩ | ⟨field, offset, h, hle, hge⟩ | ⟨_, ⟨⟩, -⟩
  exact ⟨field, offset, h, hle, hge hlength⟩

end ObjectFile

end WordMachine
