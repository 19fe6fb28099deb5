import WordMachine.Proofs.ObjectFile.Form

/-!
# The form of an object file

Each part of an object file is read in the form in which it is written, and so is the whole. An
image says all of an object file if its counts fit their fields, its names hold no zero byte, and
the parts that its version leaves out have their default values.

* `ObjectFile.Storable` : the object files of which an image says all.
* `Reader.reads_objectFile` : reading accepts exactly the images of storable object files.
-/

namespace WordMachine

namespace ObjectFile

/-- The object files that reading gives back. -/
structure Storable (o : ObjectFile) : Prop where
  version : o.version ≤ currentVersion
  literal : o.literal.length ≤ maxCount
  labelCount : o.labels.length ≤ maxCount
  labelNames : ∀ l ∈ o.labels, isWritable l.name = true
  instructionSet : ¬ 2 ≤ o.version → o.instructionSet = 1
  code : o.code.length < 256 ^ 8
  noSections : ¬ 3 ≤ o.version → o.sections = []
  sectionCount : o.sections.length < 256 ^ 8
  sectionEntries : ∀ s ∈ o.sections, isWritable s.name = true ∧ s.data.length < 256 ^ 8

end ObjectFile

namespace Reader

open ObjectFile

/-! ## The header -/

theorem reads_magic : magic.Reads fun _ image => image = ObjectFile.magic := by
  refine (reads_bind (reads_bytes 3 .magic) fun found =>
    reads_ite (reads_throw (.badMagic found)) (reads_pure ())).of_iff fun _ image => ?_
  constructor
  · rintro ⟨_, xs, _, rfl, ⟨-, rfl⟩, ⟨-, h⟩ | ⟨h, -, rfl⟩⟩
    · exact h.elim
    · rw [List.append_nil]
      exact not_not.mp h
  · rintro rfl
    exact ⟨ObjectFile.magic, ObjectFile.magic, [], rfl, ⟨rfl, rfl⟩, Or.inr ⟨fun h => h rfl, rfl, rfl⟩⟩

theorem reads_byteOrder :
    byteOrder.Reads fun order image => image = order.encode 2 ByteOrder.marker := by
  refine (reads_bind
    (Q := fun found order image => ByteOrder.ofMarker? found = some order ∧ image = [])
    (reads_bytes 2 .byteOrderMarker) fun found => ?_).of_iff fun order image => ?_
  · cases h : ByteOrder.ofMarker? found with
    | none => exact (reads_throw _).of_iff fun _ _ => by simp
    | some order =>
      refine (reads_note_bind _ (reads_pure order)).of_iff fun _ _ => ?_
      simp [eq_comm]
  · constructor
    · rintro ⟨_, xs, _, rfl, ⟨-, rfl⟩, h, rfl⟩
      rw [List.append_nil]
      exact ByteOrder.ofMarker?_eq_some.mp h
    · rintro rfl
      exact ⟨_, _, [], (List.append_nil _).symm, ⟨by simp, rfl⟩,
        ByteOrder.ofMarker?_eq_some.mpr rfl, rfl⟩

/-- A number of eight bytes is a 64-bit number. -/
theorem reads_number64 (order : ByteOrder) (field : Field) :
    (number order 8 field >>= fun n => pure (UInt64.ofNat n)).Reads fun v image =>
      image = order.encode 8 v.toNat := by
  refine (reads_map (reads_number order 8 field) UInt64.ofNat).of_iff fun v image => ?_
  constructor
  · rintro ⟨n, rfl, hn, rfl⟩
    rw [UInt64.toNat_ofNat_of_lt' hn]
  · rintro rfl
    exact ⟨v.toNat, by simp, v.toNat_lt, rfl⟩

theorem reads_version (order : ByteOrder) :
    (version order).Reads fun v image =>
      v ≤ currentVersion ∧ image = order.encode 8 v.toNat := by
  refine (reads_bind (reads_number order 8 .formatVersion) fun n =>
    reads_note_bind (.formatVersion n) (reads_ite
      (reads_bind (reads_throw (.unsupportedVersion (UInt64.ofNat n) currentVersion))
        fun _ => reads_pure (UInt64.ofNat n))
      (reads_pure (UInt64.ofNat n)))).of_iff fun v image => ?_
  constructor
  · rintro ⟨n, _, _, rfl, ⟨hn, rfl⟩, ⟨-, _, _, _, -, h, -⟩ | ⟨h, rfl, rfl⟩⟩
    · exact h.elim
    · rw [List.append_nil, UInt64.toNat_ofNat_of_lt' hn]
      exact ⟨UInt64.not_lt.mp h, rfl⟩
  · rintro ⟨hv, rfl⟩
    exact ⟨v.toNat, _, [], (List.append_nil _).symm, ⟨v.toNat_lt, rfl⟩,
      Or.inr ⟨by simpa using hv, by simp, rfl⟩⟩

/-! ## Data and labels -/

theorem reads_literal (order : ByteOrder) :
    (literal order).Reads fun data image =>
      data.length ≤ maxCount ∧ image = order.encode 2 data.length ++ data := by
  refine (reads_bind (reads_number order 2 .literalSize) fun size =>
    reads_bind (reads_bytes size .literalData) fun data =>
      reads_note_bind (.literalSize data.length) (reads_pure data)).of_iff fun data image => ?_
  constructor
  · rintro ⟨_, _, _, rfl, ⟨hn, rfl⟩, data, _, _, rfl, ⟨rfl, rfl⟩, rfl, rfl⟩
    exact ⟨Nat.le_of_lt_succ hn, by simp⟩
  · rintro ⟨hn, rfl⟩
    exact ⟨data.length, _, data, rfl, ⟨Nat.lt_succ_of_le hn, rfl⟩, data, data, [], by simp,
      ⟨rfl, rfl⟩, rfl, rfl⟩

theorem reads_label (order : ByteOrder) :
    (label order).Reads fun l image =>
      isWritable l.name = true ∧ image = encodeLabel order l := by
  refine (reads_bind (reads_name .labelName) fun name =>
    reads_map (reads_number order 8 .labelAddress)
      fun address => ({ name, address := Address.ofNat address } : Label)).of_iff fun l image => ?_
  constructor
  · rintro ⟨name, _, _, rfl, ⟨hname, rfl⟩, n, rfl, hn, rfl⟩
    refine ⟨hname, ?_⟩
    simp only [encodeLabel, Address.toNat, Address.ofNat, UInt64.toNat_ofNat_of_lt' hn]
  · rintro ⟨hname, rfl⟩
    refine ⟨l.name, _, _, rfl, ⟨hname, rfl⟩, l.address.toNat, ?_, l.address.bits.toNat_lt, rfl⟩
    simp [Address.toNat, Address.ofNat]

theorem reads_labels (order : ByteOrder) :
    (labels order).Reads fun ls image =>
      ls.length ≤ maxCount ∧ (∀ l ∈ ls, isWritable l.name = true) ∧
        image = order.encode 2 ls.length ++ ls.flatMap (encodeLabel order) := by
  refine (reads_bind (reads_number order 2 .labelCount) fun count =>
    reads_note_bind (.labelCount count) (reads_many (reads_label order) count)).of_iff
      fun ls image => ?_
  constructor
  · rintro ⟨_, _, _, rfl, ⟨hn, rfl⟩, rfl, hall, rfl⟩
    exact ⟨Nat.le_of_lt_succ hn, hall, rfl⟩
  · rintro ⟨hn, hall, rfl⟩
    exact ⟨ls.length, _, _, rfl, ⟨Nat.lt_succ_of_le hn, rfl⟩, rfl, hall, rfl⟩

/-! ## Code -/

theorem reads_instructionSet (order : ByteOrder) (v : UInt64) :
    (instructionSet order v).Reads fun n image =>
      (¬ 2 ≤ v → n = 1) ∧ image = if 2 ≤ v then order.encode 8 n.toNat else [] := by
  refine (reads_ite (reads_number64 order .instructionSet) (reads_pure 1)).of_iff
    fun n image => ?_
  by_cases hv : 2 ≤ v <;> simp [hv]

theorem reads_word (order : ByteOrder) :
    (word order).Reads fun w image => True ∧ image = encodeWord order w := by
  refine (reads_map (reads_number order 2 .code) Word.ofNat).of_iff fun w image => ?_
  constructor
  · rintro ⟨n, rfl, hn, rfl⟩
    refine ⟨trivial, ?_⟩
    simp only [encodeWord, Word.toNat, Word.ofNat, UInt16.toNat_ofNat_of_lt' hn]
  · rintro ⟨-, rfl⟩
    exact ⟨w.toNat, by simp [Word.toNat, Word.ofNat], w.bits.toNat_lt, rfl⟩

theorem length_flatMap_encodeWord (order : ByteOrder) (ws : List Word) :
    (ws.flatMap (encodeWord order)).length = ws.length * 2 := by
  induction ws with
  | nil => rfl
  | cons w ws ih =>
    simp only [List.flatMap_cons, List.length_append, encodeWord, ByteOrder.length_encode, ih,
      List.length_cons]
    omega

theorem reads_code (order : ByteOrder) :
    (code order).Reads fun ws image =>
      ws.length < 256 ^ 8 ∧
        image = order.encode 8 ws.length ++ ws.flatMap (encodeWord order) := by
  -- The length check never refuses what the words would fill: each of them takes two bytes.
  have hwords : ∀ count, (require (count * 2) .code >>= fun _ =>
      many count (word order)).Reads fun ws image =>
        ws.length = count ∧ (∀ w ∈ ws, True) ∧ image = ws.flatMap (encodeWord order) := by
    intro count
    refine reads_require_bind (reads_many (reads_word order) count) ?_
    rintro ws _ ⟨rfl, -, rfl⟩
    exact (length_flatMap_encodeWord order ws).ge
  refine (reads_bind (reads_number order 8 .codeLength) hwords).of_iff fun ws image => ?_
  constructor
  · rintro ⟨_, _, _, rfl, ⟨hn, rfl⟩, rfl, -, rfl⟩
    exact ⟨hn, rfl⟩
  · rintro ⟨hn, rfl⟩
    exact ⟨ws.length, _, _, rfl, ⟨hn, rfl⟩, rfl, fun _ _ => trivial, rfl⟩

/-! ## Sections -/

theorem reads_sectionEntry (order : ByteOrder) :
    (sectionEntry order).Reads fun s image =>
      (isWritable s.name = true ∧ s.data.length < 256 ^ 8) ∧ image = encodeSection order s := by
  refine (reads_bind (reads_name .sectionName) fun name =>
    reads_bind (reads_number order 8 .sectionSize) fun size =>
      reads_note_bind (.sectionSize name size) (reads_map (reads_bytes size .sectionData)
        fun data => ({ name, data } : Section))).of_iff fun s image => ?_
  constructor
  · rintro ⟨name, _, _, rfl, ⟨hname, rfl⟩, _, _, _, rfl, ⟨hn, rfl⟩, data, rfl, rfl, rfl⟩
    exact ⟨⟨hname, hn⟩, by simp [encodeSection]⟩
  · rintro ⟨⟨hname, hn⟩, rfl⟩
    exact ⟨s.name, _, order.encode 8 s.data.length ++ s.data, by simp [encodeSection],
      ⟨hname, rfl⟩, s.data.length, _, s.data, rfl, ⟨hn, rfl⟩, s.data, rfl, rfl, rfl⟩

theorem reads_sections (order : ByteOrder) (v : UInt64) :
    (sections order v).Reads fun ss image =>
      (¬ 3 ≤ v → ss = []) ∧ ss.length < 256 ^ 8 ∧
        (∀ s ∈ ss, isWritable s.name = true ∧ s.data.length < 256 ^ 8) ∧
        image = if 3 ≤ v then order.encode 8 ss.length ++ ss.flatMap (encodeSection order)
          else [] := by
  refine (reads_ite (reads_bind (reads_number order 8 .sectionCount) fun count =>
    reads_many (reads_sectionEntry order) count) (reads_pure [])).of_iff fun ss image => ?_
  by_cases hv : 3 ≤ v
  · simp only [hv, true_and, not_true_eq_false, false_and, or_false, IsEmpty.forall_iff, if_true]
    constructor
    · rintro ⟨_, _, _, rfl, ⟨hn, rfl⟩, rfl, hall, rfl⟩
      exact ⟨hn, hall, rfl⟩
    · rintro ⟨hn, hall, rfl⟩
      exact ⟨ss.length, _, _, rfl, ⟨hn, rfl⟩, rfl, hall, rfl⟩
  · simp only [hv, false_and, not_false_eq_true, true_and, false_or, forall_const, if_false]
    constructor
    · rintro ⟨rfl, rfl⟩
      exact ⟨rfl, by simp, by simp, rfl⟩
    · rintro ⟨rfl, -, -, rfl⟩
      exact ⟨rfl, rfl⟩

/-! ## The whole -/

theorem trailing_run (c : Cursor) : ∃ c', trailing c = .ok () c' ∧ c'.rest = c.rest := by
  cases hc : c.rest.isEmpty with
  | true =>
    refine ⟨c, Effect.bind_eq_ok.mpr ⟨c, c, rfl, ?_⟩, rfl⟩
    rw [hc]
    rfl
  | false =>
    refine ⟨{ c with notices := .trailingBytes c.rest.length :: c.notices },
      Effect.bind_eq_ok.mpr ⟨c, c, rfl, ?_⟩, rfl⟩
    rw [hc]
    rfl

theorem reads_trailing : trailing.Reads fun _ image => image = [] where
  form := by
    intro c c' a h
    obtain ⟨d, hd, hrest⟩ := trailing_run c
    rw [hd] at h
    cases h
    exact ⟨[], hrest.symm, rfl⟩
  accepts := by
    rintro c a _ rest rfl hc
    obtain ⟨d, hd, hrest⟩ := trailing_run c
    exact ⟨d, hd, hrest.trans hc⟩

/-- Reading accepts exactly the images of storable object files, whatever stands behind them. -/
theorem reads_objectFile : objectFile.Reads fun o image => o.Storable ∧ image = o.image := by
  refine (reads_bind reads_magic fun _ =>
    reads_bind reads_byteOrder fun order =>
    reads_bind (reads_version order) fun version =>
    reads_bind (reads_literal order) fun literal =>
    reads_bind (reads_labels order) fun labels =>
    reads_bind (reads_instructionSet order version) fun instructionSet =>
    reads_bind (reads_code order) fun code =>
    reads_bind (reads_sections order version) fun sections =>
    reads_map reads_trailing fun _ =>
      ObjectFile.mk order version literal labels instructionSet code sections).of_iff
        fun o image => ?_
  constructor
  · rintro ⟨_, _, _, rfl, rfl, order, _, _, rfl, rfl, version, _, _, rfl, ⟨hversion, rfl⟩, hdata⟩
    obtain ⟨literal, _, _, rfl, ⟨hliteral, rfl⟩, labels, _, _, rfl, ⟨hcount, hnames, rfl⟩,
      hbehind⟩ := hdata
    obtain ⟨instructionSet, _, _, rfl, ⟨hset, rfl⟩, code, _, _, rfl, ⟨hcode, rfl⟩,
      sections, _, _, rfl, ⟨hnone, hsections, hentries, rfl⟩, _, rfl, rfl⟩ := hbehind
    refine ⟨⟨hversion, hliteral, hcount, hnames, hset, hcode, hnone, hsections, hentries⟩, ?_⟩
    simp only [image, List.append_assoc, List.append_nil]
  · rintro ⟨ho, rfl⟩
    refine ⟨(), _, _, ?_, rfl, o.order, _, _, rfl, rfl, o.version, _, _, rfl, ⟨ho.version, rfl⟩,
      o.literal, _, _, rfl, ⟨ho.literal, rfl⟩,
      o.labels, _, _, rfl, ⟨ho.labelCount, ho.labelNames, rfl⟩,
      o.instructionSet, _, _, rfl, ⟨ho.instructionSet, rfl⟩, o.code, _, _, rfl, ⟨ho.code, rfl⟩,
      o.sections, _, _, rfl, ⟨ho.noSections, ho.sectionCount, ho.sectionEntries, rfl⟩,
      (), rfl, rfl⟩
    simp only [image, List.append_assoc, List.append_nil]

end Reader

end WordMachine
