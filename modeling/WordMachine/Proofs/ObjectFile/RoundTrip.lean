import Mathlib.Tactic.ByContra
import WordMachine.Proofs.ObjectFile.Parts

/-!
# Images of object files, there and back

An image has one reading and an object file has one image. Reading an image and writing what was
read gives the front of the image back; the bytes behind it are those that reading ignores. Writing
an object file and reading its image, with any bytes behind it, gives the object file back, but for
an instruction set version that the format version leaves out.

* `ObjectFile.decode_eq_ok_iff` : what reading accepts, and as what.
* `ObjectFile.encode_of_decode` : reading, then writing.
* `ObjectFile.decode_encode_append` : writing, then reading.
-/

namespace WordMachine

namespace ObjectFile

/-! ## When there is an image -/

theorem obstacle?_eq_none {o : ObjectFile} :
    o.obstacle? = none ↔ o.version ≤ currentVersion ∧ (¬ 3 ≤ o.version → o.sections = []) ∧
      o.literal.length ≤ maxCount ∧ o.labels.length ≤ maxCount ∧
      (∀ l ∈ o.labels, isWritable l.name = true) ∧
      (∀ s ∈ o.sections, isWritable s.name = true) := by
  constructor
  · intro h
    unfold obstacle? at h
    split_ifs at h with hversion hsections hliteral hlabels
    cases hfind : o.labels.find? fun l => !isWritable l.name with
    | some l => simp [hfind] at h
    | none =>
      simp only [hfind, Option.map_eq_none_iff, List.find?_eq_none] at h
      rw [List.find?_eq_none] at hfind
      refine ⟨UInt64.not_lt.mp hversion, ?_, Nat.not_lt.mp hliteral, Nat.not_lt.mp hlabels, ?_, ?_⟩
      · intro h3
        by_contra hne
        exact hsections ⟨UInt64.not_le.mp h3, hne⟩
      · simpa using hfind
      · simpa using h
  · rintro ⟨hversion, hnone, hliteral, hlabels, hnames, hsections⟩
    have hfindLabel : (o.labels.find? fun l => !isWritable l.name) = none := by
      simpa using hnames
    have hfindSection : (o.sections.find? fun s => !isWritable s.name) = none := by
      simpa using hsections
    unfold obstacle?
    rw [if_neg (UInt64.not_lt.mpr hversion),
      if_neg fun h => h.2 (hnone (UInt64.not_le.mpr h.1)), if_neg (Nat.not_lt.mpr hliteral),
      if_neg (Nat.not_lt.mpr hlabels), hfindLabel, hfindSection]
    rfl

theorem Storable.encode {o : ObjectFile} (ho : o.Storable) : encode o = .ok o.image := by
  refine encode_eq_ok.mpr ⟨obstacle?_eq_none.mpr ⟨ho.version, ho.noSections, ho.literal,
    ho.labelCount, ho.labelNames, fun s hs => (ho.sectionEntries s hs).1⟩, rfl⟩

/-! ## What reading accepts -/

theorem decode_eq_ok {b : List UInt8} {o : ObjectFile} :
    decode b = .ok o ↔ ∃ c, Reader.objectFile { rest := b } = .ok o c := by
  unfold decode read
  rw [EStateM.run]
  cases h : Reader.objectFile { rest := b } <;> simp

/-- Reading accepts what begins with the image of a storable object file, as that object file. -/
theorem decode_eq_ok_iff {b : List UInt8} {o : ObjectFile} :
    decode b = .ok o ↔ o.Storable ∧ ∃ t, b = o.image ++ t := by
  rw [decode_eq_ok]
  constructor
  · rintro ⟨c, hc⟩
    obtain ⟨_, hb, ho, rfl⟩ := Reader.reads_objectFile.form hc
    exact ⟨ho, c.rest, hb⟩
  · rintro ⟨ho, t, rfl⟩
    obtain ⟨c, hc, -⟩ := Reader.reads_objectFile.accepts (c := { rest := o.image ++ t })
      ⟨ho, rfl⟩ rfl
    exact ⟨c, hc⟩

/-! ## What an image leaves out -/

/-- An object file as its image tells it. -/
def stored (o : ObjectFile) : ObjectFile :=
  { o with instructionSet := if o.version < 2 then 1 else o.instructionSet }

theorem image_stored (o : ObjectFile) : o.stored.image = o.image := by
  by_cases h : 2 ≤ o.version
  · have hself : o.stored = o := by simp [stored, UInt64.not_lt.mpr h]
    rw [hself]
  · have h' : ¬ 2 ≤ o.stored.version := h
    unfold image
    rw [if_neg h, if_neg h']
    rfl

theorem length_code_le (o : ObjectFile) : o.code.length ≤ o.image.length := by
  have h := Reader.length_flatMap_encodeWord o.order o.code
  simp only [image, List.length_append, h]
  omega

theorem length_sections_le {o : ObjectFile} (h : 3 ≤ o.version) :
    (o.sections.flatMap (encodeSection o.order)).length ≤ o.image.length := by
  simp only [image, List.length_append, if_pos h]
  omega

theorem length_encodeSection (order : ByteOrder) (s : Section) :
    (encodeSection order s).length = s.name.length + s.data.length + 9 := by
  simp only [encodeSection, encodeName, List.length_append, ByteOrder.length_encode,
    List.length_singleton]
  omega

theorem length_flatMap_encodeSection (order : ByteOrder) (ss : List Section) :
    ss.length ≤ (ss.flatMap (encodeSection order)).length ∧
      ∀ s ∈ ss, s.data.length ≤ (ss.flatMap (encodeSection order)).length := by
  induction ss with
  | nil => simp
  | cons s ss ih =>
    obtain ⟨hcount, hdata⟩ := ih
    simp only [List.flatMap_cons, List.length_append, length_encodeSection, List.length_cons,
      List.forall_mem_cons]
    refine ⟨by omega, by omega, ?_⟩
    intro s' hs'
    have := hdata s' hs'
    omega

/-- An image that fits in memory has counts that fit in their fields. -/
theorem storable_stored {o : ObjectFile} (h : o.obstacle? = none) (hlen : o.image.length < 2 ^ 63) :
    o.stored.Storable := by
  obtain ⟨hversion, hnone, hliteral, hlabels, hnames, hsections⟩ := obstacle?_eq_none.mp h
  have hfit : ∀ n, n ≤ o.image.length → n < 256 ^ 8 := fun n hn => by omega
  obtain ⟨hcount, hdata⟩ : o.sections.length ≤ o.image.length ∧
      ∀ s ∈ o.sections, s.data.length ≤ o.image.length := by
    by_cases h3 : 3 ≤ o.version
    · obtain ⟨hcount, hdata⟩ := length_flatMap_encodeSection o.order o.sections
      have hle := length_sections_le h3
      exact ⟨hcount.trans hle, fun s hs => (hdata s hs).trans hle⟩
    · simp [hnone h3]
  exact
    { version := hversion
      literal := hliteral
      labelCount := hlabels
      labelNames := hnames
      instructionSet := fun h2 => if_pos (UInt64.not_le.mp h2)
      code := hfit _ o.length_code_le
      noSections := hnone
      sectionCount := hfit _ hcount
      sectionEntries := fun s hs => ⟨hsections s hs, hfit _ (hdata s hs)⟩ }

theorem decode_append_of_encode {o : ObjectFile} {b : List UInt8} (h : encode o = .ok b)
    (hb : b.length < 2 ^ 63) (t : List UInt8) : decode (b ++ t) = .ok o.stored := by
  obtain ⟨hnone, rfl⟩ := encode_eq_ok.mp h
  exact decode_eq_ok_iff.mpr ⟨storable_stored hnone hb, t, by rw [image_stored]⟩

/-! ## There and back -/

/-- What is read from an image is written back as the front of the image, up to where the reading
ended. What stands behind that does not matter to the reading, and no other front of the image is
the image of an object file. -/
theorem encode_of_decode {b : List UInt8} {o : ObjectFile} (h : decode b = .ok o) :
    ∃ c cur, encode o = .ok c ∧ Reader.objectFile { rest := b } = .ok o cur ∧
      b = c ++ cur.rest ∧ (∀ t, decode (c ++ t) = .ok o) ∧
      ∀ o' c', encode o' = .ok c' → c'.length < 2 ^ 63 → c' <+: b → c' = c := by
  obtain ⟨cur, hcur⟩ := decode_eq_ok.mp h
  obtain ⟨_, hb, ho, rfl⟩ := Reader.reads_objectFile.form hcur
  have hfront : ∀ t, decode (o.image ++ t) = .ok o := fun t => decode_eq_ok_iff.mpr ⟨ho, t, rfl⟩
  refine ⟨o.image, cur, ho.encode, hcur, hb, hfront, ?_⟩
  rintro o' c' hc' hlen ⟨t', ht'⟩
  have hread := decode_append_of_encode hc' hlen t'
  rw [ht', h] at hread
  obtain ⟨-, rfl⟩ := encode_eq_ok.mp hc'
  rw [← image_stored, ← Except.ok.inj hread]

/-- A big-endian image with two labels of one name, a word, a section, and two bytes behind it. -/
def specimen : List UInt8 :=
  [0x4e, 0x59, 0x55, 0x11, 0, 0, 0, 0, 0, 0, 0, 0, 3, 0, 1, 0x68, 0, 2,
    0x5f, 0xff, 0, 0, 0, 0, 0, 0, 0, 0, 7, 0x5f, 0xff, 0, 0, 0, 0, 0, 0, 0, 1, 8,
    0, 0, 0, 0, 0, 0, 0, 9, 0, 0, 0, 0, 0, 0, 0, 1, 0x14, 0x68,
    0, 0, 0, 0, 0, 0, 0, 1, 0x6e, 0, 0, 0, 0, 0, 0, 0, 0, 2, 0xab, 0, 0xff, 0]

/-- What the specimen says. -/
def specimenFile : ObjectFile :=
  { order := .big, literal := [0x68], labels := [⟨[0x5f, 0xff], ⟨7⟩⟩, ⟨[0x5f, 0xff], ⟨264⟩⟩],
    instructionSet := 9, code := [⟨0x1468⟩], sections := [⟨[0x6e], [0xab, 0]⟩] }

theorem encode_of_decode_specimen : decode specimen = .ok specimenFile ∧
    ∃ c cur, encode specimenFile = .ok c ∧
      Reader.objectFile { rest := specimen } = .ok specimenFile cur ∧
      specimen = c ++ cur.rest ∧ (∀ t, decode (c ++ t) = .ok specimenFile) ∧
      ∀ o' c', encode o' = .ok c' → c'.length < 2 ^ 63 → c' <+: specimen → c' = c := by
  have h : decode specimen = .ok specimenFile := by decide +kernel
  exact ⟨h, encode_of_decode h⟩

/-- An object file is read back from its image, whatever stands behind it. Before version 2 the
image does not tell the version of the instruction set, which is then read as 1. -/
theorem decode_encode_append {o : ObjectFile} {b : List UInt8} (h : encode o = .ok b)
    (hb : b.length < 2 ^ 63) (t : List UInt8) :
    decode (b ++ t) =
      .ok { o with instructionSet := if o.version < 2 then 1 else o.instructionSet } :=
  decode_append_of_encode h hb t

/-- In version 1 the specimen has no sections, and its instruction set version is lost. -/
theorem decode_encode_append_specimen :
    encode { specimenFile with version := 1, sections := [] } =
        .ok (image { specimenFile with version := 1, sections := [] }) ∧
      (image { specimenFile with version := 1, sections := [] }).length < 2 ^ 63 ∧
      decode (image { specimenFile with version := 1, sections := [] } ++ [0xff, 0]) =
        .ok { specimenFile with version := 1, sections := [], instructionSet := 1 } := by
  have h : encode { specimenFile with version := 1, sections := [] } =
      .ok (image { specimenFile with version := 1, sections := [] }) := by rfl
  have hlen : (image { specimenFile with version := 1, sections := [] }).length < 2 ^ 63 := by
    decide
  exact ⟨h, hlen, decode_encode_append h hlen [0xff, 0]⟩

end ObjectFile

end WordMachine
