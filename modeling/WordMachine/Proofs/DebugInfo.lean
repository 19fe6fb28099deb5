import WordMachine.DebugInfo
import WordMachine.Proofs.ObjectFile.RoundTrip

/-!
# Debug information, there and back

A source map says which line of which file a code word comes from. It is packed into two sections of
an object file: its line records in fields of fixed widths, and its paths, each with a zero byte
behind it. Whatever else the object file holds, from its image the source map is read back: records
are found by their number, and paths by their place.

* `SourceMap` : a source map, with what may stand behind its last record and its last path.
* `LineTable.record?_eq` : the bytes of a record, without checks of the arithmetic.
* `LineTable.lookup_packed` : the records of a packed table.
* `zeroTerminated_names` : the paths of a file section.
* `DebugInfo.locate_of_image` : what the debug information in an image says.
-/

namespace WordMachine

/-! ## Source maps -/

/-- The number of bits of a width, as a line section tells it. -/
def Width.bits (w : Width) : UInt8 := UInt8.ofNat (8 * w.bytes)

/-- A source map as it is packed: records in fields of two widths, paths, and bytes behind both that
are too few for a record or lack the zero byte of a path. -/
structure SourceMap where
  fileWidth : Width
  lineWidth : Width
  records : List SourceLocation
  remainder : List UInt8
  paths : List (List UInt8)
  tail : List UInt8
  records_fit : ∀ r ∈ records, r.fileIndex < fileWidth.modulus ∧ r.line < lineWidth.modulus
  remainder_short : remainder.length < fileWidth.bytes + lineWidth.bytes
  paths_plain : ∀ path ∈ paths, ∀ b ∈ path, b ≠ 0
  tail_plain : ∀ b ∈ tail, b ≠ 0

/-- A record in two fields, one behind the other. -/
def SourceLocation.pack (order : ByteOrder) (fileWidth lineWidth : Nat) (r : SourceLocation) :
    List UInt8 :=
  order.encode fileWidth r.fileIndex ++ order.encode lineWidth r.line

namespace SourceMap

/-- The line section of a source map. -/
def lineData (d : SourceMap) (order : ByteOrder) : List UInt8 :=
  d.fileWidth.bits :: d.lineWidth.bits ::
    (d.records.flatMap (SourceLocation.pack order d.fileWidth.bytes d.lineWidth.bytes) ++
      d.remainder)

/-- The file section of a source map. -/
def fileData (d : SourceMap) : List UInt8 := d.paths.flatMap ObjectFile.encodeName ++ d.tail

/-- The path and line of an address: those of the record with its number. -/
def locate (d : SourceMap) (a : Address) : Except DebugInfoError (String × Nat) :=
  match d.records[a.toNat]? with
  | none => .error (.addressOutOfRange a)
  | some r =>
    match d.paths[r.fileIndex]? with
    | none => .error (.fileIndexOutOfRange r.fileIndex)
    | some path => .ok (Text.Utf8.decodeLossy path, r.line)

end SourceMap

/-- The first section with a name has given data. -/
def ObjectFile.HasSection (o : ObjectFile) (name data : List UInt8) : Prop :=
  ∃ before after, o.sections = before ++ ⟨name, data⟩ :: after ∧ ∀ s ∈ before, s.name ≠ name

/-! ## Packed records -/

theorem fieldBytes_bits (field : RecordField) (w : Width) :
    fieldBytes field w.bits = .ok w.bytes := by
  cases w <;> rfl

section Pieces

variable {α β : Type} {f : α → List β} {width : Nat}

theorem length_flatMap_of_length (hf : ∀ x, (f x).length = width) (xs : List α) :
    (xs.flatMap f).length = xs.length * width := by
  induction xs with
  | nil => simp
  | cons x xs ih =>
    rw [List.flatMap_cons, List.length_append, hf, ih, List.length_cons, Nat.succ_mul, Nat.add_comm]

theorem drop_flatMap_append (hf : ∀ x, (f x).length = width) (xs : List α) (rest : List β)
    {i : Nat} (hi : i ≤ xs.length) :
    (xs.flatMap f ++ rest).drop (i * width) = (xs.drop i).flatMap f ++ rest := by
  have hlength : i * width = ((xs.take i).flatMap f).length := by
    rw [length_flatMap_of_length hf, List.length_take, Nat.min_eq_left hi]
  have hsplit : xs.flatMap f = (xs.take i).flatMap f ++ (xs.drop i).flatMap f := by
    rw [← List.flatMap_append, List.take_append_drop]
  rw [hsplit, hlength, List.append_assoc, List.drop_left]

end Pieces

namespace LineTable

variable {order : ByteOrder} {fileWidth lineWidth : Nat} {rs : List SourceLocation}

theorem length_pack (order : ByteOrder) (fileWidth lineWidth : Nat) (r : SourceLocation) :
    (r.pack order fileWidth lineWidth).length = fileWidth + lineWidth := by
  simp [SourceLocation.pack]

/-- The fields of a packed record. -/
theorem decode_pack (order : ByteOrder) {r : SourceLocation}
    (hfile : r.fileIndex < 256 ^ fileWidth) (hline : r.line < 256 ^ lineWidth) :
    order.decode ((r.pack order fileWidth lineWidth).take fileWidth) = r.fileIndex ∧
      order.decode ((r.pack order fileWidth lineWidth).drop fileWidth) = r.line := by
  have hlength : (order.encode fileWidth r.fileIndex).length = fileWidth :=
    order.length_encode fileWidth r.fileIndex
  unfold SourceLocation.pack
  rw [List.take_left' hlength, List.drop_left' hlength, order.decode_encode, order.decode_encode,
    Nat.mod_eq_of_lt hfile, Nat.mod_eq_of_lt hline]
  exact ⟨rfl, rfl⟩

/-- No record lies beyond the records there are, so in a table that fits in memory no check of the
arithmetic decides. -/
theorem record?_eq {t : LineTable} (hlength : t.records.length < 2 ^ 64) (a : Address) :
    t.record? a = if a.toNat * t.recordWidth + t.recordWidth ≤ t.records.length then
      some ((t.records.drop (a.toNat * t.recordWidth)).take t.recordWidth) else none := by
  unfold record? fitting?
  by_cases hstart : a.toNat * t.recordWidth < UInt64.size
  · rw [if_pos hstart, Option.bind_eq_bind, Option.bind_some]
    by_cases hstop : a.toNat * t.recordWidth + t.recordWidth < UInt64.size
    · rw [if_pos hstop, Option.bind_some]
    · have hbeyond : ¬ a.toNat * t.recordWidth + t.recordWidth ≤ t.records.length := fun hle =>
        hstop (Nat.lt_of_le_of_lt hle hlength)
      rw [if_neg hstop, if_neg hbeyond, Option.bind_none]
  · have hbeyond : ¬ a.toNat * t.recordWidth + t.recordWidth ≤ t.records.length := fun hle =>
      hstart (Nat.lt_of_le_of_lt ((Nat.le_add_right _ _).trans hle) hlength)
    rw [if_neg hstart, if_neg hbeyond, Option.bind_eq_bind, Option.bind_none]

/-- In a packed table an address has the record with its number. Behind the last record too few
bytes are left for another one. -/
theorem record?_packed {remainder : List UInt8}
    (hshort : remainder.length < fileWidth + lineWidth)
    (hlength : (rs.flatMap (SourceLocation.pack order fileWidth lineWidth) ++ remainder).length <
      2 ^ 64) (a : Address) :
    record? ⟨order, fileWidth, lineWidth,
        rs.flatMap (SourceLocation.pack order fileWidth lineWidth) ++ remainder⟩ a =
      rs[a.toNat]?.map (SourceLocation.pack order fileWidth lineWidth) := by
  have hpack := length_pack order fileWidth lineWidth
  have htotal : (rs.flatMap (SourceLocation.pack order fileWidth lineWidth) ++ remainder).length =
      rs.length * (fileWidth + lineWidth) + remainder.length := by
    rw [List.length_append, length_flatMap_of_length hpack]
  refine (record?_eq hlength a).trans ?_
  simp only [recordWidth, htotal]
  by_cases hlt : a.toNat < rs.length
  · have hwithin : (a.toNat + 1) * (fileWidth + lineWidth) ≤ rs.length * (fileWidth + lineWidth) :=
      Nat.mul_le_mul_right _ hlt
    rw [Nat.succ_mul] at hwithin
    rw [if_pos (by omega), drop_flatMap_append hpack rs remainder hlt.le,
      List.drop_eq_getElem_cons hlt, List.flatMap_cons, List.append_assoc,
      List.take_left' (hpack _), List.getElem?_eq_getElem hlt, Option.map_some]
  · have hbeyond := Nat.mul_le_mul_right (fileWidth + lineWidth) (Nat.not_lt.mp hlt)
    rw [if_neg (by omega), List.getElem?_eq_none (Nat.not_lt.mp hlt), Option.map_none]

theorem lookup_packed {remainder : List UInt8}
    (hfit : ∀ r ∈ rs, r.fileIndex < 256 ^ fileWidth ∧ r.line < 256 ^ lineWidth)
    (hshort : remainder.length < fileWidth + lineWidth)
    (hlength : (rs.flatMap (SourceLocation.pack order fileWidth lineWidth) ++ remainder).length <
      2 ^ 64) (a : Address) :
    lookup ⟨order, fileWidth, lineWidth,
        rs.flatMap (SourceLocation.pack order fileWidth lineWidth) ++ remainder⟩ a =
      match rs[a.toNat]? with
      | none => .error (.addressOutOfRange a)
      | some r => .ok r := by
  unfold lookup
  rw [record?_packed hshort hlength a]
  cases hr : rs[a.toNat]? with
  | none => rfl
  | some r =>
    obtain ⟨hfile, hline⟩ := hfit r (List.mem_of_getElem? hr)
    obtain ⟨hindex, hnumber⟩ := decode_pack order hfile hline
    simp only [Option.map_some, hindex, hnumber]

end LineTable

/-! ## Paths -/

/-- One more byte of a file section: the parts that have ended, newest first, and the bytes of the
part begun, newest first. -/
def partsStep (parts : List (List UInt8) × List UInt8) (b : UInt8) :
    List (List UInt8) × List UInt8 :=
  if b = 0 then (parts.2.reverse :: parts.1, []) else (parts.1, b :: parts.2)

theorem zeroTerminated_eq (bytes : List UInt8) :
    zeroTerminated bytes = (bytes.foldl partsStep ([], [])).1.reverse := rfl

/-- Without a zero byte the part goes on. -/
theorem foldl_partsStep_plain {bytes : List UInt8} (h : ∀ b ∈ bytes, b ≠ 0)
    (done : List (List UInt8)) (begun : List UInt8) :
    bytes.foldl partsStep (done, begun) = (done, bytes.reverse ++ begun) := by
  induction bytes generalizing begun with
  | nil => rfl
  | cons b bytes ih =>
    rw [List.forall_mem_cons] at h
    rw [List.foldl_cons, partsStep, if_neg h.1, ih h.2]
    simp

theorem foldl_partsStep_names {paths : List (List UInt8)}
    (h : ∀ path ∈ paths, ∀ b ∈ path, b ≠ 0) (done : List (List UInt8)) :
    (paths.flatMap ObjectFile.encodeName).foldl partsStep (done, []) =
      (paths.reverse ++ done, []) := by
  induction paths generalizing done with
  | nil => rfl
  | cons path paths ih =>
    rw [List.forall_mem_cons] at h
    rw [List.flatMap_cons, ObjectFile.encodeName, List.foldl_append, List.foldl_append,
      foldl_partsStep_plain h.1, List.append_nil]
    simp only [List.foldl_cons, List.foldl_nil, partsStep, if_true, List.reverse_reverse]
    rw [ih h.2]
    simp

/-- The parts are the paths, and what stands behind the last zero byte is dropped. -/
theorem zeroTerminated_names {paths : List (List UInt8)} {tail : List UInt8}
    (hpaths : ∀ path ∈ paths, ∀ b ∈ path, b ≠ 0) (htail : ∀ b ∈ tail, b ≠ 0) :
    zeroTerminated (paths.flatMap ObjectFile.encodeName ++ tail) = paths := by
  rw [zeroTerminated_eq, List.foldl_append, foldl_partsStep_names hpaths,
    foldl_partsStep_plain htail]
  simp

/-! ## Loading -/

theorem ObjectFile.HasSection.findSection {o : ObjectFile} {name data : List UInt8}
    (h : o.HasSection name data) : o.findSection name = .ok ⟨name, data⟩ := by
  obtain ⟨before, after, hsections, hbefore⟩ := h
  have hfind : (o.sections.find? fun s => s.name == name) = some ⟨name, data⟩ :=
    List.find?_eq_some_iff_append.mpr
      ⟨beq_self_eq_true name, before, after, hsections, by simpa using hbefore⟩
  unfold ObjectFile.findSection
  rw [hfind]

/-- No version before the third has sections. -/
theorem ObjectFile.HasSection.version_eq {o : ObjectFile} {name data b : List UInt8}
    (h : o.HasSection name data) (hb : o.encode = .ok b) : o.version = 3 := by
  obtain ⟨hversion, hnone, -⟩ :=
    ObjectFile.obstacle?_eq_none.mp (ObjectFile.encode_eq_ok.mp hb).1
  obtain ⟨before, after, hsections, -⟩ := h
  by_contra hne
  have hless : ¬ 3 ≤ o.version := fun hle => hne (UInt64.le_antisymm hversion hle)
  rw [hnone hless] at hsections
  simp at hsections

theorem ObjectFile.HasSection.length_le {o : ObjectFile} {name data b : List UInt8}
    (h : o.HasSection name data) (hb : o.encode = .ok b) : data.length ≤ b.length := by
  have h3 : 3 ≤ o.version := UInt64.le_of_eq (h.version_eq hb).symm
  obtain ⟨before, after, hsections, -⟩ := h
  have hmem : ⟨name, data⟩ ∈ o.sections := by simp [hsections]
  obtain ⟨-, rfl⟩ := ObjectFile.encode_eq_ok.mp hb
  exact ((ObjectFile.length_flatMap_encodeSection o.order o.sections).2 _ hmem).trans
    (ObjectFile.length_sections_le h3)

namespace SourceMap

variable {d : SourceMap} {o : ObjectFile}

/-- The line table of a source map. -/
def lineTable (d : SourceMap) (order : ByteOrder) : LineTable where
  order := order
  fileWidth := d.fileWidth.bytes
  lineWidth := d.lineWidth.bytes
  records :=
    d.records.flatMap (SourceLocation.pack order d.fileWidth.bytes d.lineWidth.bytes) ++ d.remainder

theorem ofObject_eq (h : o.HasSection (Text.Utf8.encode lineSection) (d.lineData o.order)) :
    LineTable.ofObject o = .ok (d.lineTable o.order) := by
  unfold LineTable.ofObject LineTable.ofSection
  rw [h.findSection]
  simp only [ne_eq, not_true_eq_false, if_false, lineData, fieldBytes_bits]
  rfl

theorem load_eq (hlines : o.HasSection (Text.Utf8.encode lineSection) (d.lineData o.order))
    (hfiles : o.HasSection (Text.Utf8.encode fileSection) d.fileData) :
    DebugInfo.load o =
      .ok ⟨d.lineTable o.order, d.paths.map Text.Utf8.decodeLossy⟩ := by
  have hpaths : zeroTerminated d.fileData = d.paths :=
    zeroTerminated_names d.paths_plain d.tail_plain
  unfold DebugInfo.load sourceFiles
  rw [ofObject_eq hlines, hfiles.findSection]
  simp only [ne_eq, not_true_eq_false, if_false, hpaths]
  rfl

theorem locate_eq (d : SourceMap) (order : ByteOrder)
    (hlength : (d.lineData order).length < 2 ^ 64) (a : Address) :
    DebugInfo.locate ⟨d.lineTable order, d.paths.map Text.Utf8.decodeLossy⟩ a = d.locate a := by
  have hfit : ∀ r ∈ d.records,
      r.fileIndex < 256 ^ d.fileWidth.bytes ∧ r.line < 256 ^ d.lineWidth.bytes := by
    simpa only [Width.modulus_eq] using d.records_fit
  have hrecords : (d.lineTable order).records.length < 2 ^ 64 := by
    have hdata : (d.lineData order).length = (d.lineTable order).records.length + 2 := rfl
    omega
  have hlookup : (d.lineTable order).lookup a =
      match d.records[a.toNat]? with
      | none => .error (.addressOutOfRange a)
      | some r => .ok r := LineTable.lookup_packed hfit d.remainder_short hrecords a
  unfold DebugInfo.locate locate
  rw [hlookup]
  cases d.records[a.toNat]? with
  | none => rfl
  | some r =>
    simp only [bind, Except.bind, List.getElem?_map]
    cases d.paths[r.fileIndex]? <;> rfl

end SourceMap

/-- An object file whose first line section and first file section hold a source map, in its own
byte order, can be encoded only in version 3. Read back from its image it has debug information that
loads. The files are the paths of the source map as text, and every address is located as the
source map says: by the record with its number, if there is one, and by the path with the index in
that record, if there is one. -/
theorem DebugInfo.locate_of_image {o : ObjectFile} {b : List UInt8} {d : SourceMap}
    (hlines : o.HasSection (Text.Utf8.encode lineSection) (d.lineData o.order))
    (hfiles : o.HasSection (Text.Utf8.encode fileSection) d.fileData)
    (hb : o.encode = .ok b) (hlength : b.length < 2 ^ 63) :
    o.version = 3 ∧ ∃ o' info, ObjectFile.decode b = .ok o' ∧ DebugInfo.load o' = .ok info ∧
      info.files = d.paths.map Text.Utf8.decodeLossy ∧ ∀ a, info.locate a = d.locate a := by
  have hread : ObjectFile.decode b = .ok o.stored := by
    have happend := ObjectFile.decode_append_of_encode hb hlength []
    rwa [List.append_nil] at happend
  -- Reading gives back the byte order and the sections; debug information is about nothing else.
  have hload : DebugInfo.load o.stored =
      .ok ⟨d.lineTable o.order, d.paths.map Text.Utf8.decodeLossy⟩ :=
    SourceMap.load_eq hlines hfiles
  have hversion := hlines.version_eq hb
  have hdata : (d.lineData o.order).length < 2 ^ 64 := by
    have hle := hlines.length_le hb
    omega
  exact ⟨hversion, o.stored, _, hread, hload, rfl, d.locate_eq o.order hdata⟩

/-- Three records and two paths, with two bytes behind the last record and a path that does not
end. -/
def crossedMap : SourceMap where
  fileWidth := .byte
  lineWidth := .half
  records := [⟨1, 300⟩, ⟨0, 7⟩, ⟨2, 8⟩]
  remainder := [9, 9]
  paths := [[0x61], [0x62, 0xff]]
  tail := [0x63]
  records_fit := by decide
  remainder_short := by decide
  paths_plain := by simp
  tail_plain := by simp

/-- A big-endian object file with `crossedMap`, and with another line section behind the first. -/
def crossedFile : ObjectFile :=
  { order := .big
    sections := [⟨Text.Utf8.encode fileSection, crossedMap.fileData⟩, ⟨[0x6e], [0]⟩,
      ⟨Text.Utf8.encode lineSection, crossedMap.lineData .big⟩,
      ⟨Text.Utf8.encode lineSection, [8]⟩] }

theorem DebugInfo.locate_of_image_crossed :
    crossedFile.HasSection (Text.Utf8.encode lineSection) (crossedMap.lineData .big) ∧
    crossedFile.HasSection (Text.Utf8.encode fileSection) crossedMap.fileData ∧
    crossedFile.encode = .ok crossedFile.image ∧ crossedFile.image.length < 2 ^ 63 ∧
    ∃ o' info, ObjectFile.decode crossedFile.image = .ok o' ∧ DebugInfo.load o' = .ok info ∧
      info.files = ["a", "b\ufffd"] ∧ info.locate ⟨0⟩ = .ok ("b\ufffd", 300) ∧
      info.locate ⟨1⟩ = .ok ("a", 7) ∧ info.locate ⟨2⟩ = .error (.fileIndexOutOfRange 2) ∧
      info.locate ⟨3⟩ = .error (.addressOutOfRange ⟨3⟩) ∧
      info.locate ⟨0x5555555555555556⟩ = .error (.addressOutOfRange ⟨0x5555555555555556⟩) := by
  have hlines : crossedFile.HasSection (Text.Utf8.encode lineSection)
      (crossedMap.lineData crossedFile.order) :=
    ⟨crossedFile.sections.take 2, crossedFile.sections.drop 3, rfl, by decide +kernel⟩
  have hfiles : crossedFile.HasSection (Text.Utf8.encode fileSection) crossedMap.fileData :=
    ⟨[], crossedFile.sections.drop 1, rfl, by simp⟩
  have hencode : crossedFile.encode = .ok crossedFile.image := by rfl
  have hlength : crossedFile.image.length < 2 ^ 63 := by decide +kernel
  obtain ⟨-, o', info, hdecode, hload, hpaths, hlocate⟩ :=
    DebugInfo.locate_of_image hlines hfiles hencode hlength
  refine ⟨hlines, hfiles, hencode, hlength, o', info, hdecode, hload, hpaths.trans (by decide), ?_⟩
  exact ⟨(hlocate _).trans (by rfl), (hlocate _).trans (by rfl), (hlocate _).trans (by rfl),
    (hlocate _).trans (by rfl), (hlocate _).trans (by rfl)⟩

end WordMachine
