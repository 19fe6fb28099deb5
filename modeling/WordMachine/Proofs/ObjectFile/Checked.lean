import WordMachine.Proofs.ObjectFile.Truncation

/-!
# Reading in checked arithmetic

Here an image is read a second time, with offsets and lengths that have to fit in 64 bits: the end
of a field is a checked sum, the bytes of the code are counted in a product that stops growing at
the largest number, and a length that does not fit is a failure of its own. Of an image that fits in
memory both ways say the same, and no length is too large.

* `CheckedError` : the reasons for which an image is not read.
* `CheckedReader` : the second way of reading.
* `CheckedReader.Checks` : both ways agree on images that fit in memory.
* `ObjectFile.readChecked_eq` : they agree on object files.
-/

namespace WordMachine

/-- Why an image is not read in checked arithmetic. -/
inductive CheckedError where
  | format (error : FormatError)
  /-- A length does not fit in memory. -/
  | lengthOverflow (field : Field) (length : Nat)
  deriving DecidableEq, Repr

/-- The text of such an error. -/
def CheckedError.message : CheckedError → String
  | format e => e.message
  | lengthOverflow field length =>
    field.name ++ " length " ++ toString length ++ " is too large"

/-- A product of lengths, or the largest number of 64 bits if that is less. -/
def saturated (n : Nat) : Nat := min n (2 ^ 64 - 1)

/-- Reading from a cursor in checked arithmetic. -/
abbrev CheckedReader := EStateM CheckedError Cursor

namespace CheckedReader

variable {α β : Type}

/-! ## The second way of reading -/

/-- Reading without arithmetic that could fail. -/
def lift (r : Reader α) : CheckedReader α := fun c =>
  match r c with
  | .ok a c' => .ok a c'
  | .error e c' => .error (.format e) c'

/-- The next `n` bytes. -/
def bytes (n : Nat) (field : Field) : CheckedReader (List UInt8) := fun c =>
  match fitting? (c.offset + n) with
  | none => .error (.format (.unexpectedEnd field c.offset)) c
  | some stop =>
    if c.total < stop then .error (.format (.unexpectedEnd field c.offset)) c
    else .ok (c.rest.take n) { c with rest := c.rest.drop n, offset := stop }

/-- The next number of `width` bytes. -/
def number (order : ByteOrder) (width : Nat) (field : Field) : CheckedReader Nat := do
  return order.decode (← bytes width field)

/-- The next length. -/
def length (order : ByteOrder) (field : Field) : CheckedReader Nat := do
  let n ← number order 8 field
  match fitting? n with
  | some n => return n
  | none => throw (.lengthOverflow field n)

/-- `n` items, behind those already read (newest first). -/
def collect (item : CheckedReader α) : Nat → List α → CheckedReader (List α)
  | 0, done => return done.reverse
  | n + 1, done => do
    let a ← item
    collect item n (a :: done)

/-- `n` items. -/
def many (n : Nat) (item : CheckedReader α) : CheckedReader (List α) := collect item n []

/-- The magic. -/
def magic : CheckedReader Unit := do
  let found ← bytes 3 .magic
  if found ≠ ObjectFile.magic then throw (.format (.badMagic found))

/-- The byte-order marker. -/
def byteOrder : CheckedReader ByteOrder := do
  let found ← bytes 2 .byteOrderMarker
  match ByteOrder.ofMarker? found with
  | some order =>
    lift (Reader.note (.byteOrder order))
    return order
  | none => throw (.format (.badMarker found))

/-- The format version. -/
def version (order : ByteOrder) : CheckedReader UInt64 := do
  let n ← number order 8 .formatVersion
  lift (Reader.note (.formatVersion n))
  let v := UInt64.ofNat n
  if currentVersion < v then throw (.format (.unsupportedVersion v currentVersion))
  return v

/-- The literal data. -/
def literal (order : ByteOrder) : CheckedReader (List UInt8) := do
  let size ← number order 2 .literalSize
  let data ← bytes size .literalData
  lift (Reader.note (.literalSize data.length))
  return data

/-- A label. -/
def label (order : ByteOrder) : CheckedReader Label := do
  let name ← lift (Reader.name .labelName)
  let address ← number order 8 .labelAddress
  return { name, address := Address.ofNat address }

/-- The labels. -/
def labels (order : ByteOrder) : CheckedReader (List Label) := do
  let count ← number order 2 .labelCount
  lift (Reader.note (.labelCount count))
  many count (label order)

/-- The instruction set version, which is 1 before version 2. -/
def instructionSet (order : ByteOrder) (version : UInt64) : CheckedReader UInt64 :=
  if 2 ≤ version then do return UInt64.ofNat (← number order 8 .instructionSet) else return 1

/-- A word of code. -/
def word (order : ByteOrder) : CheckedReader Word := do
  return Word.ofNat (← number order 2 .code)

/-- The code. Its length is checked before the first word is read. -/
def code (order : ByteOrder) : CheckedReader (List Word) := do
  let count ← length order .codeLength
  lift (Reader.require (saturated (count * 2)) .code)
  many count (word order)

/-- A section. -/
def sectionEntry (order : ByteOrder) : CheckedReader Section := do
  let name ← lift (Reader.name .sectionName)
  let size ← length order .sectionSize
  lift (Reader.note (.sectionSize name size))
  let data ← bytes size .sectionData
  return { name, data }

/-- The sections, which there are from version 3 on. -/
def sections (order : ByteOrder) (version : UInt64) : CheckedReader (List Section) :=
  if 3 ≤ version then do
    let count ← number order 8 .sectionCount
    many count (sectionEntry order)
  else return []

/-- A whole image. -/
def objectFile : CheckedReader ObjectFile := do
  magic
  let order ← byteOrder
  let version ← version order
  let literal ← literal order
  let labels ← labels order
  let instructionSet ← instructionSet order version
  let code ← code order
  let sections ← sections order version
  lift Reader.trailing
  return { order, version, literal, labels, instructionSet, code, sections }

/-! ## Agreement -/

/-- Both ways of reading agree on images that fit in memory. -/
abbrev Checks (x : CheckedReader α) (r : Reader α) : Prop :=
  Effect.Agrees (fun c : Cursor => c.total < 2 ^ 63) x (lift r)

theorem lift_of_ok {r : Reader α} {c c' : Cursor} {a : α} (h : r c = .ok a c') :
    lift r c = .ok a c' := by
  rw [lift, h]

theorem lift_of_error {r : Reader α} {c c' : Cursor} {e : FormatError} (h : r c = .error e c') :
    lift r c = .error (.format e) c' := by
  rw [lift, h]

theorem checks_lift (r : Reader α) : (lift r).Checks r := Effect.agrees_refl (lift r)

theorem checks_pure (a : α) : (pure a : CheckedReader α).Checks (pure a) := fun _ _ => rfl

theorem checks_throw (e : FormatError) :
    (throw (.format e) : CheckedReader α).Checks (throw e) := fun _ _ => rfl

/-- The first reader does not move the end of the image, so the second one finds it in memory. -/
theorem checks_bind {x : CheckedReader α} {r : Reader α} {f : α → CheckedReader β}
    {g : α → Reader β} (hx : x.Checks r) (hr : r.Decisive) (hf : ∀ a, (f a).Checks (g a)) :
    (x >>= f).Checks (r >>= g) := by
  intro c hc
  cases hrc : r c with
  | ok a c' =>
    have hok : x c = .ok a c' := (hx c hc).trans (lift_of_ok hrc)
    have hc' : c'.total < 2 ^ 63 := by rwa [hr.total hrc]
    have hlift : lift (r >>= g) c = lift (g a) c' := by rw [lift, lift, Effect.bind_of_ok hrc]
    rw [Effect.bind_of_ok hok, hf a c' hc', hlift]
  | error e c' =>
    have herror : x c = .error (.format e) c' := (hx c hc).trans (lift_of_error hrc)
    rw [Effect.bind_eq_error.mpr (.inl herror),
      lift_of_error (Effect.bind_eq_error.mpr (.inl hrc))]

theorem checks_ite {p : Prop} [Decidable p] {x y : CheckedReader α} {r s : Reader α}
    (hx : x.Checks r) (hy : y.Checks s) : (if p then x else y).Checks (if p then r else s) := by
  split
  · exact hx
  · exact hy

theorem checks_note_bind {x : CheckedReader α} {r : Reader α} (n : Notice) (hx : x.Checks r) :
    (lift (Reader.note n) >>= fun _ => x).Checks (Reader.note n >>= fun _ => r) :=
  checks_bind (checks_lift _) (Reader.decisive_note n) fun _ => hx

/-! ## Fields -/

/-- A field that ends within the image ends within 64 bits. -/
theorem checks_bytes (n : Nat) (field : Field) : (bytes n field).Checks (Reader.bytes n field) := by
  intro c hc
  have htake : (c.rest.take n).length = min n c.rest.length := List.length_take
  by_cases hend : c.total < c.offset + n
  · have hshort : (c.rest.take n).length < n := by
      simp only [Cursor.total] at hend
      omega
    simp only [bytes, lift, Reader.bytes, fitting?, if_pos hshort]
    by_cases hfits : c.offset + n < UInt64.size
    · simp only [if_pos hfits, if_pos hend]
    · simp only [if_neg hfits]
  · have hfits : c.offset + n < UInt64.size := by
      simp only [UInt64.size]
      omega
    have hlong : ¬ (c.rest.take n).length < n := by
      simp only [Cursor.total] at hend
      omega
    simp only [bytes, lift, Reader.bytes, fitting?, if_pos hfits, if_neg hend, if_neg hlong]

theorem checks_number (order : ByteOrder) (width : Nat) (field : Field) :
    (number order width field).Checks (Reader.number order width field) :=
  checks_bind (checks_bytes width field) (Reader.decisive_bytes width field) fun _ =>
    checks_pure _

/-- No length of eight bytes is too large. -/
theorem checks_length (order : ByteOrder) (field : Field) :
    (length order field).Checks (Reader.number order 8 field) := by
  intro c hc
  have hnumber := checks_number order 8 field c hc
  cases hread : Reader.number order 8 field c with
  | ok n c' =>
    obtain ⟨-, -, hn, -⟩ := (Reader.reads_number order 8 field).form hread
    have hfits : fitting? n = some n := if_pos hn
    rw [length, Effect.bind_of_ok (hnumber.trans (lift_of_ok hread)), hfits, lift_of_ok hread]
    rfl
  | error e c' =>
    have herror := hnumber.trans (lift_of_error hread)
    rw [length, Effect.bind_eq_error.mpr (.inl herror), lift_of_error hread]

/-- Fewer bytes than fit in memory are left, so it does not matter where the product stops
growing. -/
theorem checks_require (n : Nat) (field : Field) :
    (lift (Reader.require (saturated n) field)).Checks (Reader.require n field) := by
  intro c hc
  have hrest : c.rest.length < saturated n ↔ c.rest.length < n := by
    simp only [Cursor.total] at hc
    simp only [saturated]
    omega
  simp only [lift, Reader.require, hrest]

theorem checks_collect {item : CheckedReader α} {r : Reader α} (hitem : item.Checks r)
    (hr : r.Decisive) (n : Nat) (done : List α) :
    (collect item n done).Checks (Reader.collect r n done) := by
  induction n generalizing done with
  | zero => exact checks_pure done.reverse
  | succ n ih => exact checks_bind hitem hr fun a => ih (a :: done)

theorem checks_many {item : CheckedReader α} {r : Reader α} (hitem : item.Checks r)
    (hr : r.Decisive) (n : Nat) : (many n item).Checks (Reader.many n r) :=
  checks_collect hitem hr n []

/-! ## The parts of an object file -/

theorem checks_magic : magic.Checks Reader.magic :=
  checks_bind (checks_bytes 3 .magic) (Reader.decisive_bytes 3 .magic) fun found =>
    checks_ite (checks_throw (.badMagic found)) (checks_pure ())

theorem checks_byteOrder : byteOrder.Checks Reader.byteOrder := by
  refine checks_bind (checks_bytes 2 .byteOrderMarker)
    (Reader.decisive_bytes 2 .byteOrderMarker) fun found => ?_
  cases ByteOrder.ofMarker? found with
  | none => exact checks_throw (.badMarker found)
  | some order => exact checks_note_bind (.byteOrder order) (checks_pure order)

theorem checks_version (order : ByteOrder) : (version order).Checks (Reader.version order) := by
  refine checks_bind (checks_number order 8 .formatVersion)
    (Reader.decisive_number order 8 .formatVersion) fun n =>
      checks_note_bind (.formatVersion n) ?_
  refine checks_ite ?_ (checks_pure _)
  exact checks_bind (checks_throw _) (Reader.decisive_throw _) fun _ => checks_pure _

theorem checks_literal (order : ByteOrder) : (literal order).Checks (Reader.literal order) := by
  refine checks_bind (checks_number order 2 .literalSize)
    (Reader.decisive_number order 2 .literalSize) fun size => ?_
  refine checks_bind (checks_bytes size .literalData)
    (Reader.decisive_bytes size .literalData) fun data => ?_
  exact checks_note_bind (.literalSize data.length) (checks_pure data)

theorem checks_label (order : ByteOrder) : (label order).Checks (Reader.label order) := by
  refine checks_bind (checks_lift _) (Reader.decisive_name .labelName) fun name => ?_
  exact checks_bind (checks_number order 8 .labelAddress)
    (Reader.decisive_number order 8 .labelAddress) fun _ => checks_pure _

theorem checks_labels (order : ByteOrder) : (labels order).Checks (Reader.labels order) := by
  refine checks_bind (checks_number order 2 .labelCount)
    (Reader.decisive_number order 2 .labelCount) fun count => ?_
  exact checks_note_bind (.labelCount count)
    (checks_many (checks_label order) (Reader.decisive_label order) count)

theorem checks_instructionSet (order : ByteOrder) (v : UInt64) :
    (instructionSet order v).Checks (Reader.instructionSet order v) :=
  checks_ite (checks_bind (checks_number order 8 .instructionSet)
    (Reader.decisive_number order 8 .instructionSet) fun _ => checks_pure _) (checks_pure 1)

theorem checks_word (order : ByteOrder) : (word order).Checks (Reader.word order) :=
  checks_bind (checks_number order 2 .code) (Reader.decisive_number order 2 .code) fun _ =>
    checks_pure _

theorem checks_code (order : ByteOrder) : (code order).Checks (Reader.code order) := by
  refine checks_bind (checks_length order .codeLength)
    (Reader.decisive_number order 8 .codeLength) fun count => ?_
  refine checks_bind (checks_require (count * 2) .code)
    (Reader.decisive_require (count * 2) .code) fun _ => ?_
  exact checks_many (checks_word order) (Reader.decisive_word order) count

theorem checks_sectionEntry (order : ByteOrder) :
    (sectionEntry order).Checks (Reader.sectionEntry order) := by
  refine checks_bind (checks_lift _) (Reader.decisive_name .sectionName) fun name => ?_
  refine checks_bind (checks_length order .sectionSize)
    (Reader.decisive_number order 8 .sectionSize) fun size =>
      checks_note_bind (.sectionSize name size) ?_
  exact checks_bind (checks_bytes size .sectionData)
    (Reader.decisive_bytes size .sectionData) fun _ => checks_pure _

theorem checks_sections (order : ByteOrder) (v : UInt64) :
    (sections order v).Checks (Reader.sections order v) := by
  refine checks_ite ?_ (checks_pure [])
  refine checks_bind (checks_number order 8 .sectionCount)
    (Reader.decisive_number order 8 .sectionCount) fun count => ?_
  exact checks_many (checks_sectionEntry order) (Reader.decisive_sectionEntry order) count

theorem checks_objectFile : objectFile.Checks Reader.objectFile := by
  refine checks_bind checks_magic Reader.decisive_magic fun _ => ?_
  refine checks_bind checks_byteOrder Reader.decisive_byteOrder fun order => ?_
  refine checks_bind (checks_version order) (Reader.decisive_version order) fun version => ?_
  refine checks_bind (checks_literal order) (Reader.decisive_literal order) fun literal => ?_
  refine checks_bind (checks_labels order) (Reader.decisive_labels order) fun labels => ?_
  refine checks_bind (checks_instructionSet order version)
    (Reader.decisive_instructionSet order version) fun instructionSet => ?_
  refine checks_bind (checks_code order) (Reader.decisive_code order) fun code => ?_
  refine checks_bind (checks_sections order version)
    (Reader.decisive_sections order version) fun sections => ?_
  exact checks_bind (checks_lift _) Reader.decisive_trailing fun _ => checks_pure _

end CheckedReader

namespace ObjectFile

/-- The object file of an image in checked arithmetic, and what there is to report about it, oldest
first. -/
def readChecked (bytes : List UInt8) : Except CheckedError ObjectFile × List Notice :=
  match CheckedReader.objectFile.run { rest := bytes } with
  | .ok o c => (.ok o, c.notices.reverse)
  | .error e c => (.error e, c.notices.reverse)

/-- Of an image that fits in memory, checked arithmetic says and reports the same. In particular no
length in it is too large. -/
theorem readChecked_eq {b : List UInt8} (hb : b.length < 2 ^ 63) :
    readChecked b = ((read b).1.mapError .format, (read b).2) := by
  have htotal : Cursor.total { rest := b } < 2 ^ 63 := by simpa [Cursor.total] using hb
  unfold readChecked read EStateM.run
  rw [CheckedReader.checks_objectFile _ htotal, CheckedReader.lift]
  cases Reader.objectFile { rest := b } <;> rfl

end ObjectFile

end WordMachine
