import Mathlib.Tactic.SplitIfs
import WordMachine.ObjectFile.Writer
import WordMachine.Proofs.Effect

/-!
# Images and what stands against them

An object file is written field by field, and the writing may end inside a list, at the first name
that cannot be written. Looked at as a whole, what is written is one image, and it is written unless
something stands against it; then the first thing in the order of the fields is the reason given.

* `ObjectFile.image` : the image of an object file, as one list of bytes.
* `ObjectFile.obstacle?` : the first thing that stands against it.
* `Writer.Writes` : what a writer appends, and what stands against it.
* `ObjectFile.encode_eq` : writing field by field gives the image or the first obstacle.
-/

namespace WordMachine

namespace ObjectFile

/-! ## Images -/

/-- The image of a name. -/
def encodeName (name : List UInt8) : List UInt8 := name ++ [0]

/-- The image of a label. -/
def encodeLabel (order : ByteOrder) (l : Label) : List UInt8 :=
  encodeName l.name ++ order.encode 8 l.address.toNat

/-- The image of a word. -/
def encodeWord (order : ByteOrder) (w : Word) : List UInt8 := order.encode 2 w.toNat

/-- The image of a section. -/
def encodeSection (order : ByteOrder) (s : Section) : List UInt8 :=
  encodeName s.name ++ order.encode 8 s.data.length ++ s.data

/-- The image, if there is one. -/
def image (o : ObjectFile) : List UInt8 :=
  magic ++ o.order.encode 2 ByteOrder.marker ++ o.order.encode 8 o.version.toNat ++
    o.order.encode 2 o.literal.length ++ o.literal ++
    o.order.encode 2 o.labels.length ++ o.labels.flatMap (encodeLabel o.order) ++
    (if 2 ≤ o.version then o.order.encode 8 o.instructionSet.toNat else []) ++
    o.order.encode 8 o.code.length ++ o.code.flatMap (encodeWord o.order) ++
    (if 3 ≤ o.version then
      o.order.encode 8 o.sections.length ++ o.sections.flatMap (encodeSection o.order)
    else [])

/-- Whether a name can be written. -/
def isWritable (name : List UInt8) : Bool := !name.contains 0

/-- The first reason why an object file has no image. -/
def obstacle? (o : ObjectFile) : Option EncodeError :=
  if currentVersion < o.version then some (.unsupportedVersion o.version)
  else if o.version < 3 ∧ o.sections ≠ [] then some (.sectionsUnsupported o.version)
  else if maxCount < o.literal.length then some (.tooMany .literalData o.literal.length)
  else if maxCount < o.labels.length then some (.tooMany .globalLabel o.labels.length)
  else match o.labels.find? fun l => !isWritable l.name with
    | some l => some (.zeroInName l.name)
    | none => (o.sections.find? fun s => !isWritable s.name).map fun s => .zeroInName s.name

end ObjectFile

namespace Writer

open ObjectFile

variable {α : Type} {w x y : Writer Unit} {r r' : Option EncodeError} {i j : List UInt8}

/-! ## What writers append -/

/-- A writer that fails for the reason that stands against it, if there is one, and appends an image
otherwise. -/
structure Writes (w : Writer Unit) (reason? : Option EncodeError) (image : List UInt8) : Prop where
  ok : reason? = none → ∀ written, w written = .ok () (written ++ image.toArray)
  error {e : EncodeError} : reason? = some e → ∀ written, ∃ begun, w written = .error e begun

theorem writes_pure : (pure () : Writer Unit).Writes none [] where
  ok _ written := congrArg (EStateM.Result.ok ()) written.append_empty.symm
  error h := by cases h

theorem writes_throw (e : EncodeError) (image : List UInt8) :
    (throw e : Writer Unit).Writes (some e) image where
  ok h := by cases h
  error h written := by
    cases h
    exact ⟨written, rfl⟩

theorem writes_bytes (bs : List UInt8) : (bytes bs).Writes none bs where
  ok _ _ := rfl
  error h := by cases h

theorem writes_number (order : ByteOrder) (width n : Nat) :
    (number order width n).Writes none (order.encode width n) := writes_bytes _

/-- What stands against the first of two writers comes first. -/
theorem writes_bind (hx : x.Writes r i) (hy : y.Writes r' j) :
    (x >>= fun _ => y).Writes (r.or r') (i ++ j) where
  ok h written := by
    obtain ⟨hr, hr'⟩ := Option.or_eq_none_iff.mp h
    have hbehind : written ++ i.toArray ++ j.toArray = written ++ (i ++ j).toArray := by simp
    rw [Effect.bind_of_ok (hx.ok hr written), hy.ok hr', hbehind]
  error {e} h written := by
    cases hr : r with
    | some e' =>
      rw [hr, Option.some_or] at h
      obtain ⟨begun, hbegun⟩ := hx.error (hr.trans h) written
      exact ⟨begun, Effect.bind_eq_error.mpr (.inl hbegun)⟩
    | none =>
      rw [hr, Option.none_or] at h
      rw [Effect.bind_of_ok (hx.ok hr written)]
      exact hy.error h _

theorem writes_ite {p : Prop} [Decidable p] (hx : x.Writes r i) (hy : y.Writes r' j) :
    (if p then x else y).Writes (if p then r else r') (if p then i else j) := by
  split_ifs
  · exact hx
  · exact hy

/-- In a list, the first item with something against it ends the writing. -/
theorem writes_forM {f : α → Writer Unit} {reason? : α → Option EncodeError}
    {image : α → List UInt8} (h : ∀ a, (f a).Writes (reason? a) (image a)) (as : List α) :
    (as.forM f).Writes (as.findSome? reason?) (as.flatMap image) := by
  induction as with
  | nil => exact writes_pure
  | cons a as ih =>
    have hor : (a :: as).findSome? reason? = (reason? a).or (as.findSome? reason?) := by
      rw [List.findSome?_cons]
      cases reason? a <;> rfl
    rw [hor, List.flatMap_cons]
    exact writes_bind (h a) ih

/-! ## Fields -/

theorem writes_count (order : ByteOrder) (n : Nat) (field : CountedField) :
    (count order n field).Writes (if maxCount < n then some (.tooMany field n) else none)
      (order.encode 2 n) := by
  have h := writes_ite (p := maxCount < n) (writes_throw (.tooMany field n) (order.encode 2 n))
    (writes_number order 2 n)
  rwa [ite_self] at h

/-- What stands against a name. -/
def nameObstacle? (name : List UInt8) : Option EncodeError :=
  if isWritable name then none else some (.zeroInName name)

theorem writes_name (name : List UInt8) :
    (Writer.name name).Writes (nameObstacle? name) (encodeName name) := by
  unfold Writer.name nameObstacle? isWritable
  cases name.contains 0 with
  | true => exact writes_throw _ _
  | false => exact writes_bind (writes_bytes name) (writes_bytes [0])

theorem writes_label (order : ByteOrder) (l : Label) :
    (label order l).Writes (nameObstacle? l.name) (encodeLabel order l) := by
  have h := writes_bind (writes_name l.name) (writes_number order 8 l.address.toNat)
  rwa [Option.or_none] at h

theorem writes_sectionEntry (order : ByteOrder) (s : Section) :
    (sectionEntry order s).Writes (nameObstacle? s.name) (encodeSection order s) := by
  have h := writes_bind (writes_name s.name)
    (writes_bind (writes_number order 8 s.data.length) (writes_bytes s.data))
  rwa [Option.or_none, Option.or_none, ← List.append_assoc] at h

/-! ## The whole -/

/-- What stands against the header. -/
def headerObstacle? (o : ObjectFile) : Option EncodeError :=
  if currentVersion < o.version then some (.unsupportedVersion o.version)
  else if o.version < 3 ∧ o.sections ≠ [] then some (.sectionsUnsupported o.version)
  else none

theorem writes_header (o : ObjectFile) :
    (header o).Writes (headerObstacle? o)
      (magic ++ (o.order.encode 2 ByteOrder.marker ++ o.order.encode 8 o.version.toNat)) := by
  unfold header headerObstacle?
  split_ifs
  · exact writes_throw _ _
  · exact writes_throw _ _
  · exact writes_bind (writes_bytes _) (writes_bind (writes_number _ _ _) (writes_number _ _ _))

theorem writes_instructionSet (order : ByteOrder) (version n : UInt64) :
    (instructionSet order version n).Writes none
      (if 2 ≤ version then order.encode 8 n.toNat else []) := by
  have h := writes_ite (p := 2 ≤ version) (writes_number order 8 n.toNat) writes_pure
  rwa [ite_self] at h

theorem writes_code (order : ByteOrder) (ws : List Word) :
    (code order ws).Writes none (order.encode 8 ws.length ++ ws.flatMap (encodeWord order)) := by
  have hnone : ws.findSome? (fun _ => (none : Option EncodeError)) = none := by simp
  have h := writes_bind (writes_number order 8 ws.length)
    (writes_forM (fun w => writes_number order 2 w.toNat) ws)
  rwa [hnone] at h

theorem writes_sections (order : ByteOrder) (version : UInt64) (ss : List Section) :
    (sections order version ss).Writes
      (if 3 ≤ version then ss.findSome? fun s => nameObstacle? s.name else none)
      (if 3 ≤ version then order.encode 8 ss.length ++ ss.flatMap (encodeSection order) else []) :=
  writes_ite (writes_bind (writes_number order 8 ss.length)
    (writes_forM (writes_sectionEntry order) ss)) writes_pure

theorem findSome?_nameObstacle? (name : α → List UInt8) (as : List α) :
    (as.findSome? fun a => nameObstacle? (name a)) =
      (as.find? fun a => !isWritable (name a)).map fun a => .zeroInName (name a) := by
  induction as with
  | nil => rfl
  | cons a as ih =>
    rw [List.findSome?_cons, List.find?_cons, ih]
    unfold nameObstacle?
    cases isWritable (name a) <;> rfl

/-- The order of the fields is the order of the obstacles. No section is left to be written if the
version does not allow any. -/
theorem obstacle?_eq (o : ObjectFile) : o.obstacle? =
    (headerObstacle? o).or
      ((if maxCount < o.literal.length then some (.tooMany .literalData o.literal.length)
        else none).or
      ((if maxCount < o.labels.length then some (.tooMany .globalLabel o.labels.length)
        else none).or
      ((o.labels.findSome? fun l => nameObstacle? l.name).or
      (if 3 ≤ o.version then o.sections.findSome? fun s => nameObstacle? s.name else none)))) := by
  unfold obstacle? headerObstacle?
  rw [findSome?_nameObstacle?, findSome?_nameObstacle?]
  by_cases hversion : currentVersion < o.version
  · simp only [if_pos hversion, Option.some_or]
  by_cases hsections : o.version < 3 ∧ o.sections ≠ []
  · simp only [if_neg hversion, if_pos hsections, Option.some_or]
  by_cases hliteral : maxCount < o.literal.length
  · simp only [if_neg hversion, if_neg hsections, if_pos hliteral, Option.some_or, Option.none_or]
  by_cases hlabels : maxCount < o.labels.length
  · simp only [if_neg hversion, if_neg hsections, if_neg hliteral, if_pos hlabels, Option.some_or,
      Option.none_or]
  simp only [if_neg hversion, if_neg hsections, if_neg hliteral, if_neg hlabels, Option.none_or]
  have hlast : (if 3 ≤ o.version then (o.sections.find? fun s => !isWritable s.name).map fun s =>
      EncodeError.zeroInName s.name else none) =
        (o.sections.find? fun s => !isWritable s.name).map fun s => .zeroInName s.name := by
    by_cases h3 : 3 ≤ o.version
    · rw [if_pos h3]
    · have hnone : o.sections = [] :=
        Decidable.byContradiction fun hne => hsections ⟨UInt64.not_le.mp h3, hne⟩
      rw [if_neg h3, hnone]
      rfl
  rw [hlast]
  cases o.labels.find? fun l => !isWritable l.name <;> rfl

theorem writes_objectFile (o : ObjectFile) : (objectFile o).Writes o.obstacle? o.image := by
  have h := writes_bind (writes_header o) (writes_bind
    (writes_bind (writes_count o.order o.literal.length .literalData) (writes_bytes o.literal))
    (writes_bind (writes_bind (writes_count o.order o.labels.length .globalLabel)
      (writes_forM (writes_label o.order) o.labels)) (writes_bind
    (writes_instructionSet o.order o.version o.instructionSet) (writes_bind
    (writes_code o.order o.code) (writes_sections o.order o.version o.sections)))))
  simp only [Option.or_none, Option.none_or, Option.or_assoc] at h
  rw [obstacle?_eq]
  simp only [image, List.append_assoc] at h ⊢
  exact h

end Writer

namespace ObjectFile

variable {o : ObjectFile} {b : List UInt8} {e : EncodeError}

/-- Writing field by field gives the image, unless something stands against it. -/
theorem encode_eq (o : ObjectFile) :
    encode o = match o.obstacle? with
      | some e => .error e
      | none => .ok o.image := by
  have h := Writer.writes_objectFile o
  unfold encode EStateM.run
  cases hobstacle : o.obstacle? with
  | none =>
    rw [h.ok hobstacle]
    simp
  | some e =>
    obtain ⟨begun, hbegun⟩ := h.error hobstacle #[]
    rw [hbegun]

theorem encode_eq_ok : encode o = .ok b ↔ o.obstacle? = none ∧ o.image = b := by
  rw [encode_eq]
  cases o.obstacle? <;> simp

theorem encode_eq_error : encode o = .error e ↔ o.obstacle? = some e := by
  rw [encode_eq]
  cases o.obstacle? <;> simp

end ObjectFile

end WordMachine
