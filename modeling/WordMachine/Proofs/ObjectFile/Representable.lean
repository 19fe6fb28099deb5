import WordMachine.Proofs.ObjectFile.RoundTrip

/-!
# Object files that can be written

Some object files have no image: their version is too new, or it does not allow their sections, or
a list is too long for its count, or a name holds the byte that ends names. What stands against an
image has an order, and writing gives the first reason in it. Neither that nor the length of the
image depends on the byte order.

* `ObjectFile.length_image` : the length of an image.
* `ObjectFile.Violates` : what stands against an image, each with its place.
* `ObjectFile.encode_outcome` : when writing succeeds, and why it fails.
-/

namespace WordMachine

namespace ObjectFile

/-! ## The length of an image -/

theorem length_encodeLabel (order : ByteOrder) (l : Label) :
    (encodeLabel order l).length = l.name.length + 9 := by
  simp only [encodeLabel, encodeName, List.length_append, List.length_singleton,
    ByteOrder.length_encode]

/-- The length of an image, field by field. -/
theorem length_image (o : ObjectFile) :
    o.image.length = 13 + (2 + o.literal.length) +
      (2 + (o.labels.map fun l => l.name.length + 9).sum) +
      (if 2 ≤ o.version then 8 else 0) + (8 + o.code.length * 2) +
      if 3 ≤ o.version then
        8 + (o.sections.map fun s => s.name.length + s.data.length + 9).sum
      else 0 := by
  have hset : (if 2 ≤ o.version then o.order.encode 8 o.instructionSet.toNat else []).length =
      if 2 ≤ o.version then 8 else 0 := by
    split <;> simp
  have hsections : (if 3 ≤ o.version then o.order.encode 8 o.sections.length ++
        o.sections.flatMap (encodeSection o.order) else []).length =
      if 3 ≤ o.version then
        8 + (o.sections.map fun s => s.name.length + s.data.length + 9).sum
      else 0 := by
    split
    · simp [List.length_flatMap, length_encodeSection]
    · rfl
  have hcode := Reader.length_flatMap_encodeWord o.order o.code
  have hlabels : (o.labels.flatMap (encodeLabel o.order)).length =
      (o.labels.map fun l => l.name.length + 9).sum := by
    simp [List.length_flatMap, length_encodeLabel]
  have hmagic : magic.length = 3 := rfl
  simp only [image, List.length_append, ByteOrder.length_encode, hmagic, hlabels, hset, hcode,
    hsections]
  omega

/-! ## What stands against an image -/

/-- What stands against an image of an object file, with its place in the order in which it counts:
the version, the sections, the two counts, the names of the labels one after the other, and then
those of the sections. -/
inductive Violates (o : ObjectFile) : (place : Nat) → EncodeError → Prop where
  | version : 3 < o.version → Violates o 0 (.unsupportedVersion o.version)
  | sections : o.version < 3 → o.sections ≠ [] → Violates o 1 (.sectionsUnsupported o.version)
  | literal : 65535 < o.literal.length →
    Violates o 2 (.tooMany .literalData o.literal.length)
  | labels : 65535 < o.labels.length → Violates o 3 (.tooMany .globalLabel o.labels.length)
  | labelName {i : Nat} {l : Label} : o.labels[i]? = some l → 0 ∈ l.name →
    Violates o (4 + i) (.zeroInName l.name)
  | sectionName {i : Nat} {s : Section} : o.sections[i]? = some s → 0 ∈ s.name →
    Violates o (4 + o.labels.length + i) (.zeroInName s.name)

/-- The reason with the lowest place. -/
def Foremost (o : ObjectFile) (e : EncodeError) : Prop :=
  ∃ place, o.Violates place e ∧ ∀ place' e', o.Violates place' e' → place ≤ place'

variable {o : ObjectFile} {place : Nat} {e e' : EncodeError}

theorem not_isWritable {name : List UInt8} : isWritable name = false ↔ 0 ∈ name := by
  simp [isWritable]

/-- The names of labels come before those of sections, so no place is taken twice. -/
theorem Violates.unique (h : o.Violates place e) (h' : o.Violates place e') : e = e' := by
  generalize hplace : place = place' at h'
  cases h with
  | version | sections | literal | labels => cases h' <;> first | rfl | omega
  | @labelName i l hl hzero =>
    have hi := (List.getElem?_eq_some_iff.mp hl).1
    cases h' with
    | @labelName j l' hl' hzero' =>
      obtain rfl : i = j := by omega
      rw [Option.some.inj (hl.symm.trans hl')]
    | version | sections | literal | labels | sectionName => omega
  | @sectionName i s hs hzero =>
    cases h' with
    | @labelName j l' hl' hzero' =>
      have hj := (List.getElem?_eq_some_iff.mp hl').1
      omega
    | @sectionName j s' hs' hzero' =>
      obtain rfl : i = j := by omega
      rw [Option.some.inj (hs.symm.trans hs')]
    | version | sections | literal | labels => omega

theorem not_violates (h : o.obstacle? = none) : ¬ o.Violates place e := by
  obtain ⟨hversion, hnone, hliteral, hlabels, hnames, hsections⟩ := obstacle?_eq_none.mp h
  intro hviolates
  cases hviolates with
  | version h3 => exact UInt64.not_le.mpr h3 hversion
  | sections h3 hne => exact hne (hnone (UInt64.not_le.mpr h3))
  | literal hlong => exact Nat.not_le.mpr hlong hliteral
  | labels hlong => exact Nat.not_le.mpr hlong hlabels
  | labelName hl hzero =>
    have := hnames _ (List.mem_of_getElem? hl)
    simp [not_isWritable.mpr hzero] at this
  | sectionName hs hzero =>
    have := hsections _ (List.mem_of_getElem? hs)
    simp [not_isWritable.mpr hzero] at this

/-- The first name with a zero byte in a list of names. -/
theorem exists_first_zero {α : Type} {name : α → List UInt8} {xs : List α} {a : α}
    (h : (xs.find? fun x => !isWritable (name x)) = some a) :
    ∃ i : Nat, xs[i]? = some a ∧ 0 ∈ name a ∧ ∀ (j : Nat) x, xs[j]? = some x → 0 ∈ name x → i ≤ j := by
  obtain ⟨ha, i, hi, rfl, hbefore⟩ := List.find?_eq_some_iff_getElem.mp h
  refine ⟨i, List.getElem?_eq_getElem hi, not_isWritable.mp (by simpa using ha), ?_⟩
  intro j x hx hzero
  by_contra hlt
  obtain ⟨hj, rfl⟩ := List.getElem?_eq_some_iff.mp hx
  have hwritable := hbefore j (by omega)
  simp [not_isWritable.mpr hzero] at hwritable

/-- If nothing else stands against an image, it is a name. -/
theorem name_of_violates (hversion : ¬ 3 < o.version)
    (hsections : ¬ (o.version < 3 ∧ o.sections ≠ [])) (hliteral : ¬ 65535 < o.literal.length)
    (hlabels : ¬ 65535 < o.labels.length) (h : o.Violates place e) :
    (∃ i l, o.labels[i]? = some l ∧ 0 ∈ l.name ∧ place = 4 + i) ∨
      ∃ i s, o.sections[i]? = some s ∧ 0 ∈ s.name ∧ place = 4 + o.labels.length + i := by
  cases h with
  | version h3 => exact absurd h3 hversion
  | sections h3 hne => exact absurd ⟨h3, hne⟩ hsections
  | literal hlong => exact absurd hlong hliteral
  | labels hlong => exact absurd hlong hlabels
  | labelName hl hzero => exact .inl ⟨_, _, hl, hzero, rfl⟩
  | sectionName hs hzero => exact .inr ⟨_, _, hs, hzero, rfl⟩

theorem foremost_of_obstacle (h : o.obstacle? = some e) : o.Foremost e := by
  unfold obstacle? at h
  split_ifs at h with hversion hsections hliteral hlabels
  · cases h
    exact ⟨0, .version hversion, fun _ _ _ => Nat.zero_le _⟩
  · cases h
    refine ⟨1, .sections hsections.1 hsections.2, fun place' e' h' => ?_⟩
    cases h' with
    | version h3 => exact absurd h3 hversion
    | sections | literal | labels | labelName | sectionName => omega
  · cases h
    refine ⟨2, .literal hliteral, fun place' e' h' => ?_⟩
    cases h' with
    | version h3 => exact absurd h3 hversion
    | sections h3 hne => exact absurd ⟨h3, hne⟩ hsections
    | literal | labels | labelName | sectionName => omega
  · cases h
    refine ⟨3, .labels hlabels, fun place' e' h' => ?_⟩
    cases h' with
    | version h3 => exact absurd h3 hversion
    | sections h3 hne => exact absurd ⟨h3, hne⟩ hsections
    | literal hlong => exact absurd hlong hliteral
    | labels | labelName | sectionName => omega
  · cases hfind : o.labels.find? fun l => !isWritable l.name with
    | some l =>
      rw [hfind] at h
      cases h
      obtain ⟨i, hl, hzero, hfirst⟩ := exists_first_zero hfind
      have hi := (List.getElem?_eq_some_iff.mp hl).1
      refine ⟨4 + i, .labelName hl hzero, fun place' e' h' => ?_⟩
      rcases name_of_violates hversion hsections hliteral hlabels h' with
        ⟨j, l', hl', hzero', rfl⟩ | ⟨j, s, -, -, rfl⟩
      · have := hfirst j l' hl' hzero'
        omega
      · omega
    | none =>
      rw [hfind] at h
      obtain ⟨s, hfind', rfl⟩ := Option.map_eq_some_iff.mp h
      obtain ⟨i, hs, hzero, hfirst⟩ := exists_first_zero hfind'
      refine ⟨4 + o.labels.length + i, .sectionName hs hzero, fun place' e' h' => ?_⟩
      rcases name_of_violates hversion hsections hliteral hlabels h' with
        ⟨j, l, hl, hzero', -⟩ | ⟨j, s', hs', hzero', rfl⟩
      · have hnone := List.find?_eq_none.mp hfind l (List.mem_of_getElem? hl)
        simp [not_isWritable.mpr hzero'] at hnone
      · have := hfirst j s' hs' hzero'
        omega

/-! ## Writing -/

theorem encode_eq_error_iff : encode o = .error e ↔ o.Foremost e := by
  rw [encode_eq_error]
  refine ⟨foremost_of_obstacle, ?_⟩
  rintro ⟨place, hviolates, hfirst⟩
  cases hobstacle : o.obstacle? with
  | none => exact absurd hviolates (not_violates hobstacle)
  | some e' =>
    obtain ⟨place', hviolates', hfirst'⟩ := foremost_of_obstacle hobstacle
    obtain rfl : place = place' :=
      Nat.le_antisymm (hfirst place' e' hviolates') (hfirst' place e hviolates)
    rw [hviolates'.unique hviolates]

/-- An object file in another byte order has an image of the same length, or none for the same
reason. -/
theorem map_length_encode (o : ObjectFile) (order : ByteOrder) :
    (encode { o with order }).map List.length = (encode o).map List.length := by
  have hobstacle : obstacle? { o with order } = o.obstacle? := rfl
  have hlength : (image { o with order }).length = o.image.length := by
    rw [length_image, length_image]
  rw [encode_eq, encode_eq, hobstacle]
  cases o.obstacle? with
  | some e => rfl
  | none => exact congrArg Except.ok hlength

/-- **What can be written.** An object file has an image exactly if its version is known and allows
its sections, its literal data and its labels can be counted in sixteen bits, and no name holds a
zero byte. Otherwise writing fails for the foremost of the reasons. Whether there is an image, why
not, and how long it is does not depend on the byte order. -/
theorem encode_outcome (o : ObjectFile) :
    ((∃ b, encode o = .ok b) ↔
      o.version ≤ 3 ∧ (o.version < 3 → o.sections = []) ∧ o.literal.length ≤ 65535 ∧
        o.labels.length ≤ 65535 ∧ (∀ l ∈ o.labels, 0 ∉ l.name) ∧ ∀ s ∈ o.sections, 0 ∉ s.name) ∧
    (∀ e, encode o = .error e ↔ o.Foremost e) ∧
    ∀ order, (encode { o with order }).map List.length = (encode o).map List.length := by
  refine ⟨?_, fun e => encode_eq_error_iff, o.map_length_encode⟩
  have hwritable : ∀ name : List UInt8, isWritable name = true ↔ 0 ∉ name := by
    simp [isWritable]
  have hok : (∃ b, encode o = .ok b) ↔ o.obstacle? = none := by
    simp [encode_eq_ok]
  rw [hok, obstacle?_eq_none]
  simp only [hwritable, UInt64.not_le]
  rfl

/-- Two labels and a section have names with a zero byte: the first of the labels counts, unless the
version does not allow the section. -/
example :
    let o : ObjectFile :=
      { labels := [⟨[1], ⟨0⟩⟩, ⟨[2, 0], ⟨0⟩⟩, ⟨[0], ⟨0⟩⟩], sections := [⟨[0], []⟩] }
    encode o = .error (.zeroInName [2, 0]) ∧
      encode { o with version := 2 } = .error (.sectionsUnsupported 2) := by
  decide

end ObjectFile

end WordMachine
