import Mathlib.Algebra.BigOperators.Group.List.Basic
import Mathlib.Algebra.GroupWithZero.Nat
import Mathlib.Data.List.TakeWhile
import WordMachine.Machine.Memory

/-!
# Cutting a range out of a list of blocks

The live blocks of a heap are not empty and lie one below the other, highest first. In such a list
the blocks that reach into a range stand side by side, so one pass that looks for the first of them
and stops behind the last finds them all. Cutting the range out of these one after the other is the
same as cutting it out of every block where it stands.

* `Extents.Ordered` : the order of a list of blocks.
* `Extents.foldl_cut_touching` : cutting a range out, block by block.
* `Extents.ordered_without`, `Extents.total_without` : what it leaves is ordered, and how much it is.
-/

namespace WordMachine

/-- An offset lies in a block. -/
def Extent.Holds (e : Extent) (offset : Nat) : Prop := e.base ≤ offset ∧ offset < e.stop

namespace Extents

/-- Blocks that are not empty and lie one below the other, highest first. -/
structure Ordered (xs : List Extent) : Prop where
  positive : ∀ e ∈ xs, 0 < e.size
  descending : xs.Pairwise fun a b => b.stop ≤ a.base

/-- The bytes of all blocks together. -/
def total (xs : List Extent) : Nat := (xs.map Extent.size).sum

/-- What a range leaves of a block: what lies behind the range, then what lies before it. -/
def without (start stop : Nat) (e : Extent) : List Extent :=
  (if stop < e.stop then [⟨max e.base stop, e.stop - max e.base stop⟩] else []) ++
    if e.base < start then [⟨e.base, min e.stop start - e.base⟩] else []

/-! ## Ordered lists -/

theorem ordered_nil : Ordered [] := ⟨by simp, .nil⟩

theorem ordered_append {as bs : List Extent} :
    Ordered (as ++ bs) ↔ Ordered as ∧ Ordered bs ∧ ∀ a ∈ as, ∀ b ∈ bs, b.stop ≤ a.base := by
  constructor
  · rintro ⟨hpos, hdesc⟩
    rw [List.pairwise_append] at hdesc
    exact ⟨⟨fun e he => hpos e (List.mem_append_left _ he), hdesc.1⟩,
      ⟨fun e he => hpos e (List.mem_append_right _ he), hdesc.2.1⟩, hdesc.2.2⟩
  · rintro ⟨ha, hb, hab⟩
    refine ⟨?_, List.pairwise_append.mpr ⟨ha.descending, hb.descending, hab⟩⟩
    intro e he
    rcases List.mem_append.mp he with he | he
    · exact ha.positive e he
    · exact hb.positive e he

theorem ordered_cons {e : Extent} {xs : List Extent} :
    Ordered (e :: xs) ↔ 0 < e.size ∧ Ordered xs ∧ ∀ x ∈ xs, x.stop ≤ e.base := by
  constructor
  · rintro ⟨hpos, hdesc⟩
    rw [List.pairwise_cons] at hdesc
    exact ⟨hpos e List.mem_cons_self, ⟨fun x hx => hpos x (List.mem_cons_of_mem _ hx), hdesc.2⟩,
      hdesc.1⟩
  · rintro ⟨he, hxs, hle⟩
    exact ⟨by simpa [he] using hxs.positive, List.pairwise_cons.mpr ⟨hle, hxs.descending⟩⟩

theorem Ordered.base_lt_stop {xs : List Extent} (h : Ordered xs) {e : Extent} (he : e ∈ xs) :
    e.base < e.stop := by
  have := h.positive e he
  unfold Extent.stop
  omega

/-- No offset lies in two blocks of an ordered list. -/
theorem Ordered.disjoint {xs : List Extent} (h : Ordered xs) :
    xs.Pairwise fun a b => ∀ offset, ¬ (a.Holds offset ∧ b.Holds offset) := by
  refine h.descending.imp ?_
  intro a b hab offset hboth
  have := hboth.1.1
  have := hboth.2.2
  omega

/-- A block that stands between two parts of a list by its base is put there. -/
theorem insert_between {as bs : List Extent} {e : Extent} (ha : ∀ a ∈ as, e.base < a.base)
    (hb : ∀ b ∈ bs, b.base < e.base) : insert e (as ++ bs) = as ++ e :: bs := by
  induction as with
  | nil =>
    cases bs with
    | nil => rfl
    | cons b bs => simp [insert, hb b List.mem_cons_self]
  | cons a as ih =>
    have hlt := ha a List.mem_cons_self
    have hne : ¬ a.base < e.base := by omega
    have hne' : ¬ a.base = e.base := by omega
    simp only [List.cons_append, insert, hne, hne', if_false,
      ih fun x hx => ha x (List.mem_cons_of_mem _ hx)]

theorem erase_between {as bs : List Extent} {e : Extent} (ha : ∀ a ∈ as, e.base < a.base)
    (hb : ∀ b ∈ bs, b.base < e.base) : erase e.base (as ++ e :: bs) = as ++ bs := by
  have hkeep : ∀ xs : List Extent, (∀ x ∈ xs, x.base ≠ e.base) → erase e.base xs = xs :=
    fun xs hxs => List.filter_eq_self.mpr fun x hx => by simpa using hxs x hx
  have happend : erase e.base (as ++ e :: bs) = erase e.base as ++ erase e.base bs := by
    simp [erase]
  rw [happend, hkeep as fun a h => (ha a h).ne', hkeep bs fun b h => (hb b h).ne]

/-! ## One block -/

theorem mem_without_iff {start stop : Nat} {e x : Extent} :
    x ∈ without start stop e ↔
      (stop < e.stop ∧ x = ⟨max e.base stop, e.stop - max e.base stop⟩) ∨
        (e.base < start ∧ x = ⟨e.base, min e.stop start - e.base⟩) := by
  unfold without
  split_ifs <;> simp [*]

/-- What is left of a block lies in it and is not empty. -/
theorem mem_without {start stop : Nat} {e x : Extent} (he : 0 < e.size)
    (hx : x ∈ without start stop e) : 0 < x.size ∧ e.base ≤ x.base ∧ x.stop ≤ e.stop := by
  rcases mem_without_iff.mp hx with ⟨h, rfl⟩ | ⟨h, rfl⟩ <;> unfold Extent.stop at * <;>
    dsimp only <;> omega

theorem ordered_without_one {start stop : Nat} (hle : start ≤ stop) {e : Extent} (he : 0 < e.size) :
    Ordered (without start stop e) := by
  refine ⟨fun x hx => (mem_without he hx).1, ?_⟩
  unfold without
  split_ifs <;> simp [Extent.stop]
  omega

theorem total_without_one {start stop : Nat} (hle : start ≤ stop) (e : Extent) :
    total (without start stop e) + overlap start stop e = e.size := by
  unfold without overlap total Extent.stop
  split_ifs <;> simp <;> omega

theorem without_above {start stop : Nat} (hle : start ≤ stop) {e : Extent} (he : 0 < e.size)
    (h : stop ≤ e.base) : without start stop e = [e] := by
  have h1 : stop < e.stop := by unfold Extent.stop; omega
  have h2 : ¬ e.base < start := by omega
  have h3 : e.stop - e.base = e.size := by unfold Extent.stop; omega
  simp [without, h1, h2, max_eq_left h, h3]

theorem without_below {start stop : Nat} (hle : start ≤ stop) {e : Extent} (he : 0 < e.size)
    (h : e.stop ≤ start) : without start stop e = [e] := by
  have h1 : ¬ stop < e.stop := by omega
  have h2 : e.base < start := by unfold Extent.stop at h; omega
  have h3 : e.stop - e.base = e.size := by unfold Extent.stop; omega
  simp [without, h1, h2, min_eq_left h, h3]

theorem overlap_above {start stop : Nat} {e : Extent} (h : stop ≤ e.base) :
    overlap start stop e = 0 := by
  unfold overlap
  omega

theorem overlap_below {start stop : Nat} {e : Extent} (h : e.stop ≤ start) :
    overlap start stop e = 0 := by
  unfold overlap
  omega

/-- Cutting a range out of a block that it reaches into changes the list only where the block
stands. -/
theorem cut_between {start stop : Nat} {as bs : List Extent} {e : Extent}
    (h : Ordered (as ++ e :: bs)) (hstop : e.base < stop) (hstart : start < e.stop) :
    cut start stop (as ++ e :: bs) e = as ++ without start stop e ++ bs := by
  obtain ⟨-, hebs, has⟩ := ordered_append.mp h
  obtain ⟨he, hbs, hbse⟩ := ordered_cons.mp hebs
  have hbase : e.base < e.stop := by unfold Extent.stop; omega
  have habove : ∀ a ∈ as, e.stop ≤ a.base := fun a ha => has a ha e List.mem_cons_self
  have hbelow : ∀ b ∈ bs, b.base < e.base := fun b hb =>
    (hbs.base_lt_stop hb).trans_le (hbse b hb)
  have hmax : max e.base stop = stop := max_eq_right hstop.le
  have hmin : min e.stop start = start := min_eq_right hstart.le
  have herase : erase e.base (as ++ e :: bs) = as ++ bs :=
    erase_between (fun a ha => hbase.trans_le (habove a ha)) hbelow
  have hlow : insert ⟨e.base, start - e.base⟩ (as ++ bs) = as ++ ⟨e.base, start - e.base⟩ :: bs :=
    insert_between (fun a ha => hbase.trans_le (habove a ha)) hbelow
  -- What lies behind the range goes below `as` and above whatever the list has below `stop`.
  have hhigh : ∀ low : List Extent, (∀ x ∈ low, x.base < stop) → stop < e.stop →
      insert ⟨stop, e.stop - stop⟩ (as ++ low) = as ++ ⟨stop, e.stop - stop⟩ :: low :=
    fun low hlow hse => insert_between (fun a ha => hse.trans_le (habove a ha)) hlow
  have hbs' : ∀ b ∈ bs, b.base < stop := fun b hb => (hbelow b hb).trans hstop
  unfold cut without
  rw [herase, hmax, hmin]
  dsimp only
  split_ifs with hse hcut hcut
  · rw [hlow, hhigh (⟨e.base, start - e.base⟩ :: bs) (List.forall_mem_cons.mpr ⟨hstop, hbs'⟩) hse]
    simp
  · rw [hhigh _ hbs' hse]
    simp
  · rw [hlow]
    simp
  · simp

/-! ## All blocks -/

theorem ordered_without {start stop : Nat} (hle : start ≤ stop) {xs : List Extent}
    (h : Ordered xs) : Ordered (xs.flatMap (without start stop)) := by
  induction xs with
  | nil => exact ordered_nil
  | cons e xs ih =>
    obtain ⟨he, hxs, hbelow⟩ := ordered_cons.mp h
    rw [List.flatMap_cons, ordered_append]
    refine ⟨ordered_without_one hle he, ih hxs, ?_⟩
    intro a ha b hb
    obtain ⟨x, hx, hbx⟩ := List.mem_flatMap.mp hb
    have hae := (mem_without he ha).2.1
    have hbx := (mem_without (hxs.positive x hx) hbx).2.2
    have hxe := hbelow x hx
    omega

theorem total_without {start stop : Nat} (hle : start ≤ stop) (xs : List Extent) :
    total (xs.flatMap (without start stop)) + (xs.map (overlap start stop)).sum = total xs := by
  induction xs with
  | nil => rfl
  | cons e xs ih =>
    have he := total_without_one hle e
    simp only [total, List.flatMap_cons, List.map_append, List.sum_append, List.map_cons,
      List.sum_cons] at ih he ⊢
    omega

theorem flatMap_without_self {start stop : Nat} {xs : List Extent}
    (h : ∀ e ∈ xs, without start stop e = [e]) : xs.flatMap (without start stop) = xs := by
  induction xs with
  | nil => rfl
  | cons e xs ih =>
    rw [List.forall_mem_cons] at h
    rw [List.flatMap_cons, h.1, ih h.2]
    rfl

/-- Cutting goes on in the list that the cuts before it have left. -/
theorem foldl_cut {start stop : Nat} (hle : start ≤ stop) (as ts bs : List Extent)
    (h : Ordered (as ++ ts ++ bs)) (ht : ∀ e ∈ ts, e.base < stop ∧ start < e.stop) :
    ts.foldl (cut start stop) (as ++ ts ++ bs) =
      as ++ ts.flatMap (without start stop) ++ bs := by
  induction ts generalizing as with
  | nil => simp
  | cons e ts ih =>
    rw [List.forall_mem_cons] at ht
    rw [List.append_assoc, List.cons_append] at h
    have hcut := cut_between h ht.1.1 ht.1.2
    have hordered : Ordered (as ++ without start stop e ++ ts ++ bs) := by
      obtain ⟨has, hebs, hab⟩ := ordered_append.mp h
      obtain ⟨he, hbs, hbelow⟩ := ordered_cons.mp hebs
      rw [List.append_assoc, List.append_assoc, ordered_append, ordered_append]
      refine ⟨has, ⟨ordered_without_one hle he, hbs, ?_⟩, ?_⟩
      · intro x hx b hb
        exact (hbelow b hb).trans (mem_without he hx).2.1
      · intro a ha b hb
        rcases List.mem_append.mp hb with hb | hb
        · exact (mem_without he hb).2.2.trans (hab a ha e List.mem_cons_self)
        · exact hab a ha b (List.mem_cons_of_mem _ hb)
    rw [List.append_assoc, List.cons_append, List.foldl_cons, hcut, ← List.append_assoc,
      ih _ hordered ht.2, List.flatMap_cons]
    simp only [List.append_assoc]

/-! ## The blocks in a range -/

/-- What fails of a block, and then of every block after it, fails of all from there on. -/
theorem dropWhile_eq_false {R : Extent → Extent → Prop} {p : Extent → Bool} {xs : List Extent}
    (h : xs.Pairwise R) (hp : ∀ a b, R a b → p a = false → p b = false) :
    ∀ e ∈ xs.dropWhile p, p e = false := by
  induction xs with
  | nil => simp
  | cons x xs ih =>
    obtain ⟨hbelow, hxs⟩ := List.pairwise_cons.mp h
    cases hx : p x with
    | true =>
      rw [List.dropWhile_cons_of_pos hx]
      exact ih hxs
    | false =>
      rw [List.dropWhile_cons_of_neg (by simp [hx]), List.forall_mem_cons]
      exact ⟨hx, fun e he => hp x e (hbelow e he) hx⟩

/-- In an ordered list, every block ends above its base and below the blocks before it. -/
theorem Ordered.pairwise {xs : List Extent} (h : Ordered xs) :
    xs.Pairwise fun a b => b.base < b.stop ∧ b.stop ≤ a.base :=
  h.descending.imp_of_mem fun _ hb hab => ⟨h.base_lt_stop hb, hab⟩

/-- The blocks that reach into a range stand side by side. -/
theorem touching_spec (start stop : Nat) {xs : List Extent}
    (h : Ordered xs) : ∃ as bs, xs = as ++ touching xs start stop ++ bs ∧
      (∀ a ∈ as, stop ≤ a.base) ∧ (∀ e ∈ touching xs start stop, e.base < stop ∧ start < e.stop) ∧
      ∀ b ∈ bs, b.stop ≤ start := by
  let rest := xs.dropWhile fun e => stop ≤ e.base
  have hxs : (xs.takeWhile fun e => stop ≤ e.base) ++ rest = xs :=
    List.takeWhile_append_dropWhile
  have hrest : Ordered rest := by
    rw [← hxs] at h
    exact (ordered_append.mp h).2.1
  have hlow : ∀ e ∈ rest, decide (stop ≤ e.base) = false := by
    refine dropWhile_eq_false h.pairwise ?_
    rintro a b ⟨hb, hba⟩ ha
    simp only [decide_eq_false_iff_not] at ha ⊢
    omega
  have hbelow : ∀ e ∈ rest.dropWhile fun e => start < e.stop, decide (start < e.stop) = false := by
    refine dropWhile_eq_false hrest.pairwise ?_
    rintro a b ⟨hb, hba⟩ ha
    simp only [decide_eq_false_iff_not] at ha ⊢
    have : a.base ≤ a.stop := Nat.le_add_right _ _
    omega
  refine ⟨xs.takeWhile fun e => stop ≤ e.base, rest.dropWhile fun e => start < e.stop, ?_, ?_, ?_, ?_⟩
  · rw [List.append_assoc]
    exact (hxs.symm.trans (congrArg _ List.takeWhile_append_dropWhile.symm))
  · intro a ha
    simpa using List.mem_takeWhile_imp ha
  · intro e he
    have hmem := (List.takeWhile_sublist _).subset he
    have := hlow e hmem
    exact ⟨by simpa using this, by simpa using List.mem_takeWhile_imp he⟩
  · intro b hb
    simpa using hbelow b hb

/-- Cutting a range out of the blocks that reach into it, one after the other, cuts it out of every
block. -/
theorem foldl_cut_touching {start stop : Nat} (hle : start ≤ stop) {xs : List Extent}
    (h : Ordered xs) : (touching xs start stop).foldl (cut start stop) xs =
      xs.flatMap (without start stop) := by
  obtain ⟨as, bs, hxs, has, hts, hbs⟩ := touching_spec start stop h
  generalize touching xs start stop = ts at hxs hts
  subst hxs
  obtain ⟨hats, hb, -⟩ := ordered_append.mp h
  obtain ⟨ha, -, -⟩ := ordered_append.mp hats
  have hsame : as.flatMap (without start stop) = as := flatMap_without_self fun e he =>
    without_above hle (ha.positive e he) (has e he)
  have hsame' : bs.flatMap (without start stop) = bs := flatMap_without_self fun e he =>
    without_below hle (hb.positive e he) (hbs e he)
  rw [foldl_cut hle as ts bs h hts, List.flatMap_append, List.flatMap_append, hsame, hsame']

theorem foldl_sub (f : Extent → Nat) (xs : List Extent) (n : Nat) :
    xs.foldl (fun n e => n - f e) n = n - (xs.map f).sum := by
  induction xs generalizing n with
  | nil => rfl
  | cons e xs ih =>
    rw [List.foldl_cons, ih, List.map_cons, List.sum_cons, Nat.sub_sub]

/-- The bytes that the blocks in a range lose are those that all blocks have in it. -/
theorem foldl_overlap_touching (start stop : Nat) {xs : List Extent} (h : Ordered xs) (n : Nat) :
    (touching xs start stop).foldl (fun n e => n - overlap start stop e) n =
      n - (xs.map (overlap start stop)).sum := by
  obtain ⟨as, bs, hxs, has, -, hbs⟩ := touching_spec start stop h
  have hzero : ∀ ys : List Extent, (∀ e ∈ ys, overlap start stop e = 0) →
      (ys.map (overlap start stop)).sum = 0 := by
    intro ys hys
    rw [List.map_congr_left hys]
    simp
  rw [foldl_sub]
  conv_rhs => rw [hxs]
  simp only [List.map_append, List.sum_append, hzero as fun e he => overlap_above (has e he),
    hzero bs fun e he => overlap_below (hbs e he), Nat.zero_add, Nat.add_zero]

end Extents

end WordMachine
