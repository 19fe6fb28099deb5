import Mathlib.Data.List.Forall2
import Mathlib.Data.List.TakeWhile
import Mathlib.Data.Nat.Digits.Defs
import WordMachine.Settings.Basic

/-!
# The grammar of number settings

Which texts spell a number, and which number, said without reading them from left to right: white
space at both ends and underscores do not count, and the rest is digits of base ten, or of base
sixteen behind a mark, with one plus sign in front of them at most. A limit is the number that its
own variable spells, or the usual one.

* `Text.Trimmed` : a text less the white space at both ends.
* `Text.Spells` : digits and their positional value.
* `Settings.Denotes` : the texts of number settings and their values.
* `Settings.number_settings` : reading follows this grammar, and so do the limits.
-/

namespace WordMachine

namespace Text

/-! ## White space -/

/-- A text is a core that neither begins nor ends with white space, and white space around it. -/
structure Trimmed (text core : List Char) : Prop where
  around : ∃ front back, text = front ++ core ++ back ∧
    (∀ c ∈ front, isBlank c = true) ∧ ∀ c ∈ back, isBlank c = true
  first : ∀ c, core.head? = some c → isBlank c = false
  last : ∀ c, core.getLast? = some c → isBlank c = false

theorem dropWhile_blank {front : List Char} (hfront : ∀ c ∈ front, isBlank c = true)
    {rest : List Char} (hrest : ∀ c, rest.head? = some c → isBlank c = false) :
    (front ++ rest).dropWhile isBlank = rest := by
  rw [List.dropWhile_append_of_pos hfront]
  cases rest with
  | nil => rfl
  | cons c rest =>
    have hc := hrest c rfl
    rw [List.dropWhile_cons_of_neg]
    simp [hc]

theorem head?_dropWhile_blank (text : List Char) {c : Char}
    (h : (text.dropWhile isBlank).head? = some c) : isBlank c = false := by
  have hnot := List.head?_dropWhile_not isBlank text
  rw [h] at hnot
  simpa using hnot

theorem Trimmed.trim_eq {text core : List Char} (h : Trimmed text core) : trim text = core := by
  obtain ⟨front, back, htext, hfront, hback⟩ := h.around
  rw [htext]
  unfold trim
  cases core with
  | nil =>
    have hall : ∀ c ∈ front ++ back, isBlank c = true := by
      intro c hc
      rcases List.mem_append.mp hc with hc | hc
      · exact hfront c hc
      · exact hback c hc
    have hnone : (front ++ back ++ []).dropWhile isBlank = [] := dropWhile_blank hall (by simp)
    rw [List.append_nil] at hnone ⊢
    rw [hnone]
    rfl
  | cons d core =>
    have hdrop : (front ++ (d :: core ++ back)).dropWhile isBlank = d :: core ++ back :=
      dropWhile_blank hfront h.first
    rw [List.append_assoc, hdrop, List.reverse_append]
    have hback' : ∀ c ∈ back.reverse, isBlank c = true := by
      intro c hc
      exact hback c (List.mem_reverse.mp hc)
    rw [dropWhile_blank hback', List.reverse_reverse]
    intro c hc
    rw [List.head?_reverse] at hc
    exact h.last c hc

theorem trimmed_trim (text : List Char) : Trimmed text (trim text) := by
  have hfront := text.takeWhile_append_dropWhile (p := isBlank)
  generalize hrest : text.dropWhile isBlank = rest at hfront
  have hback := rest.reverse.takeWhile_append_dropWhile (p := isBlank)
  have htrim : (rest.reverse.dropWhile isBlank).reverse = trim text := by
    rw [← hrest]
    rfl
  have hparts : trim text ++ (rest.reverse.takeWhile isBlank).reverse = rest := by
    rw [← htrim, ← List.reverse_append, hback, List.reverse_reverse]
  refine ⟨⟨text.takeWhile isBlank, (rest.reverse.takeWhile isBlank).reverse, ?_, ?_, ?_⟩, ?_, ?_⟩
  · rw [List.append_assoc, hparts, hfront]
  · intro c hc
    exact List.mem_takeWhile_imp hc
  · intro c hc
    exact List.mem_takeWhile_imp (List.mem_reverse.mp hc)
  · intro c hc
    apply head?_dropWhile_blank text
    rw [hrest, ← hparts, List.head?_append, hc]
    rfl
  · intro c hc
    apply head?_dropWhile_blank rest.reverse
    rw [← htrim, List.getLast?_reverse] at hc
    exact hc

theorem trimmed_iff {text core : List Char} : Trimmed text core ↔ core = trim text := by
  constructor
  · intro h
    exact h.trim_eq.symm
  · intro h
    rw [h]
    exact trimmed_trim text

/-! ## Digits -/

/-- A character is the digit of a base with a value: one of ten figures, or a letter up to `f` in
either case. -/
def IsDigit (base : Nat) (c : Char) (d : Nat) : Prop :=
  d < base ∧ (d < 10 ∧ c.toNat = '0'.toNat + d ∨
    10 ≤ d ∧ d < 16 ∧ (c.toNat + 10 = 'a'.toNat + d ∨ c.toNat + 10 = 'A'.toNat + d))

/-- One or more digits of a base spell a number: that of their values, the last with weight one. -/
def Spells (base : Nat) (cs : List Char) (n : Nat) : Prop :=
  cs ≠ [] ∧ ∃ ds, List.Forall₂ (IsDigit base) cs ds ∧ n = Nat.ofDigits base ds.reverse

theorem digit?_eq_some {base : Nat} {c : Char} {d : Nat} :
    digit? base c = some d ↔ IsDigit base c d := by
  have hfigure : ('0' ≤ c ∧ c ≤ '9') ↔ 48 ≤ c.toNat ∧ c.toNat ≤ 57 := Iff.rfl
  have hsmall : ('a' ≤ c ∧ c ≤ 'f') ↔ 97 ≤ c.toNat ∧ c.toNat ≤ 102 := Iff.rfl
  have hlarge : ('A' ≤ c ∧ c ≤ 'F') ↔ 65 ≤ c.toNat ∧ c.toNat ≤ 70 := Iff.rfl
  have h0 : '0'.toNat = 48 := rfl
  have ha : 'a'.toNat = 97 := rfl
  have hA : 'A'.toNat = 65 := rfl
  unfold digit? IsDigit
  dsimp only
  rw [Option.filter_eq_some_iff, decide_eq_true_eq, and_comm, h0, ha, hA]
  refine and_congr_right fun _ => ?_
  split_ifs with h1 h2 h3
  · rw [hfigure] at h1
    rw [Option.some.injEq]
    omega
  · rw [hsmall] at h2
    rw [hfigure] at h1
    rw [Option.some.injEq]
    omega
  · rw [hlarge] at h3
    rw [hfigure] at h1
    rw [hsmall] at h2
    rw [Option.some.injEq]
    omega
  · rw [hfigure] at h1
    rw [hsmall] at h2
    rw [hlarge] at h3
    simp only [false_iff]
    omega

/-- Digits behind a number that was read move it up by their places. -/
theorem numeralFrom?_eq_some {base : Nat} {cs : List Char} {n v : Nat} :
    numeralFrom? base n cs = some v ↔ ∃ ds, List.Forall₂ (IsDigit base) cs ds ∧
      v = n * base ^ ds.length + Nat.ofDigits base ds.reverse := by
  induction cs generalizing n with
  | nil => simp [numeralFrom?, List.forall₂_nil_left_iff, eq_comm]
  | cons c cs ih =>
    unfold numeralFrom?
    constructor
    · intro h
      split at h
      · rename_i d hd
        obtain ⟨ds, hds, hv⟩ := ih.mp h
        refine ⟨d :: ds, .cons (digit?_eq_some.mp hd) hds, ?_⟩
        rw [hv, Nat.ofDigits_reverse_cons, List.length_cons]
        ring
      · cases h
    · rintro ⟨ds, hds, hv⟩
      cases hds with
      | @cons _ d _ ds hd hds =>
        rw [digit?_eq_some.mpr hd]
        refine ih.mpr ⟨ds, hds, ?_⟩
        rw [hv, Nat.ofDigits_reverse_cons, List.length_cons]
        ring

theorem numeral?_eq_some {base : Nat} {cs : List Char} {n : Nat} :
    numeral? base cs = some n ↔ Spells base cs n := by
  cases cs with
  | nil => simp [numeral?, Spells]
  | cons c cs => simp [numeral?, Spells, numeralFrom?_eq_some]

theorem Spells.head {base : Nat} {c : Char} {cs : List Char} {n : Nat}
    (h : Spells base (c :: cs) n) : ∃ d, IsDigit base c d := by
  obtain ⟨-, ds, hds, -⟩ := h
  cases hds with
  | cons hd _ => exact ⟨_, hd⟩

end Text

/-! ## Numbers -/

namespace Settings

open Text

/-- Digits with one plus sign in front of them, or none. -/
def SpellsSigned (base : Nat) (cs : List Char) (n : Nat) : Prop :=
  Spells base cs n ∨ ∃ digits, cs = '+' :: digits ∧ Spells base digits n

/-- A number in decimal, or in hexadecimal behind its mark. -/
def IsNumber (cs : List Char) (n : Nat) : Prop :=
  SpellsSigned 10 cs n ∨
    ∃ x rest, (x = 'x' ∨ x = 'X') ∧ cs = '0' :: x :: rest ∧ SpellsSigned 16 rest n

/-- A text denotes a number of 64 bits: without white space at its ends, and then without
underscores, it spells it. -/
def Denotes (raw : String) (n : Nat) : Prop :=
  ∃ core, Trimmed raw.toList core ∧ IsNumber (core.filter fun c => c ≠ '_') n ∧ n < 2 ^ 64

theorem not_spells_plus {base : Nat} {cs : List Char} {n : Nat} : ¬ Spells base ('+' :: cs) n := by
  intro h
  obtain ⟨d, hd⟩ := h.head
  have hplus : '+'.toNat = 43 := rfl
  have h0 : '0'.toNat = 48 := rfl
  have ha : 'a'.toNat = 97 := rfl
  have hA : 'A'.toNat = 65 := rfl
  unfold IsDigit at hd
  omega

theorem numeral?_dropPlus {base : Nat} {cs : List Char} {n : Nat} :
    numeral? base (dropPlus cs) = some n ↔ SpellsSigned base cs n := by
  rw [numeral?_eq_some]
  unfold dropPlus SpellsSigned
  split
  · rename_i digits
    constructor
    · intro h
      exact .inr ⟨digits, rfl, h⟩
    · rintro (h | ⟨digits', heq, h⟩)
      · exact absurd h not_spells_plus
      · cases heq
        exact h
  · rename_i hplus
    constructor
    · intro h
      exact .inl h
    · rintro (h | ⟨digits, heq, -⟩)
      · exact h
      · exact absurd heq (hplus digits)

theorem not_spells_mark {x : Char} {cs : List Char} {n : Nat} (hx : x = 'x' ∨ x = 'X') :
    ¬ SpellsSigned 10 ('0' :: x :: cs) n := by
  rintro (⟨-, ds, hds, -⟩ | ⟨digits, heq, -⟩)
  · cases hds with
    | cons _ hds =>
      cases hds with
      | cons hd _ =>
        have hsmall : 'x'.toNat = 120 := rfl
        have hlarge : 'X'.toNat = 88 := rfl
        have h0 : '0'.toNat = 48 := rfl
        unfold IsDigit at hd
        rcases hx with rfl | rfl <;> omega
  · cases heq

theorem unbounded?_eq_some {cs : List Char} {n : Nat} :
    unbounded? cs = some n ↔ IsNumber cs n := by
  have hmark : ∀ {x : Char} {rest : List Char}, x = 'x' ∨ x = 'X' →
      (IsNumber ('0' :: x :: rest) n ↔ SpellsSigned 16 rest n) := by
    intro x rest hx
    constructor
    · rintro (h | ⟨y, rest', -, heq, h⟩)
      · exact absurd h (not_spells_mark hx)
      · cases heq
        exact h
    · intro h
      exact .inr ⟨x, rest, hx, rfl, h⟩
  unfold unbounded?
  split
  · rw [hmark (.inl rfl), numeral?_dropPlus]
  · rw [hmark (.inr rfl), numeral?_dropPlus]
  · rename_i hsmall hlarge
    rw [numeral?_dropPlus]
    constructor
    · intro h
      exact .inl h
    · rintro (h | ⟨x, rest, rfl | rfl, heq, -⟩)
      · exact h
      · exact absurd heq (hsmall rest)
      · exact absurd heq (hlarge rest)

theorem number?_eq_some {raw : String} {n : Nat} : number? raw = some n ↔ Denotes raw n := by
  have hsize : (2 : Nat) ^ 64 = 0x10000000000000000 := rfl
  unfold number? digitText Denotes
  rw [Option.filter_eq_some_iff, unbounded?_eq_some, decide_eq_true_eq, hsize]
  constructor
  · rintro ⟨hnumber, hlt⟩
    exact ⟨_, trimmed_trim _, hnumber, hlt⟩
  · rintro ⟨core, hcore, hnumber, hlt⟩
    rw [trimmed_iff.mp hcore] at hnumber
    exact ⟨hnumber, hlt⟩

/-! ## Limits -/

/-- The settings that are numbers. -/
inductive NumberSetting where
  | maxStackBytes | maxCallDepth | heapBase | maxHeapBytes
  deriving DecidableEq

namespace NumberSetting

/-- The variable of a setting. -/
def key : NumberSetting → String
  | maxStackBytes => maxStackBytesKey
  | maxCallDepth => maxCallDepthKey
  | heapBase => heapBaseKey
  | maxHeapBytes => maxHeapBytesKey

/-- The limit that a setting is about. -/
def limit (limits : Limits) : NumberSetting → Nat
  | maxStackBytes => limits.maxStackBytes
  | maxCallDepth => limits.maxCallDepth
  | heapBase => limits.heapBase
  | maxHeapBytes => limits.maxHeapBytes

theorem key_injective : Function.Injective key := by
  intro k k' h
  revert h
  cases k <;> cases k' <;> decide

theorem limit_ofVariables (k : NumberSetting) (env : String → Option String) :
    k.limit (ofVariables env).limits = value env k.key (k.limit {}) := by
  cases k <;> rfl

end NumberSetting

/-- **Number settings.** A text is read as a number if and only if it denotes one. Each of the four
limits has a variable of its own: it is the number which this denotes, and the usual one if the
variable is missing or denotes none, whatever the other variables are. -/
theorem number_settings :
    (∀ raw n, number? raw = some n ↔ Denotes raw n) ∧
    Function.Injective NumberSetting.key ∧
    ∀ (env : String → Option String) (k : NumberSetting),
      (∀ raw n, env k.key = some raw → Denotes raw n → k.limit (ofVariables env).limits = n) ∧
      (∀ raw, env k.key = some raw → (∀ n, ¬ Denotes raw n) →
        k.limit (ofVariables env).limits = k.limit {}) ∧
      (env k.key = none → k.limit (ofVariables env).limits = k.limit {}) ∧
      ∀ env', env' k.key = env k.key →
        k.limit (ofVariables env').limits = k.limit (ofVariables env).limits := by
  refine ⟨fun raw n => number?_eq_some, NumberSetting.key_injective, ?_⟩
  intro env k
  simp only [k.limit_ofVariables, value]
  refine ⟨?_, ?_, ?_, ?_⟩
  · intro raw n hraw hn
    rw [hraw, Option.bind_some, number?_eq_some.mpr hn, Option.getD_some]
  · intro raw hraw hnone
    have hread : number? raw = none := by
      cases hn : number? raw with
      | none => rfl
      | some n => exact absurd (number?_eq_some.mp hn) (hnone n)
    rw [hraw, Option.bind_some, hread, Option.getD_none]
  · intro hmissing
    rw [hmissing, Option.bind_none, Option.getD_none]
  · intro env' hsame
    rw [hsame]

/-- One variable with all that a number may have around it and in it, and one that is just too
large. -/
def twoVariables (key : String) : Option String :=
  if key = heapBaseKey then some "\t0X+_2000_00f0 "
  else if key = maxCallDepthKey then some "18446744073709551616"
  else none

theorem number_settings_twoVariables :
    Denotes "\t0X+_2000_00f0 " 0x200000f0 ∧
    (∀ n, ¬ Denotes "18446744073709551616" n) ∧
    (ofVariables twoVariables).limits.heapBase = 0x200000f0 ∧
    (ofVariables twoVariables).limits.maxCallDepth = 65536 ∧
    (ofVariables twoVariables).limits.maxStackBytes = 0x100000 := by
  obtain ⟨hread, -, hlimits⟩ := number_settings
  have hspelled : Denotes "\t0X+_2000_00f0 " 0x200000f0 := (hread _ _).mp (by decide)
  have hrefused : ∀ n, ¬ Denotes "18446744073709551616" n := by
    intro n hn
    have hnone : number? "18446744073709551616" = none := by decide
    rw [(hread _ n).mpr hn] at hnone
    cases hnone
  obtain ⟨hheap, -⟩ := hlimits twoVariables .heapBase
  obtain ⟨-, hcalls, -⟩ := hlimits twoVariables .maxCallDepth
  obtain ⟨-, -, hstack, -⟩ := hlimits twoVariables .maxStackBytes
  exact ⟨hspelled, hrefused, hheap _ _ rfl hspelled, hcalls _ (by decide) hrefused,
    hstack (by decide)⟩

end Settings

end WordMachine
