import Mathlib.Tactic.SplitIfs
import WordMachine.Event
import WordMachine.Text.Utf8

/-!
# Events take one line each

No text that is written for a word has a line break in it: instructions are rendered in letters,
digits and a few marks, and what is quoted for JSON has its line breaks escaped. In UTF-8 no
character but the line break has its byte. So the bytes of an event have one newline, at their end.

* `Event.newline_not_mem_text` : the text of a word, in either format.
* `Event.line`, `Event.stream` : the bytes of one word and of many.
* `Event.newline_line`, `Event.count_stream` : where they have newlines.
-/

namespace WordMachine

/-! ## Digits -/

theorem digitChar_ne_newline : ∀ d < 16, Nat.digitChar d ≠ '\n' := by decide

@[simp] theorem newline_not_mem_toDigits {base : Nat} (hbase : 1 < base) (hle : base ≤ 16)
    (n : Nat) : '\n' ∉ Nat.toDigits base n := by
  induction n using Nat.strongRecOn with
  | ind n ih =>
    rw [Nat.toDigits_eq_if hbase]
    split
    · rw [List.mem_singleton]
      exact (digitChar_ne_newline n (by omega)).symm
    · have hmod : n % base < base := Nat.mod_lt n (by omega)
      rw [List.mem_append, List.mem_singleton]
      rintro (h | h)
      · exact ih (n / base) (Nat.div_lt_self (by omega) hbase) h
      · exact digitChar_ne_newline (n % base) (by omega) h.symm

@[simp] theorem Text.newline_not_mem_hex (n : Nat) : '\n' ∉ (hex n).toList := by
  simp [hex]

@[simp] theorem Text.newline_not_mem_hexPadded (width n : Nat) :
    '\n' ∉ (hexPadded width n).toList := by
  simp [hexPadded, zeroPad]

/-! ## Instructions -/

@[simp] theorem Opcode.newline_not_mem_mnemonic (op : Opcode) : '\n' ∉ op.mnemonic.toList := by
  cases op with
  | binary op => cases op <;> simp [mnemonic]
  | double op => cases op <;> simp [mnemonic]
  | pushRegister w | pop w | store w | load w => cases w <;> simp [mnemonic, Width.bitsText]
  | shift d => cases d <;> simp [mnemonic]
  | branch c => cases c <;> simp [mnemonic]
  | _ => simp [mnemonic]

theorem Instruction.newline_not_mem_render (i : Instruction) : '\n' ∉ i.render.toList := by
  unfold render
  split <;> simp

/-! ## JSON -/

namespace Json

theorem newline_not_mem_quoteChar (c : Char) : '\n' ∉ (quoteChar c).toList := by
  by_cases hc : c = '\n'
  · subst hc
    simp [quoteChar]
  · unfold quoteChar
    split_ifs <;> simp [Ne.symm hc]

@[simp] theorem newline_not_mem_quote (text : String) : '\n' ∉ (quote text).toList := by
  have hbody : '\n' ∉ text.toList.flatMap fun c => (quoteChar c).toList := by
    rw [List.mem_flatMap]
    rintro ⟨c, -, hc⟩
    exact newline_not_mem_quoteChar c hc
  simp [quote, String.toList_join, List.flatMap_map, hbody]

theorem newline_not_mem_intercalate {texts : List String} (h : ∀ t ∈ texts, '\n' ∉ t.toList) :
    '\n' ∉ (String.intercalate "," texts).toList := by
  induction texts with
  | nil => simp
  | cons t texts ih =>
    have ht := h t List.mem_cons_self
    cases texts with
    | nil => simpa using ht
    | cons u texts =>
      have hrest := ih fun v hv => h v (List.mem_cons_of_mem t hv)
      rw [String.intercalate_cons_cons, String.toList_append, String.toList_append]
      simp only [List.mem_append, not_or]
      exact ⟨⟨ht, by simp⟩, hrest⟩

theorem newline_not_mem_compactObject {fields : List (String × String)}
    (h : ∀ f ∈ fields, '\n' ∉ f.2.toList) : '\n' ∉ (compactObject fields).toList := by
  have hfields : ∀ t ∈ fields.map fun f => quote f.1 ++ ":" ++ f.2, '\n' ∉ t.toList := by
    intro t ht
    obtain ⟨f, hf, rfl⟩ := List.mem_map.mp ht
    simp [h f hf]
  unfold compactObject
  rw [String.toList_append, String.toList_append]
  simp only [List.mem_append, not_or]
  exact ⟨⟨by simp, newline_not_mem_intercalate hfields⟩, by simp⟩

end Json

/-! ## Events -/

namespace Event

theorem newline_not_mem_pretty (address : UInt64) (word : UInt16) {instruction : Option String}
    (h : ∀ text, instruction = some text → '\n' ∉ text.toList) :
    '\n' ∉ (step address word instruction).pretty.toList := by
  cases instruction with
  | none => simp [pretty]
  | some text => simp [pretty, h text rfl]

theorem newline_not_mem_json (address : UInt64) (word : UInt16) (instruction : Option String) :
    '\n' ∉ (step address word instruction).json.toList := by
  apply Json.newline_not_mem_compactObject
  intro f hf
  rcases List.mem_append.mp hf with hf | hf
  · simp only [List.mem_cons, List.not_mem_nil, or_false] at hf
    rcases hf with rfl | rfl | rfl <;> simp
  · obtain ⟨text, -, rfl⟩ := List.mem_map.mp hf
    simp

/-- The text of a word about to be executed has no line break, in either format. -/
theorem newline_not_mem_text (a : Address) (w : Word) (format : EventFormat) :
    '\n' ∉ ((ofStep a w).text format).toList := by
  cases format with
  | pretty =>
    apply newline_not_mem_pretty
    intro text htext
    obtain ⟨i, -, rfl⟩ := Option.map_eq_some_iff.mp htext
    exact i.newline_not_mem_render
  | json => exact newline_not_mem_json _ _ _

end Event

/-! ## Bytes -/

/-- All bytes of a character outside of ASCII are above it. -/
theorem eq_newline_of_mem {c : Char} (h : 0x0a ∈ String.utf8EncodeChar c) : c = '\n' := by
  have hhigh : ∀ {n : Nat}, 128 ≤ n → n < 256 → (0x0a : UInt8) ≠ UInt8.ofNat n := by
    intro n hle hlt heq
    have hnat := congrArg UInt8.toNat heq
    rw [UInt8.toNat_ofNat_of_lt' hlt] at hnat
    change 10 = n at hnat
    omega
  unfold String.utf8EncodeChar at h
  dsimp only at h
  split_ifs at h with hascii htwo hthree
  · rw [List.mem_singleton] at h
    have hnat := congrArg UInt8.toNat h
    rw [UInt8.toNat_ofNat_of_lt' (by omega : c.val.toNat < 256)] at hnat
    apply Char.ext
    exact UInt32.toNat_inj.mp hnat.symm
  · simp only [List.mem_cons, List.not_mem_nil, or_false] at h
    rcases h with h | h <;> exact absurd h (hhigh (by omega) (by omega))
  · simp only [List.mem_cons, List.not_mem_nil, or_false] at h
    rcases h with h | h | h <;> exact absurd h (hhigh (by omega) (by omega))
  · simp only [List.mem_cons, List.not_mem_nil, or_false] at h
    rcases h with h | h | h | h <;> exact absurd h (hhigh (by omega) (by omega))

theorem Text.Utf8.newline_not_mem_encode {text : String} (h : '\n' ∉ text.toList) :
    0x0a ∉ encode text := by
  unfold encode
  rw [List.mem_flatMap]
  rintro ⟨c, hc, hbyte⟩
  rw [eq_newline_of_mem hbyte] at hc
  exact h hc

namespace Event

/-- The bytes that are written for a word: its text and a newline. -/
def line (format : EventFormat) (step : Address × Word) : List UInt8 :=
  Text.Utf8.encode ((ofStep step.1 step.2).text format) ++ [0x0a]

/-- The bytes that are written for words, if all of them are. -/
def stream (format : EventFormat) (steps : List (Address × Word)) : List UInt8 :=
  steps.flatMap (line format)

theorem newline_line (format : EventFormat) (step : Address × Word) :
    ∃ body, line format step = body ++ [0x0a] ∧ 0x0a ∉ body :=
  ⟨_, rfl, Text.Utf8.newline_not_mem_encode (newline_not_mem_text step.1 step.2 format)⟩

theorem count_stream (format : EventFormat) (steps : List (Address × Word)) :
    (stream format steps).count 0x0a = steps.length := by
  induction steps with
  | nil => rfl
  | cons step steps ih =>
    obtain ⟨body, hline, hbody⟩ := newline_line format step
    have hcons : stream format (step :: steps) = line format step ++ stream format steps :=
      List.flatMap_cons
    rw [hcons, hline, List.count_append, List.count_append, List.count_eq_zero.mpr hbody, ih,
      List.length_cons]
    simp [Nat.add_comm]

end Event

end WordMachine
