import WordMachine.Pattern.Meaning
import WordMachine.Pattern.Reader
import WordMachine.Pattern.Size

/-!
# Patterns of texts

* `Pattern.parse` : the pattern of a text, or why there is none.
* `Refusal.message` : the text of a reason.
-/

namespace WordMachine

/-- Why a text is not taken for a pattern. -/
inductive Refusal where
  | malformed (error : PatternError)
  /-- The automaton of the pattern would be too large. -/
  | tooLarge
  /-- The pattern looks at words of scripts for which there is no table. -/
  | wordsUnknown
  deriving DecidableEq, Repr

/-- The text of a reason. -/
def Refusal.message (pattern : String) : Refusal → String
  | malformed e => e.report pattern
  | tooLarge => "Compiled regex exceeds size limit of " ++ toString Pattern.maxSize ++ " bytes."
  | wordsUnknown => "error building NFA"

/-- The pattern of a text. -/
def Pattern.parse (text : String) : Except Refusal Pattern :=
  match Expr.parse text with
  | .error e => .error (.malformed e)
  | .ok written =>
    match written.meaning {} with
    | .error e => .error (.malformed e)
    | .ok (p, _) =>
      if p.isTooLarge true then .error .tooLarge
      else if p.looksAtScripts then .error .wordsUnknown
      else if p.isTooLarge false then .error .tooLarge
      else .ok p

end WordMachine
