import WordMachine.Log.Filter

/-!
# The console

How the journal of a run is shown on the error stream: a line for each notice that a filter lets
through, and every line that is shown whatever the filter.

* `Filter.render` : the text of journal entries.
-/

namespace WordMachine

/-- The line of a notice. The lines of its message behind the first are indented. -/
def Notice.line (n : Notice) : String :=
  "[" ++ n.level.name ++ "] " ++
    String.intercalate "\n    " (n.message.splitToList (· == '\n')) ++ "\n"

/-- The text of a journal entry. -/
def Filter.renderEntry (f : Filter) : Entry → String
  | .notice n => if f.passes n then n.line else ""
  | .line text => text ++ "\n"

/-- The text of journal entries. -/
def Filter.render (f : Filter) (entries : List Entry) : String :=
  String.join (entries.map f.renderEntry)

end WordMachine
