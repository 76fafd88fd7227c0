import ToolAssistant.Text.Blank
import ToolAssistant.Text.Lowercase

/-!
# What a line of input asks for

A line ends the session, reports on it, is empty, or is a query.  Commands are recognised whatever
their case and the blanks around them.
-/

namespace ToolAssistant

/-- What a line of input asks for. -/
inductive SessionCommand where
  | exit
  | info
  | empty
  | query (text : String)
  deriving DecidableEq, Repr

namespace SessionCommand

/-- The words that end a session. -/
def exitWords : List String := ["exit", "quit", "bye", "q"]

/-- The word that reports on a session. -/
def infoWord : String := "clear"

/-- Reads a line. -/
def ofLine (line : String) : SessionCommand :=
  let trimmed := Text.trim line
  let lowered := Text.toLowercase trimmed
  if trimmed.isEmpty then .empty
  else if exitWords.contains lowered then .exit
  else if lowered = infoWord then .info
  else .query trimmed

end SessionCommand

end ToolAssistant
