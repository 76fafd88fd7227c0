import ToolAssistant.Calendar.Instant
import ToolAssistant.Files.Tree
import ToolAssistant.Http.Exchange
import ToolAssistant.Secret

/-!
# The system

What the program asks of the computer that it runs on: files, the web, the clock, identifiers, the
environment and the keychain.
-/

namespace ToolAssistant

/-- A computer with states in `σ`. -/
structure System (σ : Type) where
  client : Http.Client σ
  /-- An identifier that has not been given before. -/
  fresh : σ → String × σ
  now : σ → Instant
  /-- The date where the computer is. -/
  today : σ → Date
  files : σ → FileTree
  setFiles : FileTree → σ → σ
  keychain : Keychain
  home : String

end ToolAssistant
