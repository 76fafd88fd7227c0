import ToolAssistant.Failure
import ToolAssistant.Text.Blank

/-!
# Secrets

A secret never shows its text unless it is asked for by name.  Credentials are looked up in the
environment; a blank value counts as missing.  Storing and deleting needs a keychain of the system.
-/

namespace ToolAssistant

/-- A text that is not to be shown. -/
structure Secret where
  exposed : String
  deriving DecidableEq

namespace Secret

/-- What is shown for a secret. -/
def text (_ : Secret) : String := "[REDACTED]"

/-- What is shown for a secret among other data. -/
def debugText (_ : Secret) : String := "SecretString([REDACTED])"

/-- Is the secret blank? -/
def isEmpty (secret : Secret) : Bool :=
  Text.isBlankText secret.exposed

/-- What is shown for a secret that may be missing. -/
def optionText : Option Secret → String
  | some secret => "Some(" ++ secret.debugText ++ ")"
  | none => "None"

end Secret

/-- The value of a variable as a secret, unless it is blank. -/
def secretOf? (value : Option String) : Option Secret :=
  (value.map Secret.mk).filter (!·.isEmpty)

/-- The names of all credentials. -/
def geminiKeyName : String := "GEMINI_API_KEY"

@[inherit_doc geminiKeyName]
def weatherKeyName : String := "WEATHER_API_KEY"

@[inherit_doc geminiKeyName]
def mem0KeyName : String := "MEM0_API_KEY"

/-- Every credential that is known. -/
def knownSecrets : List String := [geminiKeyName, weatherKeyName, mem0KeyName]

/-- The keychain of the system: why it cannot do what it is asked to, if it cannot. -/
structure Keychain where
  refusal : Option String

namespace Keychain

/-- Stores a secret under a name. -/
def store (keychain : Keychain) (name value : String) : Except Failure Unit :=
  if Text.isBlankText value then .error (.keyring "Secret cannot be empty")
  else
    match keychain.refusal with
    | some detail => .error (.keyring ("Failed to store secret '" ++ name ++ "': " ++ detail))
    | none => .ok ()

/-- Deletes the secret of a name. -/
def delete (keychain : Keychain) (name : String) : Except Failure Unit :=
  match keychain.refusal with
  | some detail => .error (.keyring ("Failed to delete secret '" ++ name ++ "': " ++ detail))
  | none => .ok ()

end Keychain

end ToolAssistant
