import ToolAssistant.Settings.Validation

/-!
# The command line

Arguments are read level by level: options may stand at the level of the program and at that of a
subcommand, each at most once there.  The inner level is read to its end before an option that the
outer level has just been given is looked at, so a fault of the inner level is reported first.
-/

namespace ToolAssistant

/-- What the program is asked to do. -/
inductive Command where
  | chat
  | ask (query : String)
  | demo
  | tools
  | eval (expression : String)
  | secretSet (name value : String)
  | secretRemove (name : String)
  deriving DecidableEq, Repr

/-- Why arguments are not accepted, or what is shown in place of running a command. -/
inductive UsageError where
  | unknownArgument
  | invalidSubcommand
  | argumentConflict
  | invalidValue
  | tooManyValues
  | missingArgument
  | missingSubcommand
  | helpOnMissing
  | help
  | version
  deriving DecidableEq, Repr

/-- The options that take a value. -/
inductive ValueOption where
  | log
  | config
  | user
  deriving DecidableEq, Repr

/-- The options of one level. -/
structure Options where
  json : Bool := false
  log : Option String := none
  config : Option String := none
  user : Option String := none
  deriving DecidableEq, Repr

/-- An accepted command line. -/
structure Invocation where
  options : Options
  command : Option Command
  deriving DecidableEq, Repr

namespace Options

/-- The value of an option. -/
def get? (options : Options) : ValueOption → Option String
  | .log => options.log
  | .config => options.config
  | .user => options.user

/-- Sets the value of an option. -/
def set (options : Options) (name : ValueOption) (value : String) : Options :=
  match name with
  | .log => { options with log := some value }
  | .config => { options with config := some value }
  | .user => { options with user := some value }

/-- Has no option been given? -/
def isEmpty (options : Options) : Bool :=
  options == {}

/-- The options of an inner level, completed by those of the outer one. -/
def within (inner outer : Options) : Options where
  json := inner.json || outer.json
  log := inner.log.or outer.log
  config := inner.config.or outer.config
  user := inner.user.or outer.user

end Options

namespace CommandLine

/-- May the option have this value? -/
def isAllowed : ValueOption → String → Bool
  | .log, value => Settings.logLevels.contains value
  | .config, value => !value.isEmpty
  | .user, _ => true

/-- What can be given at a level. -/
structure Level where
  isTop : Bool := false
  subcommands : List String := []
  positionals : Nat := 0

/-- How far a level has been read.  `pending` is the option that was named last, with its value once
it is there; it is looked at when something else follows. -/
structure Progress where
  options : Options := {}
  pending : Option (ValueOption × Option String) := none
  positionals : List String := []
  /-- Has a double dash been read? -/
  onlyPositionals : Bool := false

/-- Sets an option at a level. -/
def assign (progress : Progress) (name : ValueOption) (value : String) :
    Except UsageError Progress :=
  if (progress.options.get? name).isSome then .error .argumentConflict
  else if !isAllowed name value then .error .invalidValue
  else .ok { progress with options := progress.options.set name value }

/-- Looks at the option that was named last. -/
def settle (progress : Progress) : Except UsageError Progress :=
  match progress.pending with
  | none => .ok progress
  | some (_, none) => .error .invalidValue
  | some (name, some value) => assign { progress with pending := none } name value

/-- The long names. -/
inductive LongName where
  | json
  | help
  | version
  | valued (name : ValueOption)

/-- Every long name of a level. -/
def longNames (level : Level) : List (String × LongName) :=
  [("json", .json), ("help", .help), ("log", .valued .log), ("config", .valued .config),
      ("user", .valued .user)] ++
    if level.isTop then [("version", .version)] else []

/-- Reads an argument that begins with two dashes, given what follows them. -/
def readLong (level : Level) (progress : Progress) (text : List Char) :
    Except UsageError Progress := do
  let name := text.takeWhile (· != '=')
  let attached := (text.drop name.length).tail?.map String.ofList
  match (longNames level).lookup (String.ofList name), attached with
  | none, _ => .error .unknownArgument
  | some (.valued name), some value => assign (← settle progress) name value
  | some (.valued name), none => return { ← settle progress with pending := some (name, none) }
  | some _, some _ => .error .tooManyValues
  | some .json, none =>
    let progress ← settle progress
    if progress.options.json then .error .argumentConflict
    else return { progress with options := { progress.options with json := true } }
  | some .help, none =>
    let _ ← settle progress
    .error .help
  | some .version, none =>
    let _ ← settle progress
    .error .version

/-- Reads an argument that begins with one dash, given the first character after it.  No such
argument lets the program go on. -/
def readShort (level : Level) (progress : Progress) (c : Char) : UsageError :=
  let shown (error : UsageError) : UsageError :=
    match settle progress with
    | .error fault => fault
    | .ok _ => error
  if c = 'h' then shown .help
  else if c = 'V' ∧ level.isTop then shown .version
  else .unknownArgument

/-- Reads an argument without a meaning of its own. -/
def readPositional (level : Level) (progress : Progress) (argument : String) :
    Except UsageError Progress := do
  if progress.positionals.length < level.positionals then
    let progress ← settle progress
    return { progress with positionals := progress.positionals ++ [argument] }
  else if level.subcommands.isEmpty then .error .unknownArgument
  -- After a double dash a subcommand is not taken for one, and the dash is to blame.
  else if level.subcommands.contains argument then .error .unknownArgument
  else .error .invalidSubcommand

/-- Reads one argument. -/
def readArgument (level : Level) (progress : Progress) (argument : String) :
    Except UsageError Progress :=
  if progress.onlyPositionals then readPositional level progress argument
  else
    match argument.toList, progress.pending with
    | ['-', '-'], _ => .ok { progress with onlyPositionals := true }
    | '-' :: '-' :: text, _ => readLong level progress text
    | '-' :: c :: _, _ => .error (readShort level progress c)
    | _, some (name, none) => .ok { progress with pending := some (name, some argument) }
    | _, _ => readPositional level progress argument

/-- Does the argument name a subcommand here? -/
def startsSubcommand (level : Level) (progress : Progress) (argument : String) : Bool :=
  let awaitsValue : Bool :=
    match progress.pending with
    | some (_, none) => true
    | _ => false
  !progress.onlyPositionals && !awaitsValue && level.subcommands.contains argument

/-- Reads the arguments of a level up to a subcommand, which is returned with what follows it. -/
def readLevel (level : Level) : Progress → List String →
    Except UsageError (Progress × Option (String × List String))
  | progress, [] => .ok (progress, none)
  | progress, argument :: rest =>
    if startsSubcommand level progress argument then .ok (progress, some (argument, rest))
    else
      match readArgument level progress argument with
      | .error error => .error error
      | .ok progress => readLevel level progress rest

/-! ## The commands -/

/-- The name under which help is asked for. -/
def helpName : String := "help"

/-- The subcommands of the secret command. -/
def secretNames : List String := ["set", "remove", helpName]

/-- The commands. -/
def commandNames : List String := ["chat", "ask", "demo", "tools", "eval", "secret", helpName]

/-- What asking for help on a path of commands comes to. -/
def readHelp (names : List String) : List String → UsageError
  | [] => .help
  | name :: rest =>
    if !names.contains name then .invalidSubcommand
    else readHelp (if name = "secret" then secretNames else []) rest

/-- Reads a command with a fixed number of arguments. -/
def readLeaf (positionals : Nat) (arguments : List String) :
    Except UsageError (Options × List String) := do
  let (progress, _) ← readLevel { positionals } {} arguments
  let progress ← settle progress
  if progress.positionals.length < positionals then .error .missingArgument
  else return (progress.options, progress.positionals)

/-- Reads the command that manages secrets. -/
def readSecret (arguments : List String) : Except UsageError (Options × Command) := do
  let (progress, found) ← readLevel { subcommands := secretNames } {} arguments
  match found with
  | none =>
    let progress ← settle progress
    if progress.options.isEmpty then .error .helpOnMissing else .error .missingSubcommand
  | some (name, rest) =>
    let (options, command) ←
      if name = "set" then
        match ← readLeaf 2 rest with
        | (options, [key, value]) => .ok (options, Command.secretSet key value)
        | _ => .error .missingArgument
      else if name = "remove" then
        match ← readLeaf 1 rest with
        | (options, [key]) => .ok (options, Command.secretRemove key)
        | _ => .error .missingArgument
      else .error (readHelp secretNames rest)
    return (options.within (← settle progress).options, command)

/-- Reads a command with its arguments. -/
def readCommand (name : String) (arguments : List String) :
    Except UsageError (Options × Command) := do
  let withoutArguments (command : Command) : Except UsageError (Options × Command) := do
    return ((← readLeaf 0 arguments).1, command)
  let withOne (command : String → Command) : Except UsageError (Options × Command) := do
    match ← readLeaf 1 arguments with
    | (options, [text]) => .ok (options, command text)
    | _ => .error .missingArgument
  match name with
  | "chat" => withoutArguments .chat
  | "demo" => withoutArguments .demo
  | "tools" => withoutArguments .tools
  | "ask" => withOne .ask
  | "eval" => withOne .eval
  | "secret" => readSecret arguments
  | _ => .error (readHelp commandNames arguments)

/-- Reads the arguments that follow the program's name. -/
def read (arguments : List String) : Except UsageError Invocation := do
  let (progress, found) ← readLevel { isTop := true, subcommands := commandNames } {} arguments
  match found with
  | none => return ⟨(← settle progress).options, none⟩
  | some (name, rest) =>
    let (options, command) ← readCommand name rest
    return ⟨options.within (← settle progress).options, some command⟩

end CommandLine

end ToolAssistant
