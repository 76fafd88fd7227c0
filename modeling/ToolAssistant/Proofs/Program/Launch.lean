import Mathlib.Tactic.NormNum
import ToolAssistant.Program.Launch
import ToolAssistant.Proofs.Decimal.Interval

/-!
# What reaches a command

A command is run in a workplace that is put together from a command line and a configuration file.
Both are checked, but not for the same:

| value | from the file | from the command line |
|---|---|---|
| log level | one of the five | one of the five |
| user | not blank | anything |
| everything else | as the rules say | |

What the command line says is put in place of what the file says after the file has been checked.
So the workplace obeys the rules (`Settings.Obeys`) but for a blank user from the command line,
`Launch.reaches_obeys`.

## Strategy

Reading a command line and loading settings are chains of steps that may fail.  `Ensures P` says of
a step that what it comes to has the property `P`, if it comes to anything.  There is one such lemma
for each step, and `Ensures.bind` puts them together.
-/

namespace ToolAssistant

variable {ε α β σ : Type}

/-! ## The command line -/

/-- If there is a value, it has the property. -/
def Ensures (P : α → Prop) (outcome : Except ε α) : Prop :=
  ∀ value, outcome = .ok value → P value

theorem Ensures.ok {P : α → Prop} {value : α} (hvalue : P value) :
    Ensures P (.ok value : Except ε α) := by
  intro other hother
  rw [← Except.ok.inj hother]
  exact hvalue

theorem Ensures.error {P : α → Prop} (fault : ε) : Ensures P (.error fault : Except ε α) := by
  intro value hvalue
  cases hvalue

theorem Ensures.bind {P : α → Prop} {Q : β → Prop} {first : Except ε α} {next : α → Except ε β}
    (hfirst : Ensures P first) (hnext : ∀ value, P value → Ensures Q (next value)) :
    Ensures Q (first >>= next) := by
  cases first with
  | error fault => exact .error fault
  | ok value => exact hnext value (hfirst value rfl)

/-- Every option has a value that it may have. -/
def Options.Allowed (options : Options) : Prop :=
  ∀ name value, options.get? name = some value → CommandLine.isAllowed name value = true

namespace CommandLine

theorem allowed_none : Options.Allowed {} := by
  intro name value hvalue
  cases name <;> cases hvalue

theorem allowed_set {options : Options} (hoptions : options.Allowed) {name : ValueOption}
    {value : String} (hvalue : isAllowed name value = true) : (options.set name value).Allowed := by
  intro other found hfound
  cases name <;> cases other <;> simp only [Options.set, Options.get?, Option.some.injEq] at hfound
  case log.log | config.config | user.user => exact hfound ▸ hvalue
  all_goals exact hoptions _ found hfound

theorem allowed_within {inner outer : Options} (hinner : inner.Allowed) (houter : outer.Allowed) :
    (inner.within outer).Allowed := by
  intro name value hvalue
  have hor : (inner.within outer).get? name = (inner.get? name).or (outer.get? name) := by
    cases name <;> rfl
  rw [hor] at hvalue
  rcases Option.or_eq_some_iff.mp hvalue with hfound | ⟨-, hfound⟩
  · exact hinner name value hfound
  · exact houter name value hfound

section Progress

variable {progress : Progress} (hprogress : progress.options.Allowed)

include hprogress

theorem assign_allowed (name : ValueOption) (value : String) :
    Ensures (·.options.Allowed) (assign progress name value) := by
  unfold assign
  split_ifs with hgiven hvalue
  · exact .error _
  · exact .error _
  · refine .ok (allowed_set hprogress ?_)
    simpa using hvalue

theorem settle_allowed : Ensures (·.options.Allowed) (settle progress) := by
  unfold settle
  split
  · exact .ok hprogress
  · exact .error _
  · have hsame : ({ progress with pending := none } : Progress).options.Allowed := hprogress
    exact assign_allowed hsame _ _

theorem readLong_allowed (level : Level) (text : List Char) :
    Ensures (·.options.Allowed) (readLong level progress text) := by
  have hsettled := settle_allowed hprogress
  unfold readLong
  dsimp only
  split
  · exact .error _
  · exact hsettled.bind fun settled hallowed => assign_allowed hallowed _ _
  · exact hsettled.bind fun settled hallowed => .ok hallowed
  · exact .error _
  · refine hsettled.bind fun settled hallowed => ?_
    split_ifs
    · exact .error _
    · refine .ok ?_
      intro name value hvalue
      exact hallowed name value (by cases name <;> exact hvalue)
  · exact hsettled.bind fun settled hallowed => .error _
  · exact hsettled.bind fun settled hallowed => .error _

theorem readPositional_allowed (level : Level) (argument : String) :
    Ensures (·.options.Allowed) (readPositional level progress argument) := by
  unfold readPositional
  split_ifs
  · exact (settle_allowed hprogress).bind fun settled hallowed => .ok hallowed
  · exact .error _
  · exact .error _
  · exact .error _

theorem readArgument_allowed (level : Level) (argument : String) :
    Ensures (·.options.Allowed) (readArgument level progress argument) := by
  unfold readArgument
  split_ifs
  · exact readPositional_allowed hprogress level argument
  · split
    · exact .ok hprogress
    · exact readLong_allowed hprogress level _
    · exact .error _
    · exact .ok hprogress
    · exact readPositional_allowed hprogress level argument

theorem readLevel_allowed (level : Level) (arguments : List String) :
    Ensures (·.1.options.Allowed) (readLevel level progress arguments) := by
  induction arguments generalizing progress with
  | nil => exact .ok hprogress
  | cons argument rest ih =>
      unfold readLevel
      split_ifs
      · exact .ok hprogress
      · have hargument := readArgument_allowed hprogress level argument
        cases hread : readArgument level progress argument with
        | error fault => exact .error _
        | ok progress => exact ih (hargument progress hread)

end Progress

theorem readLeaf_allowed (positionals : Nat) (arguments : List String) :
    Ensures (·.1.Allowed) (readLeaf positionals arguments) := by
  refine (readLevel_allowed allowed_none { positionals } arguments).bind fun found hfound => ?_
  refine (settle_allowed hfound).bind fun settled hallowed => ?_
  split_ifs
  · exact .error _
  · exact .ok hallowed

theorem readSecret_allowed (arguments : List String) :
    Ensures (·.1.Allowed) (readSecret arguments) := by
  refine (readLevel_allowed allowed_none { subcommands := secretNames } arguments).bind ?_
  rintro ⟨progress, found⟩ hprogress
  cases found with
  | none =>
      refine (settle_allowed hprogress).bind fun settled _ => ?_
      split_ifs
      · exact .error _
      · exact .error _
  | some found =>
      obtain ⟨name, rest⟩ := found
      have hwithin (options : Options) (command : Command) (hoptions : options.Allowed) :
          Ensures (·.1.Allowed) (do return (options.within (← settle progress).options, command) :
            Except UsageError (Options × Command)) :=
        (settle_allowed hprogress).bind fun settled hsettled =>
          .ok (allowed_within hoptions hsettled)
      dsimp only
      split_ifs
      · refine (readLeaf_allowed 2 rest).bind fun leaf hleaf => ?_
        split
        · exact hwithin _ _ hleaf
        · exact .error _
      · refine (readLeaf_allowed 1 rest).bind fun leaf hleaf => ?_
        split
        · exact hwithin _ _ hleaf
        · exact .error _
      · exact .error _

theorem readCommand_allowed (name : String) (arguments : List String) :
    Ensures (·.1.Allowed) (readCommand name arguments) := by
  have hnone (command : Command) : Ensures (·.1.Allowed) (do
      return ((← readLeaf 0 arguments).1, command) : Except UsageError (Options × Command)) :=
    (readLeaf_allowed 0 arguments).bind fun leaf hleaf => .ok hleaf
  unfold readCommand
  dsimp only
  split
  · exact hnone .chat
  · exact hnone .demo
  · exact hnone .tools
  case h_4 | h_5 =>
    -- Asking and evaluating take one text each.
    refine (readLeaf_allowed 1 arguments).bind fun leaf hleaf => ?_
    split
    · exact .ok hleaf
    · exact .error _
  · exact readSecret_allowed arguments
  · exact .error _

/-- **What is read from a command line has only values that are allowed.** -/
theorem read_allowed (arguments : List String) :
    Ensures (·.options.Allowed) (read arguments) := by
  refine (readLevel_allowed allowed_none { isTop := true, subcommands := commandNames }
    arguments).bind ?_
  rintro ⟨progress, found⟩ hprogress
  have hsettled := settle_allowed hprogress
  cases found with
  | none => exact hsettled.bind fun settled hallowed => .ok hallowed
  | some found =>
      refine (readCommand_allowed found.1 found.2).bind fun inner hinner => ?_
      exact hsettled.bind fun settled hallowed => .ok (allowed_within hinner hallowed)

end CommandLine

/-! ## Settings -/

/-- Settings obey the rules for a configuration. -/
structure Settings.Obeys (settings : Settings) : Prop where
  logLevel : settings.core.logLevel ∈ ["error", "warn", "info", "debug", "trace"]
  userId : Text.isBlankText settings.session.userId = false
  maxIterations : 1 ≤ settings.agent.maxIterations
  oracleTimeout : 1 ≤ settings.agent.oracleTimeout
  toolTimeout : 1 ≤ settings.agent.toolTimeout
  temperature : ∃ value, Double.value? settings.model.temperature = some value ∧
    0 ≤ value ∧ value ≤ 2
  topP : ∃ value, Double.value? settings.model.topP = some value ∧ 0 ≤ value ∧ value ≤ 1
  maxOutputTokens : 1 ≤ settings.model.maxOutputTokens
  units : settings.tools.weather.units ∈ ["metric", "imperial", "standard"]
  maxSnippets : 1 ≤ settings.memory.maxSnippets
  memoryTimeout : 1 ≤ settings.memory.timeout

namespace Settings

private theorem value?_of_isBetween_two {x : Float} (hbetween : isBetween 0.0 2.0 x = true) :
    ∃ value, Double.value? x = some value ∧ 0 ≤ value ∧ value ≤ 2 := by
  obtain ⟨hlow, hhigh⟩ := Bool.and_eq_true_iff.mp hbetween
  have htwo : (2.0 : Float).toModel.unpack = .finite .positive (2 ^ 52) (-51) (by decide) := rfl
  obtain ⟨value, hvalue, hnonneg, hle⟩ := Double.value?_of_between htwo le_rfl
    (of_decide_eq_true hlow) (of_decide_eq_true hhigh)
  refine ⟨value, hvalue, hnonneg, hle.trans ?_⟩
  norm_num

private theorem value?_of_isBetween_one {x : Float} (hbetween : isBetween 0.0 1.0 x = true) :
    ∃ value, Double.value? x = some value ∧ 0 ≤ value ∧ value ≤ 1 := by
  obtain ⟨hlow, hhigh⟩ := Bool.and_eq_true_iff.mp hbetween
  have hone : (1.0 : Float).toModel.unpack = .finite .positive (2 ^ 52) (-52) (by decide) := rfl
  obtain ⟨value, hvalue, hnonneg, hle⟩ := Double.value?_of_between hone le_rfl
    (of_decide_eq_true hlow) (of_decide_eq_true hhigh)
  refine ⟨value, hvalue, hnonneg, hle.trans ?_⟩
  norm_num

/-- **Settings without a fault obey the rules.** -/
theorem obeys_of_faultless {settings : Settings}
    (hfaultless : ∀ fault ∈ settings.faults, fault.1 = false) : settings.Obeys := by
  unfold faults at hfaultless
  simp only [List.forall_mem_cons] at hfaultless
  obtain ⟨hlevel, huser, hiterations, hagent, htemperature, htopP, htokens, hunits, hsnippets,
    hmemory, -⟩ := hfaultless
  obtain ⟨horacle, htool⟩ := Bool.or_eq_false_iff.mp hagent
  have hpositive {n : ℕ} (hn : (n == 0) = false) : 1 ≤ n :=
    Nat.one_le_iff_ne_zero.mpr (beq_eq_false_iff_ne.mp hn)
  have hpasses {check : Bool} (hcheck : (!check) = false) : check = true := by
    simpa using hcheck
  refine ⟨?_, huser, hpositive hiterations, hpositive horacle, hpositive htool, ?_, ?_,
    hpositive htokens, ?_, hpositive hsnippets, hpositive hmemory⟩
  · exact List.contains_iff_mem.mp (hpasses hlevel)
  · exact value?_of_isBetween_two (hpasses htemperature)
  · exact value?_of_isBetween_one (hpasses htopP)
  · exact List.contains_iff_mem.mp (hpasses hunits)

theorem validate_obeys (home : String) (settings : Settings) :
    Ensures Obeys (settings.validate home) := by
  unfold validate
  cases hfault : settings.faults.find? (·.1) with
  | some fault => exact .error _
  | none =>
      have hfaultless : ∀ fault ∈ settings.faults, fault.1 = false := by
        intro fault hmem
        simpa using List.find?_eq_none.mp hfault fault hmem
      -- The rules do not look at the paths.
      obtain ⟨hlevel, huser, hiterations, horacle, htool, htemperature, htopP, htokens, hunits,
        hsnippets, hmemory⟩ := obeys_of_faultless hfaultless
      exact .ok ⟨hlevel, huser, hiterations, horacle, htool, htemperature, htopP, htokens, hunits,
        hsnippets, hmemory⟩

/-- **Loaded settings obey the rules**, whether from a file that was there or from a new one. -/
theorem loadOrCreate_obeys (home : String) (files : FileTree) (path : FilePath) :
    Ensures Obeys (loadOrCreate home files path).1 := by
  unfold loadOrCreate
  split_ifs
  · dsimp only
    unfold load ofText
    split
    · exact .error _
    · split
      · exact validate_obeys home _
      · exact .error _
  · unfold create
    split
    · exact .error _
    · dsimp only
      split
      · exact .error _
      · exact validate_obeys home {}

end Settings

/-! ## The workplace -/

namespace Launch

theorem applyOptions_obeys {options : Options} (hoptions : options.Allowed) {settings : Settings}
    (hsettings : settings.Obeys) : (applyOptions options settings).Obeys := by
  refine { hsettings with logLevel := ?_ }
  show options.log.getD settings.core.logLevel ∈ _
  cases hlog : options.log with
  | none => exact hsettings.logLevel
  | some level => exact List.contains_iff_mem.mp (hoptions .log level hlog)

/-- **A workplace has settings that obey the rules, and the user that was asked for.** -/
theorem prepare_obeys (launch : Launch) (system : System σ) {options : Options}
    (hoptions : options.Allowed) (world : σ) :
    Ensures (fun place : Workplace σ => place.settings.Obeys ∧
      place.userId = options.user.getD place.settings.session.userId)
      (launch.prepare system options world).1 := by
  have hloaded := Settings.loadOrCreate_obeys system.home (system.files world)
    (configPath system.home options)
  unfold prepare
  dsimp only
  split
  · exact .error _
  · next settings after hload =>
    have hsettings : settings.Obeys := hloaded settings (congrArg Prod.fst hload)
    split
    · exact .error _
    · exact .ok ⟨applyOptions_obeys hoptions hsettings, rfl⟩

/-- A command line with which a command is run in a workplace, in the world that is left by its
preparation.  Expressions are evaluated without one. -/
structure Reaches (launch : Launch) (system : System σ) (world : σ) (invocation : Invocation)
    (place : Workplace σ) (after : σ) : Prop where
  read : CommandLine.read launch.arguments = .ok invocation
  command : ∀ expression, invocation.command ≠ some (.eval expression)
  prepare : launch.prepare system invocation.options world = (.ok place, after)

private theorem runInvocation_of_command (launch : Launch) (system : System σ)
    {invocation : Invocation}
    (hcommand : ∀ expression, invocation.command ≠ some (.eval expression)) (world : σ) :
    launch.runInvocation system invocation world =
      match launch.prepare system invocation.options world with
      | (.error failure, after) => (CommandReport.failed failure, after)
      | (.ok place, after) => runCommand place invocation.options.json launch.input after
          (invocation.command.getD .chat) := by
  obtain ⟨options, command⟩ := invocation
  cases command with
  | none => rfl
  | some command =>
      cases command with
      | eval expression => exact absurd rfl (hcommand expression)
      | _ => rfl

theorem run_of_reaches {launch : Launch} {system : System σ} {world after : σ}
    {invocation : Invocation} {place : Workplace σ}
    (hreaches : launch.Reaches system world invocation place after) :
    launch.run system world =
      Prod.map commandExit id (runCommand place invocation.options.json launch.input after
        (invocation.command.getD .chat)) := by
  unfold run
  rw [hreaches.read]
  simp only [launch.runInvocation_of_command system hreaches.command, hreaches.prepare]
  rfl

/-- **What is not run in a workplace** is a command line that is not accepted, an expression, or a
failure to prepare the workplace. -/
theorem run_cases (launch : Launch) (system : System σ) (world : σ) :
    (∃ fault, CommandLine.read launch.arguments = .error fault ∧
      launch.run system world = (usageExit fault, world)) ∨
    (∃ invocation expression, CommandLine.read launch.arguments = .ok invocation ∧
      invocation.command = some (.eval expression) ∧
      launch.run system world =
        (commandExit (CommandReport.eval invocation.options.json expression), world)) ∨
    (∃ invocation failure after, CommandLine.read launch.arguments = .ok invocation ∧
      launch.prepare system invocation.options world = (.error failure, after) ∧
      launch.run system world = (commandExit (CommandReport.failed failure), after)) ∨
    ∃ invocation place after, launch.Reaches system world invocation place after := by
  cases hread : CommandLine.read launch.arguments with
  | error fault =>
      refine Or.inl ⟨fault, rfl, ?_⟩
      unfold run
      rw [hread]
  | ok invocation =>
      refine Or.inr ?_
      by_cases heval : ∃ expression, invocation.command = some (.eval expression)
      · obtain ⟨expression, hcommand⟩ := heval
        refine Or.inl ⟨invocation, expression, rfl, hcommand, ?_⟩
        unfold run runInvocation
        rw [hread]
        simp only [hcommand]
      · have hcommand : ∀ expression, invocation.command ≠ some (.eval expression) :=
          fun expression heq => heval ⟨expression, heq⟩
        refine Or.inr ?_
        rcases hprepare : launch.prepare system invocation.options world with
          ⟨failure | place, after⟩
        · refine Or.inl ⟨invocation, failure, after, rfl, hprepare, ?_⟩
          unfold run
          rw [hread]
          simp only [launch.runInvocation_of_command system hcommand, hprepare]
        · exact Or.inr ⟨invocation, place, after, hread, hcommand, hprepare⟩

end Launch

/-- What a session works with is within bounds. -/
structure Controller.Bounded (controller : Controller σ) : Prop where
  maxIterations : 1 ≤ controller.orchestrator.limits.maxIterations
  oracleTimeout : Duration.ofSeconds 1 ≤ controller.orchestrator.limits.oracleTimeout
  toolTimeout : Duration.ofSeconds 1 ≤ controller.orchestrator.limits.toolTimeout
  maxSnippets : 1 ≤ controller.gateway.maxSnippets
  memoryTimeout : Duration.ofSeconds 1 ≤ controller.gateway.timeout

theorem Duration.ofSeconds_le {m n : ℕ} (hle : m ≤ n) : ofSeconds m ≤ ofSeconds n :=
  Nat.mul_le_mul_right _ hle

/-- **A session is within bounds, and it is the user's**, if the settings obey the rules. -/
theorem Workplace.controller_bounded {place : Workplace σ} (hsettings : place.settings.Obeys)
    (world : σ) :
    Ensures (fun controller : Controller σ => controller.Bounded ∧
      controller.userId = place.userId) (place.controller world).1 := by
  have hgateway (key : Option Secret) : ∃ store,
      (MemoryGateway.ofSystem place.system place.settings key world).1 =
        .ofSettings place.settings.memory store := ⟨_, rfl⟩
  unfold controller
  split
  · exact .error _
  · next keys _ =>
    split
    · exact .error _
    · obtain ⟨store, hstore⟩ := hgateway keys.mem0
      refine .ok ⟨⟨hsettings.maxIterations, Duration.ofSeconds_le hsettings.oracleTimeout,
        Duration.ofSeconds_le hsettings.toolTimeout, ?_, ?_⟩, rfl⟩
      · rw [hstore]
        exact hsettings.maxSnippets
      · rw [hstore]
        exact Duration.ofSeconds_le hsettings.memoryTimeout

namespace Launch

/-- **A command that is run in a workplace finds settings that obey the rules.**  That holds for
what the command line puts in place of the file, too, but for the user: the user is blank exactly
when a blank one was given on the command line.  The sessions of the command are within bounds, and
they are that user's. -/
theorem reaches_obeys {launch : Launch} {system : System σ} {world after : σ}
    {invocation : Invocation} {place : Workplace σ}
    (hreaches : launch.Reaches system world invocation place after) :
    place.settings.Obeys ∧
    (Text.isBlankText place.userId = true ↔
      ∃ user, invocation.options.user = some user ∧ Text.isBlankText user = true) ∧
    (∀ met, Ensures (fun controller : Controller σ => controller.Bounded ∧
      controller.userId = place.userId) (place.controller met).1) ∧
    launch.run system world =
      Prod.map commandExit id (runCommand place invocation.options.json launch.input after
        (invocation.command.getD .chat)) := by
  have hoptions := CommandLine.read_allowed launch.arguments invocation hreaches.read
  obtain ⟨hsettings, huser⟩ := launch.prepare_obeys system hoptions world place
    (congrArg Prod.fst hreaches.prepare)
  refine ⟨hsettings, ?_, Workplace.controller_bounded hsettings, run_of_reaches hreaches⟩
  rw [huser]
  cases hgiven : invocation.options.user with
  | none => simp [hsettings.userId]
  | some user => simp

/-- A computer without a web; its state is its files. -/
def offline : System FileTree where
  client _ := fun files => (.never, files)
  fresh files := ("1", files)
  now _ := ⟨⟨2024, 2, 25⟩, 0, 0⟩
  today _ := ⟨2024, 2, 25⟩
  files := id
  setFiles files _ := files
  keychain := ⟨none⟩
  home := "/home/anna"

/-- An empty configuration file in the working directory. -/
def emptyConfig : FileTree := ⟨[(["config.toml"], .file [])], []⟩

/-- A question that a user asks. -/
def asking (user : String) : Launch where
  arguments := ["--user", user, "ask", "What is my name?", "--config", "config.toml"]
  environment := []
  input := []

/-- The question as it is read. -/
def askingInvocation (user : String) : Invocation where
  options := { config := some "config.toml", user := some user }
  command := some (.ask "What is my name?")

private theorem exists_reaches (launch : Launch) (system : System σ) (world : σ)
    (invocation : Invocation) (hread : CommandLine.read launch.arguments = .ok invocation)
    (hcommand : ∀ expression, invocation.command ≠ some (.eval expression))
    (hprepared : (launch.prepare system invocation.options world).1.isOk = true) :
    ∃ place after, launch.Reaches system world invocation place after := by
  rcases hprepare : launch.prepare system invocation.options world with ⟨failure | place, after⟩
  · rw [hprepare] at hprepared
    cases hprepared
  · exact ⟨place, after, hread, hcommand, hprepare⟩

theorem reaches_obeys_anna :
    ∃ place after,
      (asking "anna").Reaches offline emptyConfig (askingInvocation "anna") place after ∧
        place.settings.Obeys ∧ Text.isBlankText place.userId = false := by
  obtain ⟨place, after, hreaches⟩ := exists_reaches (asking "anna") offline emptyConfig
    (askingInvocation "anna") rfl (by simp [askingInvocation]) (by decide +kernel)
  obtain ⟨hsettings, hblank, -⟩ := reaches_obeys hreaches
  refine ⟨place, after, hreaches, hsettings, ?_⟩
  rw [Bool.eq_false_iff, Ne, hblank]
  rintro ⟨user, huser, hnone⟩
  obtain rfl := Option.some.inj huser
  cases hnone

/-- A blank user is let through. -/
theorem blank_user_reaches :
    ∃ place after, (asking "  ").Reaches offline emptyConfig (askingInvocation "  ") place after ∧
      Text.isBlankText place.userId = true := by
  obtain ⟨place, after, hreaches⟩ := exists_reaches (asking "  ") offline emptyConfig
    (askingInvocation "  ") rfl (by simp [askingInvocation]) (by decide +kernel)
  have hoptions := CommandLine.read_allowed _ _ hreaches.read
  obtain ⟨-, huser⟩ := (asking "  ").prepare_obeys offline hoptions emptyConfig place
    (congrArg Prod.fst hreaches.prepare)
  refine ⟨place, after, hreaches, ?_⟩
  rw [huser]
  show Text.isBlankText "  " = true
  decide

end Launch

end ToolAssistant
