import QueryRewriting.Request.Context

/-!
Arguments of the command line. A command takes options that each have one value, and one flag. An
option may stand only once; its value follows as the next argument, which must not look like an
option, or after an equals sign. A value is looked at when the next known option or the end of the
arguments shows that it is complete.
-/

namespace QueryRewriting.CommandLine

/-- The inputs of a command: the paths of its files, and who asks. -/
structure Inputs where
  model : String
  data : String
  query : String
  config : Option String := none
  caller : Caller := .anonymous
  deriving DecidableEq, Inhabited

/-- A command. -/
inductive Command where
  | run (inputs : Inputs)
  | explain (inputs : Inputs)
  deriving DecidableEq, Inhabited

/-- Why arguments give no command: something is wrong with them, or they ask for a text. -/
inductive Usage where
  | missingRequiredArgument
  | unknownArgument
  | invalidSubcommand
  | argumentConflict
  | valueValidation
  | invalidValue
  | tooManyValues
  | displayHelp
  | displayVersion
  | helpOnMissingSubcommand
  deriving DecidableEq, Inhabited

/-- The name of the reason why arguments give no command. -/
def Usage.name : Usage → String
  | .missingRequiredArgument => "MissingRequiredArgument"
  | .unknownArgument => "UnknownArgument"
  | .invalidSubcommand => "InvalidSubcommand"
  | .argumentConflict => "ArgumentConflict"
  | .valueValidation => "ValueValidation"
  | .invalidValue => "InvalidValue"
  | .tooManyValues => "TooManyValues"
  | .displayHelp => "DisplayHelp"
  | .displayVersion => "DisplayVersion"
  | .helpOnMissingSubcommand => "DisplayHelpOnMissingArgumentOrSubcommand"

/-- The exit status: asking for a text is no error. -/
def Usage.exitStatus : Usage → UInt8
  | .displayHelp => 0
  | .displayVersion => 0
  | _ => 2

/-- The options that take a value. -/
inductive Slot where
  | model
  | data
  | query
  | config
  | user
  deriving DecidableEq, Inhabited

/-- The value options by name. -/
def Slot.byName : List (String × Slot) :=
  [("model", .model), ("data", .data), ("query", .query), ("config", .config), ("user", .user)]

/-- The options found so far. -/
structure Found where
  values : List (Slot × String) := []
  user : Option Uuid := none
  serviceRole : Bool := false
  deriving DecidableEq, Inhabited

/-- An option whose value is not complete, with the value if it has been seen. -/
abbrev Pending := Option (Slot × Option String)

namespace Found

/-- Whether an option has been given. -/
def has (found : Found) (slot : Slot) : Bool := (found.values.lookup slot).isSome

/-- Takes the value of an option. A path must not be empty and a user must be an identity. -/
def take (found : Found) (slot : Slot) (value : String) : Except Usage Found :=
  if found.has slot then .error .argumentConflict
  else
    let found := { found with values := (slot, value) :: found.values }
    match slot with
    | .user =>
      match Uuid.parse? value with
      | some user => .ok { found with user := some user }
      | none => .error .valueValidation
    | _ => if value = "" then .error .invalidValue else .ok found

/-- Takes the value of the option that is not complete. -/
def settle (found : Found) : Pending → Except Usage Found
  | none => .ok found
  | some (_, none) => .error .invalidValue
  | some (slot, some value) => found.take slot value

/-- The inputs that the options give. Contradictions are found before omissions. -/
def inputs (found : Found) : Except Usage Inputs :=
  if found.serviceRole && found.user.isSome then .error .argumentConflict
  else match found.values.lookup .model, found.values.lookup .data, found.values.lookup .query with
    | some model, some data, some query =>
      .ok {
        model, data, query
        config := found.values.lookup .config
        caller := if found.serviceRole then .service
          else match found.user with
            | some user => .user user
            | none => .anonymous }
    | _, _, _ => .error .missingRequiredArgument

end Found

/-- The forms of an argument. -/
inductive Form where
  | separator
  | long (name : String) (attached : Option String)
  | short (letters : List Char)
  | plain
  deriving DecidableEq, Inhabited

/-- The form of an argument. A single hyphen is plain. -/
def Form.of (argument : String) : Form :=
  match argument.toList with
  | ['-', '-'] => .separator
  | '-' :: '-' :: rest =>
    match rest.dropWhile (· ≠ '=') with
    | [] => .long (String.ofList rest) none
    | _ :: attached =>
      .long (String.ofList (rest.takeWhile (· ≠ '='))) (some (String.ofList attached))
  | '-' :: letter :: rest => .short (letter :: rest)
  | _ => .plain

/-- Reads the options of a command. -/
def options (found : Found) (pending : Pending) : List String → Except Usage Inputs
  | [] => do (← found.settle pending).inputs
  | argument :: rest =>
    match Form.of argument with
    | .separator =>
      if rest.isEmpty then do (← found.settle pending).inputs else .error .unknownArgument
    | .long name attached =>
      match Slot.byName.lookup name, attached with
      | some slot, some value => do
        options (← (← found.settle pending).take slot value) none rest
      | some slot, none => do options (← found.settle pending) (some (slot, none)) rest
      | none, some _ =>
        if name = "service-role" ∨ name = "help" then .error .tooManyValues
        else .error .unknownArgument
      | none, none =>
        if name = "service-role" then do
          let found ← found.settle pending
          if found.serviceRole then .error .argumentConflict
          else options { found with serviceRole := true } none rest
        else if name = "help" then do
          let _ ← found.settle pending
          .error .displayHelp
        else .error .unknownArgument
    | .short letters =>
      if letters.head? = some 'h' then do
        let _ ← found.settle pending
        .error .displayHelp
      else .error .unknownArgument
    | .plain =>
      match pending with
      | some (slot, none) => options found (some (slot, some argument)) rest
      | _ => .error .unknownArgument

/-- The names of the commands. -/
def commandNames : List String := ["run", "explain", "help"]

/-- What is asked for after `help`: the help of the program or of one of its commands. -/
def help : List String → Usage
  | [] => .displayHelp
  | [name] => if commandNames.contains name then .displayHelp else .invalidSubcommand
  | _ => .invalidSubcommand

/-- Reads the arguments of the program. -/
def parse : List String → Except Usage Command
  | [] => .error .helpOnMissingSubcommand
  | "run" :: rest => Command.run <$> options {} none rest
  | "explain" :: rest => Command.explain <$> options {} none rest
  | "help" :: rest => .error (help rest)
  | argument :: rest =>
    match Form.of argument with
    | .separator =>
      match rest with
      | [] => .error .helpOnMissingSubcommand
      | name :: _ =>
        if commandNames.contains name then .error .unknownArgument else .error .invalidSubcommand
    | .long "help" none => .error .displayHelp
    | .long "version" none => .error .displayVersion
    | .long "help" (some _) => .error .tooManyValues
    | .long "version" (some _) => .error .tooManyValues
    | .long _ _ => .error .unknownArgument
    | .short ('h' :: _) => .error .displayHelp
    | .short ('V' :: _) => .error .displayVersion
    | .short _ => .error .unknownArgument
    | .plain => .error .invalidSubcommand

end QueryRewriting.CommandLine
