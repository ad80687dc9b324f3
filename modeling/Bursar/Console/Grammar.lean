import Bursar.Service.Settings

/-!
# Command lines

A command has options, then either positional values or commands below it. An
option is a switch, takes one value, or asks for help or the version; a value may
be written behind it, or joined to it (`--page=2`, `-p2`, `-p=2`). What is not on
the command line comes from a variable of the environment, and else from the
option's standard value. After `--` everything is positional.

A value stays *pending* until the next argument that is recognised: only then is
it checked and recorded, so a fault in what follows may be reported before a
fault of the value itself.
-/

namespace Bursar.Console

/-- Why a command line is not understood, or what it asks for instead. -/
inductive UsageError where
  | help
  | version
  /-- A command stands alone that needs more. -/
  | helpForMissing
  | missingCommand
  | unknownCommand
  | unknownArgument
  /-- A value is missing, or not one of the possible ones. -/
  | invalidValue
  /-- A value cannot be read. -/
  | unreadableValue
  | missingArgument
  /-- An option stands twice. -/
  | repeatedOption
  /-- A switch is given a value. -/
  | valueForSwitch
deriving DecidableEq, Repr

namespace UsageError

/-- The exit code: asking for help or the version is no failure. -/
def exitCode : UsageError → Nat
  | .help => 0
  | .version => 0
  | _ => 2

/-- What is wrong. -/
def message : UsageError → String
  | .help => "help was asked for"
  | .version => "the version was asked for"
  | .helpForMissing => "a command or an option is missing"
  | .missingCommand => "a command is missing"
  | .unknownCommand => "there is no such command"
  | .unknownArgument => "an argument is not known"
  | .invalidValue => "a value is missing or is not one of the possible ones"
  | .unreadableValue => "a value cannot be read"
  | .missingArgument => "a required argument is missing"
  | .repeatedOption => "an option stands more than once"
  | .valueForSwitch => "a switch takes no value"

end UsageError

/-- What an option does. -/
inductive OptionKind where
  | takesValue
  | switch
  | asksHelp
  | asksVersion
deriving DecidableEq, Repr

/-- An option of a command. -/
structure CommandOption where
  long : String
  short : Option Char
  kind : OptionKind
  /-- The variable that stands in for the option. -/
  standIn : Option String
  /-- The value if nothing else is given. -/
  standard? : Option String
  isRequired : Bool
  /-- Why a value is refused, if it is. -/
  fault? : String → Option UsageError

/-- A command: its options, the names of its positional values, and the commands below it. -/
inductive Grammar where
  | mk (options : List CommandOption) (positionals : List String) (commands : List (String × Grammar))

namespace Grammar

/-- The options. -/
def options : Grammar → List CommandOption
  | mk options _ _ => options

/-- The names of the positional values, all of which are required. -/
def positionals : Grammar → List String
  | mk _ positionals _ => positionals

/-- The commands below. -/
def commands : Grammar → List (String × Grammar)
  | mk _ _ commands => commands

/-- The command below with a name. -/
def command? (g : Grammar) (name : String) : Option Grammar := g.commands.lookup name

/-- Whether `help` is a command here. -/
def hasHelpCommand (g : Grammar) : Bool := !g.commands.isEmpty

end Grammar

/-- What a command line says: the commands that were chosen, and values by option or positional name. -/
structure Matches where
  commands : List String
  values : List (String × String)
deriving DecidableEq, Repr

namespace Matches

/-- The value under a name. -/
def value? (m : Matches) (name : String) : Option String := m.values.lookup name

/-- The matches of a command with those of the command below it. -/
def below (values : List (String × String)) (name : String) (m : Matches) : Matches :=
  { commands := name :: m.commands, values := values ++ m.values }

end Matches

/-- How far a command has been read. -/
structure Progress where
  /-- What was recorded. -/
  found : List (String × String)
  /-- An option whose value is not recorded yet, and the value once it is there. -/
  pending : Option (CommandOption × Option String)
  /-- How many positional values there are so far. -/
  placed : Nat
  /-- Whether `--` was passed. -/
  isTrailing : Bool

namespace Progress

/-- Nothing read yet. -/
def start : Progress := { found := [], pending := none, placed := 0, isTrailing := false }

/-- Whether the next argument is the value of an option. -/
def isAwaiting (p : Progress) : Bool :=
  match p.pending with
  | some (_, none) => true
  | _ => false

/-- Whether an option or a positional value was given. -/
def has (p : Progress) (name : String) : Bool := (p.found.lookup name).isSome

/-- Records a value of an option. -/
def record (p : Progress) (o : CommandOption) (value : String) : Except UsageError Progress :=
  if p.has o.long then .error .repeatedOption
  else
    match o.fault? value with
    | some e => .error e
    | none => .ok { p with found := p.found ++ [(o.long, value)] }

/-- Records what is pending. -/
def settle (p : Progress) : Except UsageError Progress :=
  match p.pending with
  | none => .ok p
  | some (_, none) => .error .invalidValue
  | some (o, some value) => { p with pending := none }.record o value

/-- Goes on with an option that takes a value, which may be joined to it. -/
def takeValue (p : Progress) (o : CommandOption) (joined : Option String) :
    Except UsageError Progress := do
  let p ← p.settle
  match joined with
  | some value => p.record o value
  | none => .ok { p with pending := some (o, none) }

/-- Goes on with an option that takes no value. -/
def takeSwitch (p : Progress) (o : CommandOption) : Except UsageError Progress := do
  let p ← p.settle
  match o.kind with
  | .asksHelp => .error .help
  | .asksVersion => .error .version
  | _ => p.record o "true"

end Progress

namespace Grammar

/-- The option of a long name. -/
def long? (g : Grammar) (name : String) : Option CommandOption := g.options.find? fun o => o.long = name

/-- The option of a letter. -/
def short? (g : Grammar) (letter : Char) : Option CommandOption :=
  g.options.find? fun o => o.short = some letter

/-- A value joined to a letter, without the sign in front of it. -/
def joinedValue : List Char → Option String
  | [] => none
  | '=' :: cs => some (String.ofList cs)
  | cs => some (String.ofList cs)

/-- Reads what follows `--`: a name, perhaps with a value. -/
def readLong (g : Grammar) (p : Progress) (cs : List Char) : Except UsageError Progress :=
  let (name, joined) :=
    match Text.splitFirst '=' cs with
    | some (name, value) => (String.ofList name, some (String.ofList value))
    | none => (String.ofList cs, none)
  match g.long? name with
  | none => .error .unknownArgument
  | some o =>
    match o.kind, joined with
    | .takesValue, joined => p.takeValue o joined
    | _, some _ => .error .valueForSwitch
    | _, none => p.takeSwitch o

/-- Reads what follows `-`: letters of switches, and perhaps a letter with a value. -/
def readShort (g : Grammar) (p : Progress) : List Char → Except UsageError Progress
  | [] => .ok p
  | c :: cs =>
    match g.short? c with
    | none => .error .unknownArgument
    | some o =>
      match o.kind with
      | .takesValue => p.takeValue o (joinedValue cs)
      | _ => do
        let p ← p.takeSwitch o
        readShort g p cs

/-- Reads a positional value. -/
def readPositional (g : Grammar) (p : Progress) (value : String) : Except UsageError Progress :=
  match g.positionals[p.placed]? with
  | some name => do
    let p ← p.settle
    .ok { p with found := p.found ++ [(name, value)], placed := p.placed + 1 }
  | none =>
    if g.commands.isEmpty then .error .unknownArgument
    else if p.isTrailing && ((g.command? value).isSome || value = "help") then .error .unknownArgument
    else .error .unknownCommand

/-- Reads an argument that names no command. -/
def readArgument (g : Grammar) (p : Progress) (argument : String) : Except UsageError Progress :=
  if p.isTrailing then g.readPositional p argument
  else
    match argument.toList with
    | ['-', '-'] => .ok { p with isTrailing := true }
    | '-' :: '-' :: cs => g.readLong p cs
    | '-' :: c :: cs => g.readShort p (c :: cs)
    | _ =>
      match p.pending with
      | some (o, none) => .ok { p with pending := some (o, some argument) }
      | _ => g.readPositional p argument

/-- What is answered to `help` with names of commands behind it. -/
def helpOn (g : Grammar) : List String → UsageError
  | [] => .help
  | name :: names =>
    match g.command? name with
    | some sub => helpOn sub names
    | none => if name = "help" ∧ g.hasHelpCommand then helpOn (mk [] [] []) names else .unknownCommand

/-- Takes the values of options that were not given from their variables. -/
def addVariables (v : Variables) : List CommandOption → Progress → Except UsageError Progress
  | [], p => .ok p
  | o :: os, p =>
    if p.has o.long then addVariables v os p
    else
      match o.standIn.bind v with
      | none => addVariables v os p
      | some value => do
        let p ← p.record o value
        addVariables v os p

/-- Takes the standard values of options that were not given. -/
def addStandards (os : List CommandOption) (p : Progress) : List (String × String) :=
  p.found ++ os.filterMap fun o =>
    if p.has o.long then none else o.standard?.map fun value => (o.long, value)

/-- Whether something required is missing. -/
def lacks (g : Grammar) (p : Progress) : Bool :=
  (g.options.any fun o => o.isRequired && !p.has o.long) || p.placed < g.positionals.length

/-- Ends a command: what is pending is recorded, and what was not given is filled in. -/
def finish (g : Grammar) (v : Variables) (p : Progress) (hasCommand : Bool) :
    Except UsageError (List (String × String)) := do
  let p ← p.settle
  let p ← addVariables v g.options p
  if !hasCommand ∧ !g.commands.isEmpty then
    .error (if p.found.isEmpty then .helpForMissing else .missingCommand)
  else if g.lacks p then .error .missingArgument
  else .ok (addStandards g.options p)

/-- Reads the arguments of a command. The command below is read to its end before this one is ended. -/
def read (v : Variables) : Grammar → List String → Progress → Except UsageError Matches
  | g, [], p => do
    let values ← g.finish v p false
    return { commands := [], values }
  | g, argument :: rest, p =>
    match if p.isTrailing || p.isAwaiting then none else g.command? argument with
    | some sub => do
      let below ← read v sub rest .start
      let values ← g.finish v p true
      return below.below values argument
    | none =>
      if !p.isTrailing && !p.isAwaiting && g.hasHelpCommand && argument = "help" then
        .error (g.helpOn rest)
      else do
        let p ← g.readArgument p argument
        read v g rest p

end Grammar
end Bursar.Console
