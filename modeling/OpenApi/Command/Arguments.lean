import OpenApi.Settings

/-!
# Command lines

A command line is the name of a command between options. Every level, the one in front of the
command and the one behind it, has options of its own. An option has a short and a long name; its
value is the argument behind it, or stands in the same argument behind an equals sign, which a short
name can do without. A flag has no value. No option may be given twice on a level.

## Main definitions

* `Command`, `Invocation`, `Request`: what a command line asks for.
* `Level`, `readLevel`: the options of a level, and reading them.
* `Request.ofArguments`: the request of a command line.
-/
namespace OpenApi.Command

/-! ## Requests -/

/-- The formats of an inspected API. -/
inductive Format where
  | yaml
  | json
deriving DecidableEq, Repr

/-- The spellings of the formats. -/
def Format.byName : List (String × Format) := [("yaml", .yaml), ("json", .json)]

/-- What to do. -/
inductive Action where
  /-- Report the problems of a document. -/
  | validate (input : Option String) (strict : Bool)
  /-- Print the resolved API of a document, or its summary. -/
  | inspect (input : Option String) (format : Format) (summary : Bool)
  /-- Write the file of settings that a project starts with. -/
  | init (force : Bool)
deriving DecidableEq, Repr

/-- The file of settings where none is named. -/
def usualSettingsPath : String := ".oasir.yaml"

/-- What to do, and the file of settings to do it with. -/
structure Invocation where
  settingsPath : String := usualSettingsPath
  action : Action
deriving DecidableEq, Repr

/-- What a command line asks for. -/
inductive Request where
  | run (invocation : Invocation)
  | version
  | help
  /-- Completions for a shell. -/
  | completions (shell : String)
deriving DecidableEq, Repr

/-- Why a command line is not run as it is: it is misused, or asks for something at once. -/
inductive Stop where
  | misuse
  | request (request : Request)
deriving DecidableEq, Repr

/-! ## Levels -/

/-- What an option does. -/
inductive Effect where
  /-- It is given or not. -/
  | flag
  /-- It has a value, which must be one that is accepted. -/
  | value (accepts : String → Bool)
  /-- It asks for something at once. -/
  | request (request : Request)

/-- An option. -/
structure Switch where
  short : Option Char
  long : String
  effect : Effect

/-- What may stand on a level: its options, how many free arguments, and the names that end it. -/
structure Level where
  switches : List Switch
  free : Nat := 0
  names : List String := []

/-- What was given on a level: the options by their long names, flags without a value, and the free
arguments. -/
structure Given where
  options : List (String × Option String) := []
  free : List String := []

namespace Given

/-- Whether an option was given. -/
def has (given : Given) (long : String) : Bool := (given.options.lookup long).isSome

/-- The value of an option. -/
def value? (given : Given) (long : String) : Option String := (given.options.lookup long).join

/-- Note an option, which must not have been given before. -/
def add (given : Given) (long : String) (value : Option String) : Except Stop Given :=
  if given.has long then .error .misuse
  else .ok { given with options := given.options ++ [(long, value)] }

/-- Note an option with its value, which must be accepted. -/
def addValue (given : Given) (long : String) (accepts : String → Bool) (value : String) :
    Except Stop Given :=
  if accepts value then given.add long (some value) else .error .misuse

/-- Note a free argument of a level. -/
def addFree (given : Given) (level : Level) (arg : String) : Except Stop Given :=
  if given.free.length < level.free then .ok { given with free := given.free ++ [arg] }
  else .error .misuse

end Given

/-! ## Reading a level -/

/-- An option that still needs its value. -/
structure Pending where
  long : String
  accepts : String → Bool

/-- Read an argument that starts with a long name. -/
def readLong (level : Level) (given : Given) (text : List Char) :
    Except Stop (Given × Option Pending) :=
  let name := String.ofList (text.takeWhile (· != '='))
  let attached := match text.dropWhile (· != '=') with
    | _ :: value => some (String.ofList value)
    | [] => none
  match level.switches.find? (·.long == name), attached with
  | some ⟨_, long, .value accepts⟩, some value =>
    return (← given.addValue long accepts value, none)
  | some ⟨_, long, .value accepts⟩, none => return (given, some ⟨long, accepts⟩)
  | some ⟨_, long, .flag⟩, none => return (← given.add long none, none)
  | some ⟨_, _, .request request⟩, none => .error (.request request)
  | _, _ => .error .misuse

/-- Read an argument of short names. -/
def readShort (level : Level) (given : Given) : List Char → Except Stop (Given × Option Pending)
  | [] => return (given, none)
  | c :: rest =>
    match level.switches.find? (·.short == some c), rest with
    | some ⟨_, long, .value accepts⟩, [] => return (given, some ⟨long, accepts⟩)
    | some ⟨_, long, .value accepts⟩, '=' :: value =>
      return (← given.addValue long accepts (String.ofList value), none)
    | some ⟨_, long, .value accepts⟩, value =>
      return (← given.addValue long accepts (String.ofList value), none)
    | some ⟨_, long, .flag⟩, rest => do readShort level (← given.add long none) rest
    | some ⟨_, _, .request request⟩, _ => .error (.request request)
    | none, _ => .error .misuse

/-- Read arguments that all are free. -/
def readFree (level : Level) (given : Given) (args : List String) : Except Stop Given :=
  args.foldlM (fun given arg => given.addFree level arg) given

/-- Read the arguments of a level, up to a name that ends it; that name and what follows it come
with what was given. -/
def readLevel (level : Level) :
    List String → Given → Option Pending → Except Stop (Given × Option (String × List String))
  | [], given, none => .ok (given, none)
  | [], _, some _ => .error .misuse
  | arg :: rest, given, some pending =>
    if arg.startsWith "-" && arg != "-" then .error .misuse
    else do readLevel level rest (← given.addValue pending.long pending.accepts arg) none
  | arg :: rest, given, none =>
    if level.names.contains arg then .ok (given, some (arg, rest))
    else match arg.toList with
      | ['-', '-'] => return (← readFree level given rest, none)
      | '-' :: '-' :: text => do
        let (given, pending) ← readLong level given text
        readLevel level rest given pending
      | '-' :: c :: text => do
        let (given, pending) ← readShort level given (c :: text)
        readLevel level rest given pending
      | _ => do readLevel level rest (← given.addFree level arg) none

/-! ## The levels of the program -/

/-- Whether a text can be a path. -/
def isPath (text : String) : Bool := !text.isEmpty

/-- The option for the file of settings, on every level. -/
def settingsSwitch : Switch := ⟨some 'c', "config", .value isPath⟩

/-- The option that asks for help, on every level. -/
def helpSwitch : Switch := ⟨some 'h', "help", .request .help⟩

/-- The option that names the document. -/
def inputSwitch : Switch := ⟨some 'i', "input", .value isPath⟩

/-- The level of a command with options of its own. -/
def commandLevel (own : List Switch) : Level := ⟨settingsSwitch :: helpSwitch :: own, 0, []⟩

/-- The shells that completions can be asked for. -/
def shells : List String := ["bash", "elvish", "fish", "powershell", "zsh"]

/-- The commands: the level of each, and the request that what was given on it makes. -/
def commands : List (String × Level × (String → Given → Except Stop Request)) :=
  [("validate",
      commandLevel [inputSwitch, ⟨none, "strict", .flag⟩],
      fun path given => .ok (.run ⟨path, .validate (given.value? "input") (given.has "strict")⟩)),
    ("inspect",
      commandLevel [inputSwitch,
        ⟨none, "format", .value fun name => (Format.byName.lookup name).isSome⟩,
        ⟨none, "summary", .flag⟩],
      fun path given =>
        let format := ((given.value? "format").bind (Format.byName.lookup ·)).getD .yaml
        .ok (.run ⟨path, .inspect (given.value? "input") format (given.has "summary")⟩)),
    ("init",
      commandLevel [⟨none, "force", .flag⟩],
      fun path given => .ok (.run ⟨path, .init (given.has "force")⟩)),
    ("completions",
      { commandLevel [] with free := 1 },
      fun _ given => match given.free with
        | [shell] =>
          if shells.contains shell then .ok (.completions shell) else .error .misuse
        | _ => .error .misuse)]

/-- The level in front of the command. -/
def topLevel : Level :=
  ⟨[settingsSwitch, helpSwitch, ⟨some 'V', "version", .request .version⟩], 0,
    "help" :: commands.map (·.1)⟩

/-- The request for help, perhaps with a command. -/
def helpRequest : List String → Except Stop Request
  | [] => .ok .help
  | [name] => if topLevel.names.contains name then .ok .help else .error .misuse
  | _ => .error .misuse

/-- Read a command line. The file of settings that is named last counts. -/
def readRequest (args : List String) : Except Stop Request := do
  let (outer, named) ← readLevel topLevel args {} none
  match named with
  | none => .error .misuse
  | some ("help", rest) => helpRequest rest
  | some (name, rest) =>
    match commands.lookup name with
    | none => .error .misuse
    | some (level, request) =>
      let (inner, _) ← readLevel level rest {} none
      let path := (inner.value? "config").or (outer.value? "config")
      request (path.getD usualSettingsPath) inner

/-- The request of a command line; none when it is misused. -/
def Request.ofArguments (args : List String) : Option Request :=
  match readRequest args with
  | .ok request | .error (.request request) => some request
  | .error .misuse => none

end OpenApi.Command
