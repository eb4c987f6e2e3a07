import Dialogue.CommandLine.Command

/-!
# Arguments of the command line

A command line starts with the name of a command; only the switches for verbosity, help and version
may come before it. Behind it stand options and one path in any order.

* An option's value follows as the next argument, or in the same one: `-ovalue`, `-o=value`,
  `--output=value`. An argument of its own must not start with a dash, unless it is a single dash.
* Short switches may be bundled. Two dashes end the options.
* An option must not come twice, and a path must not be empty.
* `help` stands in the place of a command, and at most the name of a command may follow it.
-/

namespace Dialogue.CommandLine

/-! ## Options -/

/-- The options that take a value. -/
inductive Opt where
  /-- The file to write. -/
  | output
  /-- The folder to write to. -/
  | folder
  /-- What the actions of probes start with. -/
  | probes
  deriving DecidableEq, Repr

/-- Empty values are refused where a path is wanted. -/
def Opt.accepts (o : Opt) (value : String) : Bool :=
  match o with
  | .output | .folder => ! value.isEmpty
  | .probes => true

/-- What an option's name stands for. -/
inductive Meaning where
  /-- An option with a value. -/
  | option (o : Opt)
  /-- The switch for more messages. -/
  | verbose
  /-- The switch for help. -/
  | help
  /-- The switch for the version. -/
  | version
  deriving DecidableEq, Repr

/-- The names that are understood at some place of the command line. -/
structure Vocabulary where
  /-- The long names. -/
  long : List (String × Meaning)
  /-- The short names. -/
  short : List (Char × Meaning)

/-- The names that are understood everywhere. -/
def Vocabulary.common : Vocabulary where
  long := [("verbose", .verbose), ("help", .help)]
  short := [('v', .verbose), ('h', .help)]

/-- The names that are understood before the command. -/
def Vocabulary.general : Vocabulary where
  long := ("version", .version) :: common.long
  short := ('V', .version) :: common.short

/-- A command without its options. -/
inductive Verb where
  /-- Makes the definition script. -/
  | definition
  /-- Makes the handler script. -/
  | handler
  /-- Makes the string table of the texts. -/
  | table
  /-- Makes the string table of the journal. -/
  | tasks
  /-- Makes everything. -/
  | everything
  deriving DecidableEq, Repr

/-- The command with the given name. -/
def Verb.ofName? : String → Option Verb
  | "lua" => some .definition
  | "handler" => some .handler
  | "stf" => some .table
  | "task-stf" => some .tasks
  | "all" => some .everything
  | _ => none

/-- The names that are understood behind a command. -/
def Verb.vocabulary (v : Verb) : Vocabulary :=
  let common := Vocabulary.common
  match v with
  | .everything =>
    ⟨("out-dir", .option .folder) :: common.long, ('o', .option .folder) :: common.short⟩
  | .handler =>
    ⟨("output", .option .output) :: ("probe-prefix", .option .probes) :: common.long,
      ('o', .option .output) :: common.short⟩
  | _ => ⟨("output", .option .output) :: common.long, ('o', .option .output) :: common.short⟩

/-! ## One argument -/

/-- What an argument amounts to. -/
inductive Item where
  /-- It changes nothing that is answered. -/
  | nothing
  /-- It asks for help. -/
  | help
  /-- It asks for the version. -/
  | version
  /-- It gives an option its value. -/
  | value (o : Opt) (value : String)
  /-- It names an option whose value follows. -/
  | awaits (o : Opt)
  /-- It ends the options. -/
  | endOfOptions
  /-- It is no option. -/
  | plain (text : String)
  /-- It is not understood. -/
  | unknown
  deriving DecidableEq, Repr

/-- What the long name of an option amounts to, with the value behind its equals sign. -/
def longItem (vocabulary : Vocabulary) (body : List Char) : Item :=
  let name := String.ofList (body.takeWhile (· != '='))
  let value := (body.dropWhile (· != '=')).tail?.map String.ofList
  match vocabulary.long.lookup name, value with
  | some (.option o), some value => .value o value
  | some (.option o), none => .awaits o
  | some .verbose, none => .nothing
  | some .help, none => .help
  | some .version, none => .version
  | _, _ => .unknown

/-- What a bundle of short names amounts to. What follows the name of an option is its value. -/
def shortItem (vocabulary : Vocabulary) : List Char → Item
  | [] => .nothing
  | c :: rest =>
    match vocabulary.short.lookup c with
    | some .verbose => shortItem vocabulary rest
    | some .help => .help
    | some .version => .version
    | some (.option o) =>
      match rest with
      | [] => .awaits o
      | '=' :: value => .value o (String.ofList value)
      | value => .value o (String.ofList value)
    | none => .unknown

/-- What an argument amounts to. -/
def itemOf (vocabulary : Vocabulary) (argument : String) : Item :=
  match argument.toList with
  | ['-', '-'] => .endOfOptions
  | '-' :: '-' :: body => longItem vocabulary body
  | '-' :: c :: rest => shortItem vocabulary (c :: rest)
  | _ => .plain argument

/-! ## The arguments behind a command -/

/-- What has been given so far. -/
structure Given where
  /-- The path of the document. -/
  document : Option String := none
  /-- The options with their values. -/
  values : List (Opt × String) := []
  deriving DecidableEq, Repr

/-- Records the value of an option, which must be the first. -/
def Given.addValue (g : Given) (o : Opt) (value : String) : Option Given :=
  if (g.values.lookup o).isSome || ! o.accepts value then none
  else some { g with values := (o, value) :: g.values }

/-- Records the path of the document, which must be the only one. -/
def Given.addDocument (g : Given) (path : String) : Option Given :=
  if g.document.isSome || path.isEmpty then none else some { g with document := some path }

/-- What a command line asks for. -/
inductive Request where
  /-- A command. -/
  | run (command : Command)
  /-- The version. -/
  | version
  /-- Help. -/
  | help
  deriving DecidableEq, Repr

/-- The request for a command with what has been given. -/
def Given.request (g : Given) (v : Verb) : Option Request :=
  g.document.map fun document => .run <|
    match v with
    | .definition => .definition document (g.values.lookup .output)
    | .handler => .handler document (g.values.lookup .output) ((g.values.lookup .probes).getD "has")
    | .table => .table document (g.values.lookup .output)
    | .tasks => .tasks document (g.values.lookup .output)
    | .everything => .everything document ((g.values.lookup .folder).getD "out")

/-- Reads the arguments behind a command. `awaited` is the option whose value comes next, and
`optionsEnded` says that two dashes have been read. -/
def readArguments (v : Verb) (g : Given) (awaited : Option Opt) (optionsEnded : Bool) :
    List String → Option Request
  | [] => if awaited.isSome then none else g.request v
  | argument :: rest =>
    if optionsEnded then do readArguments v (← g.addDocument argument) none true rest
    else
      match awaited, itemOf v.vocabulary argument with
      | some o, .plain value => do readArguments v (← g.addValue o value) none false rest
      | some _, _ => none
      | none, .plain path => do readArguments v (← g.addDocument path) none false rest
      | none, .nothing => readArguments v g none false rest
      | none, .value o value => do readArguments v (← g.addValue o value) none false rest
      | none, .awaits o => readArguments v g (some o) false rest
      | none, .endOfOptions => readArguments v g none true rest
      | none, .help => some .help
      | none, .version => some .version
      | none, .unknown => none

/-- The help for what the arguments name: the program, a command of it, or help itself. -/
def readTopic : List String → Option Request
  | [] => some .help
  | [topic] => if topic = "help" ∨ (Verb.ofName? topic).isSome then some .help else none
  | _ => none

/-- Reads a command line; none if it is not understood. -/
def Request.ofArguments : List String → Option Request
  | [] => none
  | argument :: rest =>
    match itemOf .general argument with
    | .nothing => ofArguments rest
    | .help => some .help
    | .version => some .version
    | .plain name =>
      if name = "help" then readTopic rest
      else (Verb.ofName? name).bind fun v => readArguments v {} none false rest
    | _ => none

end Dialogue.CommandLine
