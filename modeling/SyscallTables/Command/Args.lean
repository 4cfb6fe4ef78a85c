import SyscallTables.Text.Similarity

namespace SyscallTables.Command

/-! The command line: `sysgen [--memprofile <PATH>]`, with `-h`/`--help` and `-V`/`--version`.
Arguments are read left to right and the first problem ends the reading. The option takes its
value attached (`--memprofile=P`) or from the next argument, unless that argument is a flag.
An occurrence of the option that takes its value from the next argument is checked only when
the next flag is read or at the end: without a value it is refused, so `--memprofile --help`
asks for a value. A help or version request is answered at once; a positional argument or an
unknown flag is refused, and a long flag close to a known one gets a suggestion; the option
may be given once, with a value that is not empty. A refusal shows a usage line naming the
flags given so far, or `[OPTIONS]`; a value attached to a flag that takes none is shown with
that flag and, once the option was given, the group of the options. -/

/-- What the command line asks for. -/
inductive Request
  | run (memprofile : Option String)
  | help
  | version
  /-- A refused command line, with the message for standard error. -/
  | refuse (message : String)
  deriving DecidableEq, Repr

/-- The program's name and version. -/
def versionText : String := "sysgen 0.1.0\n"

/-- The help text. -/
def helpText : String :=
  "Generate syscall data definitions and executor syscall tables\n\n" ++
  "Usage: sysgen [OPTIONS]\n\n" ++
  "Options:\n" ++
  "      --memprofile <PATH>  Write a heap profile to this file when the run ends\n" ++
  "  -h, --help               Print help\n" ++
  "  -V, --version            Print version\n"

/-- The flags of the command line. -/
inductive Flag
  | memprofile
  | help
  | version
  deriving DecidableEq, Repr

namespace Flag

/-- The flags, in the order suggestions prefer them least to most. -/
def all : List Flag := [.memprofile, .help, .version]

/-- The long name of a flag. -/
def long : Flag → String
  | .memprofile => "memprofile"
  | .help => "help"
  | .version => "version"

/-- How a flag shows in a usage line and in messages. -/
def shown : Flag → String
  | .memprofile => "--memprofile <PATH>"
  | f => "--" ++ f.long

/-- The flag of a long name. -/
def ofLong? (name : String) : Option Flag := all.find? (·.long == name)

end Flag

/-- How the group of the options shows in a usage line. -/
def optionGroup : String := "<" ++ Flag.memprofile.shown ++ ">"

/-- The usage line for some flags and, when `grouped`, the group of the options after them;
with neither it shows `[OPTIONS]`. -/
def usageLine (named : List Flag) (grouped : Bool) : String :=
  let parts := named.map Flag.shown ++ (if grouped then [optionGroup] else [])
  "Usage: sysgen " ++ (if parts.isEmpty then "[OPTIONS]" else " ".intercalate parts)

/-- A refusal: the message, a tip, the usage line, and where to learn more. -/
def refusal (message : String) (tip : Option String) (usage : String) : String :=
  "error: " ++ message ++ "\n\n" ++ (tip.map (fun t => "  tip: " ++ t ++ "\n\n")).getD "" ++
    usage ++ "\n\nFor more information, try '--help'.\n"

/-- The refusal of a missing or empty option value; it shows no usage line. -/
def missingValue : String :=
  "error: a value is required for '" ++ Flag.memprofile.shown ++ "' but none was supplied\n\n" ++
    "For more information, try '--help'.\n"

/-- The known flag most similar to a long name, if any is similar enough; of equally similar
ones the later wins. -/
def suggestion (name : String) : Option Flag :=
  Flag.all.foldl (fun best flag =>
    if !Text.isSimilar name flag.long then best
    else match best with
      | some b => if Text.jaro name flag.long ≥ Text.jaro name b.long then some flag else some b
      | none => some flag) none

/-- The refusal of an unexpected argument, with the flag suggested for it. -/
def unexpected (arg : String) (suggested : Option Flag) (used : List Flag) : String :=
  refusal ("unexpected argument '" ++ arg ++ "' found")
    (suggested.map fun f => "a similar argument exists: '--" ++ f.long ++ "'") (usageLine used false)

/-- The refusal of the option given twice. -/
def givenTwice : String :=
  refusal ("the argument '" ++ Flag.memprofile.shown ++ "' cannot be used multiple times") none
    (usageLine [] false)

/-- The refusal of a value attached to a flag that takes none; the usage line names the flag,
then the group of the options if the option was given. -/
def unneededValue (value : String) (f : Flag) (given : Bool) : String :=
  refusal ("unexpected value '" ++ value ++ "' for '" ++ f.shown ++ "' found; no more were expected")
    none (usageLine [f] given)

/-- What has been read of the command line so far. -/
structure Reading where
  /-- Whether the option has been given; its value may still be missing. -/
  given : Bool := false
  /-- The option's value. -/
  value : Option String := none
  /-- An occurrence of the option not yet checked, with the values gathered for it. -/
  pending : Option (List String) := none
  /-- Whether the flag read last still takes its value from the next argument. -/
  awaiting : Bool := false
  /-- Whether `--` was read, after which every argument is positional. -/
  escaped : Bool := false
  deriving DecidableEq, Repr

/-- What reading one argument leads to. -/
inductive Step
  | next (r : Reading)
  | stop (request : Request)

namespace Reading

/-- The flags given so far, as a usage line names them. -/
def used (r : Reading) : List Flag := if r.given then [.memprofile] else []

/-- Checks the pending occurrence of the option: one without a value is refused, a second
occurrence is refused (and the first is forgotten), an empty value is refused (the option
counts as given). -/
def settle (r : Reading) : Reading × Option String :=
  match r.pending with
  | none => (r, none)
  | some values =>
    let r := { r with pending := none }
    match values with
    | [] => (r, some missingValue)
    | v :: _ =>
      if r.given then ({ r with given := false, value := none }, some givenTwice)
      else
        let r := { r with given := true }
        if v.isEmpty then (r, some missingValue) else ({ r with value := some v }, none)

/-- Answers a help or version flag once the pending occurrence is settled. -/
def answer (r : Reading) (request : Request) : Step :=
  match r.settle with
  | (_, some e) => .stop (.refuse e)
  | (_, none) => .stop request

/-- Reads a cluster of short flags. -/
def shorts (r : Reading) : List Char → Step
  | [] => .next r
  | 'h' :: _ => r.answer .help
  | 'V' :: _ => r.answer .version
  | c :: _ => .stop (.refuse (unexpected ("-" ++ c.toString) none []))

/-- Reads a long flag with the value attached to it, if any. -/
def longFlag (r : Reading) (name : String) (attached : Option String) : Step :=
  match Flag.ofLong? name, attached with
  | some .memprofile, some v =>
    match r.settle with
    | (_, some e) => .stop (.refuse e)
    | (r, none) =>
      if r.given then .stop (.refuse givenTwice)
      else if v.isEmpty then .stop (.refuse missingValue)
      else .next { r with given := true, value := some v, awaiting := false }
  | some .memprofile, none =>
    match r.settle with
    | (_, some e) => .stop (.refuse e)
    | (r, none) => .next { r with pending := some [], awaiting := true }
  | some f, some v => .stop (.refuse (unneededValue v f r.given))
  | some f, none => r.answer (if f = .help then .help else .version)
  | none, _ =>
    let r := r.settle.1
    let tip := suggestion name
    let used := match tip with
      | some f => if r.used.contains f then r.used else r.used ++ [f]
      | none => r.used
    .stop (.refuse (unexpected ("--" ++ name) tip used))

/-- Reads one argument. -/
def step (r : Reading) (arg : String) : Step :=
  if r.escaped then .stop (.refuse (unexpected arg none []))
  else if arg = "--" then
    match r.settle with
    | (_, some e) => .stop (.refuse e)
    | (r, none) => .next { r with escaped := true, awaiting := false }
  else if arg.startsWith "--" then
    match (arg.drop 2).toString.splitOn "=" with
    | name :: v :: more => r.longFlag name (some ("=".intercalate (v :: more)))
    | _ => r.longFlag (arg.drop 2).toString none
  else if arg.startsWith "-" && arg != "-" then r.shorts (arg.drop 1).toString.toList
  else if r.awaiting then
    .next { r with pending := some (r.pending.getD [] ++ [arg]), awaiting := false }
  else .stop (.refuse (unexpected arg none []))

/-- The request once every argument is read and the pending occurrence is settled. -/
def finish (r : Reading) : Request :=
  match r.settle with
  | (_, some e) => .refuse e
  | (r, none) => .run r.value

end Reading

/-- Reads the arguments in order. -/
def readArgs (r : Reading) : List String → Request
  | [] => r.finish
  | arg :: rest =>
    match r.step arg with
    | .next r => readArgs r rest
    | .stop request => request

/-- What a command line asks for. -/
def Request.ofArgs (args : List String) : Request := readArgs {} args

end SyscallTables.Command
