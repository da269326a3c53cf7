/-
# ProgramSearch.CommandLine.Arguments -- what is asked for on a command line

A command line has a command and its options. Options stand anywhere after the command, as
`--name value` or `--name=value`, or as `--name` alone if they are switches; each may be given once,
and after two dashes nothing is an option. `--verbose` may be given before the command as well. All
else is a usage error: unknown options, missing or superfluous arguments, values that cannot be
read.
-/

import ProgramSearch.Catalog
import ProgramSearch.OrderSource
import ProgramSearch.Search.Limits

namespace ProgramSearch.CommandLine

/-! ## Requests -/

/-- How the catalog of a command is put together. -/
structure CatalogOptions where
  /-- Where the order of the operators comes from. -/
  order : OrderSource
  /-- How many operators to keep; minus one for all. -/
  cutoff : Int
  /-- Whether an access outside an array is no error. -/
  accessSentinel : Bool
  /-- Whether the operators on single integers are in the catalog. -/
  withIntOps : Bool
  deriving DecidableEq, Repr

/-- The options of a search. -/
structure SearchOptions where
  directory : String
  /-- The first problem to search. -/
  problem : Nat
  /-- The number of problems to search, one after the other. -/
  problemCount : Nat
  /-- The number of examples of each problem. -/
  examples : Nat
  limits : Limits
  catalog : CatalogOptions
  deriving DecidableEq, Repr

/-- The options of a listing of operators. -/
structure ListingOptions where
  directory : Option String
  /-- The problem whose predicted prior is meant. -/
  problem : Nat
  catalog : CatalogOptions
  deriving DecidableEq, Repr

/-- What a command line asks for. -/
inductive Request where
  /-- To say which version this is. -/
  | version
  /-- To say how a command line is written. -/
  | help
  /-- To search programs for one or more problems. -/
  | search (verbose : Bool) (options : SearchOptions)
  /-- To list the operators of a catalog. -/
  | listing (options : ListingOptions)
  deriving DecidableEq, Repr

/-- Why a command line cannot be read. -/
inductive UsageError where
  | missingCommand
  | unknownCommand (name : String)
  | unknownOption (text : String)
  | repeatedOption (name : String)
  | missingValue (option : String)
  | unexpectedValue (option : String)
  | invalidValue (option value : String)
  | missingDirectory
  | unexpectedArgument (text : String)
  deriving DecidableEq, Repr

/-- The wording of a usage error. -/
def UsageError.message : UsageError → String
  | missingCommand => "a command is needed: search or ops"
  | unknownCommand name => "there is no command '" ++ name ++ "'"
  | unknownOption text => "there is no option '" ++ text ++ "'"
  | repeatedOption name => "the option '" ++ name ++ "' is given twice"
  | missingValue option => "the option '" ++ option ++ "' needs a value"
  | unexpectedValue option => "the option '" ++ option ++ "' takes no value"
  | invalidValue option value => "the option '" ++ option ++ "' cannot be '" ++ value ++ "'"
  | missingDirectory => "a data directory is needed"
  | unexpectedArgument text => "the argument '" ++ text ++ "' is not expected"

/-! ## Options -/

/-- What one option says. -/
inductive Setting where
  | verbose
  | problem (n : Nat)
  | problemCount (n : Nat)
  | examples (n : Nat)
  | maxLength (n : Nat)
  | nodeLimit (n : Nat)
  | timeout (n : Nat)
  | order (source : OrderSource)
  | cutoff (n : Int)
  | accessSentinel
  | withIntOps
  deriving DecidableEq, Repr

namespace Setting

/-- A setting with a number of 64 bits. -/
def ofNumber? (make : Nat → Setting) (value : String) : Option Setting :=
  (Numeral.unsigned? (Nat.pow 2 64) value.toList).map make

/-- A setting with the name of an order. -/
def ofOrder? (value : String) : Option Setting := (OrderSource.ofText value).toOption.map order

/-- A setting with a cutoff, which is no less than minus one. -/
def ofCutoff? (value : String) : Option Setting :=
  ((Numeral.signed? 64 value.toList).filter (-1 ≤ ·)).map cutoff

end Setting

/-- What an option needs. -/
inductive OptionKind where
  /-- Nothing. -/
  | switch (setting : Setting)
  /-- A value. One that begins with a dash and is an argument of its own is accepted only if the
  option is `signed` and the value looks like a number. -/
  | value (signed : Bool) (read : String → Option Setting)

/-- An option whose value is a number of 64 bits. -/
def OptionKind.number (make : Nat → Setting) : OptionKind := .value false (Setting.ofNumber? make)

/-- Whether an argument can be the value of the option before it. -/
def canFollow (signed : Bool) (arg : String) : Bool :=
  match arg.toList with
  | '-' :: c :: _ => signed && c.isDigit
  | _ => true

/-- The options that both commands have. -/
def commonKinds : List (String × OptionKind) :=
  [("verbose", .switch .verbose), ("problem", .number .problem),
    ("ordering", .value false Setting.ofOrder?), ("cutoff", .value true Setting.ofCutoff?),
    ("access-sentinel", .switch .accessSentinel), ("with-int-ops", .switch .withIntOps)]

/-- The options of a search. -/
def searchKinds : List (String × OptionKind) :=
  commonKinds ++ [("num-problems", .number .problemCount), ("examples", .number .examples),
    ("max-length", .number .maxLength), ("node-limit", .number .nodeLimit),
    ("timeout", .number .timeout)]

/-! ## Splitting arguments into options -/

/-- What was given to a command. -/
structure Given where
  /-- The options by name, with what they say, the last first. -/
  options : List (String × Setting)
  /-- The argument that is no option. -/
  directory : Option String
  deriving Repr

namespace Given

/-- Nothing given. -/
def nothing : Given := ⟨[], none⟩

/-- One more option, which must not have been given before. -/
def addOption (given : Given) (name : String) (setting : Setting) : Except UsageError Given :=
  if given.options.any (·.1 == name) then throw (.repeatedOption name)
  else return { given with options := (name, setting) :: given.options }

/-- One more option with a value, which must be one that the option can have. -/
def addValue (given : Given) (name : String) (read : String → Option Setting) (value : String) :
    Except UsageError Given :=
  match read value with
  | some setting => given.addOption name setting
  | none => throw (.invalidValue ("--" ++ name) value)

/-- One more argument that is no option; there can be one, and it must not be empty. -/
def addArgument (given : Given) (arg : String) : Except UsageError Given :=
  match given.directory with
  | some _ => throw (.unexpectedArgument arg)
  | none =>
    if arg.isEmpty then throw .missingDirectory else return { given with directory := some arg }

/-- What the options say. -/
def settings (given : Given) : List Setting := given.options.map (·.2)

end Given

/-- An argument that begins with two dashes, as the name of an option and the value after an equals
sign, if there is one. -/
def longOption? (arg : String) : Option (String × Option String) :=
  match arg.toList with
  | '-' :: '-' :: cs =>
    match cs.span (· != '=') with
    | (name, []) => some (String.ofList name, none)
    | (name, _ :: value) => some (String.ofList name, some (String.ofList value))
  | _ => none

/-- The letters of an argument that begins with one dash. -/
def shortOptions? (arg : String) : Option (List Char) :=
  match arg.toList with
  | '-' :: '-' :: _ => none
  | '-' :: c :: cs => some (c :: cs)
  | _ => none

/-- What the arguments of a command come to, or that they ask for help. -/
inductive Split where
  | help
  | given (given : Given)

/-- The switches among the letters after one dash; `none` is a request for help. -/
def splitLetters (given : Given) : List Char → Except UsageError (Option Given)
  | [] => return some given
  | 'v' :: cs => do splitLetters (← given.addOption "verbose" .verbose) cs
  | 'h' :: _ => return none
  | c :: _ => throw (.unknownOption (String.ofList ['-', c]))

/-- Splits the arguments of a command, with options of the names and kinds given. The arguments are
read from left to right, and the first that is a request for help or cannot be read decides. -/
def split (kinds : List (String × OptionKind)) (given : Given) :
    List String → Except UsageError Split
  | [] => return .given given
  | "--" :: rest => return .given (← rest.foldlM Given.addArgument given)
  | arg :: rest =>
    match longOption? arg, shortOptions? arg with
    | some ("help", none), _ => return .help
    | some (name, value), _ =>
      match kinds.lookup name, value, rest with
      | none, _, _ => throw (.unknownOption ("--" ++ name))
      | some (.switch setting), none, rest => do
        split kinds (← given.addOption name setting) rest
      | some (.switch _), some _, _ => throw (.unexpectedValue ("--" ++ name))
      | some (.value _ read), some value, rest => do
        split kinds (← given.addValue name read value) rest
      | some (.value _ _), none, [] => throw (.missingValue ("--" ++ name))
      | some (.value signed read), none, value :: rest => do
        if canFollow signed value then split kinds (← given.addValue name read value) rest
        else throw (.missingValue ("--" ++ name))
    | none, some letters => do
      match ← splitLetters given letters with
      | some given => split kinds given rest
      | none => return .help
    | none, none => do split kinds (← given.addArgument arg) rest

/-! ## Options of a command -/

/-- Unless told otherwise a catalog is ordered by the prior and not cut. -/
def CatalogOptions.standard : CatalogOptions := ⟨.prior, -1, false, false⟩

/-- The options with one setting changed; settings that do not concern a catalog change nothing. -/
def CatalogOptions.set (options : CatalogOptions) : Setting → CatalogOptions
  | .order source => { options with order := source }
  | .cutoff n => { options with cutoff := n }
  | .accessSentinel => { options with accessSentinel := true }
  | .withIntOps => { options with withIntOps := true }
  | _ => options

/-- Unless told otherwise a search is for one problem, the first, with five examples. -/
def SearchOptions.standard (directory : String) : SearchOptions :=
  ⟨directory, 0, 1, 5, .standard, .standard⟩

/-- The options with one setting changed. -/
def SearchOptions.set (options : SearchOptions) : Setting → SearchOptions
  | .problem n => { options with problem := n }
  | .problemCount n => { options with problemCount := n }
  | .examples n => { options with examples := n }
  | .maxLength n => { options with limits := { options.limits with maxLength := n } }
  | .nodeLimit n =>
    { options with limits.budget := { options.limits.budget with nodeLimit := some n } }
  | .timeout n =>
    { options with limits.budget := { options.limits.budget with timeout := some n } }
  | setting => { options with catalog := options.catalog.set setting }

/-- Unless told otherwise a listing is for the first problem. -/
def ListingOptions.standard (directory : Option String) : ListingOptions :=
  ⟨directory, 0, .standard⟩

/-- The options with one setting changed. -/
def ListingOptions.set (options : ListingOptions) : Setting → ListingOptions
  | .problem n => { options with problem := n }
  | setting => { options with catalog := options.catalog.set setting }

/-! ## Command lines -/

/-- The names of the commands. -/
def commandNames : List String := ["search", "ops", "help"]

/-- What a request for help comes to that names what help is wanted on: a command at most. -/
def readHelp : List String → Except UsageError Request
  | [] => return .help
  | name :: rest =>
    if !commandNames.contains name then throw (.unknownCommand name)
    else match rest with
      | [] => return .help
      | name :: _ => throw (.unknownCommand name)

/-- What a command asks for with its arguments. -/
def readCommand (verbose : Bool) (name : String) (args : List String) :
    Except UsageError Request := do
  match name with
  | "search" =>
    match ← split searchKinds .nothing args with
    | .help => return .help
    | .given given => match given.directory with
      | none => throw .missingDirectory
      | some directory =>
        return .search (verbose || given.settings.contains .verbose)
          (given.settings.foldl .set (.standard directory))
  | "ops" =>
    match ← split commonKinds .nothing args with
    | .help => return .help
    | .given given => return .listing (given.settings.foldl .set (.standard given.directory))
  | "help" => readHelp args
  | name => throw (.unknownCommand name)

/-- What the letters after one dash ask for before the command: whether the output is to be verbose,
or a request of their own. -/
def readLetters (verbose : Bool) : List Char → Except UsageError (Bool ⊕ Request)
  | [] => return .inl verbose
  | 'v' :: cs => if verbose then throw (.repeatedOption "verbose") else readLetters true cs
  | 'h' :: _ => return .inr .help
  | 'V' :: _ => return .inr .version
  | c :: _ => throw (.unknownOption (String.ofList ['-', c]))

/-- What a command line asks for, when the options before the command have been read so far. -/
def readFrom (verbose : Bool) : List String → Except UsageError Request
  | [] => throw .missingCommand
  | "--" :: rest => throw (rest.head?.elim .missingCommand .unexpectedArgument)
  | arg :: rest =>
    match longOption? arg, shortOptions? arg with
    | some ("version", none), _ => return .version
    | some ("help", none), _ => return .help
    | some ("verbose", none), _ =>
      if verbose then throw (.repeatedOption "verbose") else readFrom true rest
    | some (name, _), _ => throw (.unknownOption ("--" ++ name))
    | none, some letters => do
      match ← readLetters verbose letters with
      | .inl verbose => readFrom verbose rest
      | .inr request => return request
    | none, none => readCommand verbose arg rest

/-- What a command line asks for. -/
def Request.ofArguments (args : List String) : Except UsageError Request := readFrom false args

end ProgramSearch.CommandLine
