import MissionConsole.Decimal.Numeral
import MissionConsole.Profile
import MissionConsole.Text.Split

/-!
# Command-line options

An argument that starts with two dashes names an option, in full or by an unambiguous beginning; a
value follows as the next argument or behind an equals sign. Two dashes behind the equals sign are
dropped, which leaves the option without a value. The arguments are first all classified, which
finds ambiguous beginnings, and then carried out from left to right.

## Main definitions

* `Flag` — the options that exist
* `Options` — what the options say
* `Argument.classify` — an argument as an option or a value
* `Options.parse` — the options of a command line
-/

namespace MissionConsole

/-- The options that exist. -/
inductive Flag where
  | help
  | host
  | port
  | user
  | password
  | openAccess
  | profile
  | localShell
  | noRemote
  | dashboard
  | dashboardPort
  deriving DecidableEq, Inhabited

namespace Flag

/-- The names of all options, in the order in which they are searched. -/
def names : List (String × Flag) :=
  [("-h", .help), ("--help", .help), ("--host", .host), ("--port", .port), ("--user", .user),
    ("--pass", .password), ("--open", .openAccess), ("--profile", .profile),
    ("--local", .localShell), ("--no-ssh", .noRemote), ("--dashboard", .dashboard),
    ("--dashboard-port", .dashboardPort)]

/-- Whether an option takes a value. -/
def takesValue : Flag → Bool
  | .host | .port | .user | .password | .profile | .dashboardPort => true
  | _ => false

/-- An option as messages name it. -/
def title (f : Flag) : String :=
  "/".intercalate ((names.filter (·.2 == f)).map (·.1))

/-- The option of a name. -/
def ofName? (name : String) : Option Flag := (names.find? (·.1 == name)).map (·.2)

end Flag

/-- What the options say. An option that was left without a value has none here. -/
structure Options where
  host : Option String
  port : Option Int
  user : Option String
  password : Option String
  /-- Let every remote visitor in. -/
  openAccess : Bool
  profile : Option String
  localShell : Bool
  noRemote : Bool
  dashboard : Bool
  dashboardPort : Option Int
  deriving DecidableEq, Inhabited

/-- Why a command line is not carried out. -/
inductive UsageError where
  | ambiguous (argument : String) (names : List String)
  | missingValue (flag : Flag)
  | ignoredValue (flag : Flag) (value : String)
  | notWhole (flag : Flag) (value : String)
  | invalidChoice (flag : Flag) (value : String) (choices : List String)
  | unrecognized (arguments : List String)
  | nothingToRun
  deriving Inhabited

/-- The wording of a usage error. -/
def UsageError.message : UsageError → String
  | .ambiguous argument names =>
    "ambiguous option: " ++ argument ++ " could match " ++ ", ".intercalate names
  | .missingValue flag => "argument " ++ flag.title ++ ": expected one argument"
  | .ignoredValue flag value =>
    "argument " ++ flag.title ++ ": ignored explicit argument " ++ Text.quoted value
  | .notWhole flag value =>
    "argument " ++ flag.title ++ ": invalid int value: " ++ Text.quoted value
  | .invalidChoice flag value choices =>
    "argument " ++ flag.title ++ ": invalid choice: " ++ Text.quoted value ++ " (choose from " ++
      ", ".intercalate (choices.map Text.quoted) ++ ")"
  | .unrecognized arguments => "unrecognized arguments: " ++ " ".intercalate arguments
  | .nothingToRun => "nothing to run: use --local, --dashboard or drop --no-ssh"

/-! ### Classifying arguments -/

/-- What an argument is taken as. -/
inductive Argument where
  | value (text : String)
  /-- An option, perhaps with a value behind an equals sign. -/
  | option (flag : Flag) (attached : Option String)
  /-- A short option with more text behind it, perhaps after an equals sign. -/
  | cluster (flag : Flag) (rest : String)
  /-- It looks like an option, but there is none of this name. -/
  | unknown (text : String)
  /-- Two dashes alone: all that follows is values. -/
  | separator
  deriving Inhabited

namespace Argument

/-- A negative number is a value: digits of any script, with a point or without. A line feed may
end it. -/
def isNegativeNumber (s : String) : Bool :=
  let isDigit (c : Char) : Bool := (Text.digitValue? c).isSome
  match s.toList with
  | '-' :: body =>
    let digits := if body.getLast? = some '\n' then body.dropLast else body
    match digits.dropWhile isDigit with
    | [] => !digits.isEmpty
    | '.' :: places => !places.isEmpty && places.all isDigit
    | _ => false
  | _ => false

/-- The options that an argument may stand for when it is no full name. -/
def candidates (s : String) : List (String × Argument) :=
  if Text.startsWith s "--" then
    let (start, attached) := match Text.cutAt '=' s with
      | some (start, given) => (start, some given)
      | none => (s, none)
    (Flag.names.filter fun n => Text.startsWith n.1 start).map fun n => (n.1, .option n.2 attached)
  else
    let short := String.ofList (s.toList.take 2)
    let rest := String.ofList (s.toList.drop 2)
    Flag.names.filterMap fun n =>
      if n.1 == short then some (n.1, .cluster n.2 rest)
      else if Text.startsWith n.1 s then some (n.1, .option n.2 none)
      else none

/-- An argument that starts with a dash and is neither a full name nor a single dash. -/
def classifyDashed (s : String) : Except UsageError Argument :=
  match candidates s with
  | [(_, a)] => .ok a
  | [] =>
    if isNegativeNumber s || s.toList.contains ' ' then .ok (.value s) else .ok (.unknown s)
  | several => .error (.ambiguous s (several.map (·.1)))

/-- What an argument is taken as. -/
def classify (s : String) : Except UsageError Argument :=
  if !Text.startsWith s "-" then .ok (.value s)
  else
    match Flag.ofName? s with
    | some f => .ok (.option f none)
    | none =>
      if s = "-" then .ok (.value s)
      else
        match Text.cutAt '=' s with
        | some (name, given) =>
          match Flag.ofName? name with
          | some f =>
            .ok (if Text.startsWith name "--" then .option f (some given) else .cluster f given)
          | none => classifyDashed s
        | none => classifyDashed s

/-- All arguments classified. After the separator there are values only. -/
def classifyAll : List String → Except UsageError (List Argument)
  | [] => .ok []
  | s :: rest =>
    if s = "--" then .ok (.separator :: rest.map .value)
    else do
      let a ← classify s
      return a :: (← classifyAll rest)

/-- The text of an argument that nobody asked for. -/
def text : Argument → String
  | .value s => s
  | .unknown s => s
  | .separator => "--"
  | .option f _ => f.title
  | .cluster f _ => f.title

end Argument

/-! ### Carrying options out -/

/-- What a command line asks for. -/
inductive Request where
  | run (options : Options)
  | help
  deriving Inhabited

namespace Options

/-- The options when the command line is empty. -/
def standard (s : Settings) : Options where
  host := some s.bindHost
  port := some s.bindPort
  user := some s.authUser
  password := some s.authPass
  openAccess := false
  profile := some s.defaultProfile
  localShell := false
  noRemote := false
  dashboard := false
  dashboardPort := some s.dashboardPort

/-- The profiles to choose from. -/
def choices : List String := ["briefing", "map"]

/-- A whole number as the value of an option. -/
def whole (flag : Flag) (value : String) : Except UsageError Int :=
  match Numeral.int value with
  | .ok n => .ok n
  | .error _ => .error (.notWhole flag value)

/-- Sets an option that takes a value. -/
def setValue (o : Options) (flag : Flag) (value : String) : Except UsageError Options :=
  match flag with
  | .host => .ok { o with host := some value }
  | .port => (whole flag value).map fun n => { o with port := some n }
  | .user => .ok { o with user := some value }
  | .password => .ok { o with password := some value }
  | .profile =>
    if choices.contains value then .ok { o with profile := some value }
    else .error (.invalidChoice flag value choices)
  | .dashboardPort => (whole flag value).map fun n => { o with dashboardPort := some n }
  | _ => .ok o

/-- Leaves an option that takes a value without one. -/
def clearValue (o : Options) : Flag → Options
  | .host => { o with host := none }
  | .port => { o with port := none }
  | .user => { o with user := none }
  | .password => { o with password := none }
  | .profile => { o with profile := none }
  | .dashboardPort => { o with dashboardPort := none }
  | _ => o

/-- Sets an option that takes a value to the text behind the equals sign, where two dashes count
for nothing. -/
def setAttached (o : Options) (flag : Flag) (text : String) : Except UsageError Options :=
  if text = "--" then .ok (o.clearValue flag) else o.setValue flag text

/-- Sets an option that takes no value. -/
def set (o : Options) : Flag → Options
  | .openAccess => { o with openAccess := true }
  | .localShell => { o with localShell := true }
  | .noRemote => { o with noRemote := true }
  | .dashboard => { o with dashboard := true }
  | _ => o

/-- The text behind the short option for help: the letter may be repeated, and any other text is one
that the option does not take. -/
def helpCluster : List Char → Except UsageError Request
  | ['h'] => .ok .help
  | 'h' :: rest => helpCluster rest
  | other => .error (.ignoredValue .help (String.ofList other))

/-- Carries arguments out from left to right. Help ends the matter at once; arguments that nobody
asked for are collected and refused in the end. -/
def parseFrom (o : Options) (extras : List String) : List Argument → Except UsageError Request
  | [] => if extras.isEmpty then .ok (.run o) else .error (.unrecognized extras)
  | .option flag attached :: rest =>
    if flag.takesValue then
      match attached, rest with
      | some text, rest => do parseFrom (← o.setAttached flag text) extras rest
      | none, .value value :: rest => do parseFrom (← o.setValue flag value) extras rest
      | none, _ => .error (.missingValue flag)
    else
      match attached with
      | some value => .error (.ignoredValue flag value)
      | none => if flag = .help then .ok .help else parseFrom (o.set flag) extras rest
  | .cluster _ letters :: _ => helpCluster letters.toList
  | other :: rest => parseFrom o (extras ++ [other.text]) rest

/-- The options of a command line. -/
def parse (s : Settings) (arguments : List String) : Except UsageError Request := do
  parseFrom (standard s) [] (← Argument.classifyAll arguments)

end Options

end MissionConsole
