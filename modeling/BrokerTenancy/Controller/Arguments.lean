/-!
The command line of the controller. Arguments are taken from left to right, and the first one that
asks for something else than a run, or that makes no sense, decides.
-/

namespace BrokerTenancy

/-- What a command line asks for. -/
inductive Invocation where
  | run (configuration : String) (logLevel : Option String)
  | version
  | help
  | misuse
  deriving DecidableEq, Repr

/-- The options that take a value; each may be given once. -/
inductive CommandOption where
  | configuration
  | logLevel
  deriving DecidableEq, Repr

/-- What a single argument says. -/
inductive Argument where
  | version
  | help
  | awaiting (option : CommandOption)
  | attached (option : CommandOption) (value : String)
  | endOfOptions
  | unknown
  deriving DecidableEq, Repr

namespace Argument

/-- An option by its long name. -/
def ofLongName (name : List Char) (value : Option (List Char)) : Argument :=
  let option (option : CommandOption) : Argument :=
    match value with
    | none => .awaiting option
    | some value => .attached option (String.ofList value)
  if name = "config".toList then option .configuration
  else if name = "log-level".toList then option .logLevel
  else if name = "version".toList ∧ value.isNone then .version
  else if name = "help".toList ∧ value.isNone then .help
  else .unknown

def ofText (text : String) : Argument :=
  match text.toList with
  | ['-', '-'] => .endOfOptions
  | '-' :: '-' :: rest =>
      match rest.span (· != '=') with
      | (name, []) => ofLongName name none
      | (name, _ :: value) => ofLongName name (some value)
  | '-' :: 'V' :: _ => .version
  | '-' :: 'h' :: _ => .help
  | _ => .unknown

end Argument

namespace Invocation

/-- The values that options have been given. -/
structure Given where
  configuration : Option String := none
  logLevel : Option String := none

namespace Given

/-- Gives an option its value, unless it has one. -/
def set (given : Given) (option : CommandOption) (value : String) : Option Given :=
  match option, given with
  | .configuration, { configuration := none, .. } =>
      some { given with configuration := some value }
  | .logLevel, { logLevel := none, .. } => some { given with logLevel := some value }
  | _, _ => none

/-- Where the configuration is if no option tells. -/
def standardConfiguration : String := "config/nsplane.toml"

def invocation (given : Given) : Invocation :=
  .run (given.configuration.getD standardConfiguration) given.logLevel

end Given

/-- Whether an argument may be the value of the option before it: it does not begin like one. -/
def isValue (text : String) : Bool :=
  match text.toList with
  | ['-'] => true
  | '-' :: _ => false
  | _ => true

def ofArgumentsWith (given : Given) : List String → Invocation
  | [] => given.invocation
  | text :: rest =>
      match Argument.ofText text, rest with
      | .version, _ => .version
      | .help, _ => .help
      | .attached option value, rest =>
          match given.set option value with
          | some given => ofArgumentsWith given rest
          | none => .misuse
      | .awaiting option, value :: rest =>
          match isValue value, given.set option value with
          | true, some given => ofArgumentsWith given rest
          | _, _ => .misuse
      | .endOfOptions, [] => given.invocation
      | _, _ => .misuse

/-- What the arguments of a command line ask for. -/
def ofArguments (arguments : List String) : Invocation := ofArgumentsWith {} arguments

end Invocation

end BrokerTenancy
