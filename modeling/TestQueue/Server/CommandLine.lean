import TestQueue.Config.Reader

/-!
The command line of the server. What is not given there may be given in the environment.
-/

namespace TestQueue

open Net (SocketAddress)

structure LaunchOptions where
  config : Option String
  /-- Comes before the address in the configuration. -/
  listen : Option SocketAddress
  logJson : Option Bool
  deriving DecidableEq

inductive LaunchFailure where
  | help
  | misuse
  | config (reason : ConfigError)
  | address
  deriving DecidableEq

namespace LaunchFailure

def exitCode : LaunchFailure → UInt32
  | help => 0
  | config _ | address => 1
  | misuse => 2

def message? : LaunchFailure → Option String
  | config reason => reason.message?
  | _ => none

end LaunchFailure

namespace LaunchOptions

def unset : LaunchOptions := ⟨none, none, none⟩

def setConfig? (o : LaunchOptions) (value : String) : Option LaunchOptions :=
  if o.config.isSome || value.isEmpty then none else some { o with config := some value }

def setListen? (o : LaunchOptions) (value : String) : Option LaunchOptions :=
  if o.listen.isSome then none
  else (SocketAddress.ofText? value).map fun address => { o with listen := some address }

def setLogJson? (o : LaunchOptions) (value : String) : Option LaunchOptions :=
  if o.logJson.isSome then none
  else
    match value with
    | "true" => some { o with logJson := some true }
    | "false" => some { o with logJson := some false }
    | _ => none

def set? (o : LaunchOptions) (name value : List Char) : Option LaunchOptions :=
  match String.ofList name with
  | "--config" => o.setConfig? (String.ofList value)
  | "--listen" => o.setListen? (String.ofList value)
  | _ => none

inductive Argument where
  | endOfOptions
  | help
  | logJson
  | assigned (name value : List Char)
  | named (name : List Char)
  | unknown
  deriving DecidableEq

def takesValue (name : List Char) : Bool :=
  name = "--config".toList || name = "--listen".toList

namespace Argument

def ofText (text : String) : Argument :=
  let s := text.toList
  let name := s.takeWhile (· ≠ '=')
  match text, s.dropWhile (· ≠ '=') with
  | "--", _ => endOfOptions
  | "--help", _ => help
  | "--log-json", _ => logJson
  | _, '=' :: value => if takesValue name then assigned name value
    else if s.take 2 = ['-', 'h'] then help else unknown
  | _, _ => if takesValue name then named name
    else if s.take 2 = ['-', 'h'] then help else unknown

end Argument

/-- An argument that looks like an option is not a value; a hyphen alone is. -/
def isValue (text : String) : Bool := text = "-" || text.toList.head? ≠ some '-'

def ofArguments (o : LaunchOptions) : List String → Except LaunchFailure LaunchOptions
  | [] => .ok o
  | text :: rest =>
    match Argument.ofText text, rest with
    | .endOfOptions, [] => .ok o
    | .help, _ => .error .help
    | .logJson, rest =>
      match o.setLogJson? "true" with
      | some o => ofArguments o rest
      | none => .error .misuse
    | .assigned name value, rest =>
      match o.set? name value with
      | some o => ofArguments o rest
      | none => .error .misuse
    | .named name, value :: rest =>
      match (if isValue value then o.set? name value.toList else none) with
      | some o => ofArguments o rest
      | none => .error .misuse
    | _, _ => .error .misuse

def default? (o : LaunchOptions) (given : Bool) (value : Option String)
    (set : LaunchOptions → String → Option LaunchOptions) : Except LaunchFailure LaunchOptions :=
  match value with
  | some v => if given then .ok o else ((set o v).map .ok).getD (.error .misuse)
  | none => .ok o

def withEnvironment (o : LaunchOptions) (env : String → Option String) :
    Except LaunchFailure LaunchOptions := do
  let o ← o.default? o.config.isSome (env "TESTFLEET_CONFIG") setConfig?
  let o ← o.default? o.listen.isSome (env "TESTFLEET_LISTEN") setListen?
  o.default? o.logJson.isSome (env "TESTFLEET_LOG_JSON") setLogJson?

def read (args : List String) (env : String → Option String) :
    Except LaunchFailure LaunchOptions := do
  (← ofArguments unset args).withEnvironment env

def settings (o : LaunchOptions) (file : Option ByteArray) : Except LaunchFailure ServerConfig := do
  let config ←
    match o.config with
    | none => .ok .standard
    | some _ =>
      match ServerConfig.ofFile file with
      | .ok config => .ok config
      | .error reason => .error (.config reason)
  let config := { config with listen := o.listen.getD config.listen }
  if config.listen.isOwn then .ok config else .error .address

end LaunchOptions

end TestQueue
