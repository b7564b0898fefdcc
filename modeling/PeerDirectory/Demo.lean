import PeerDirectory.MemoryStore
import PeerDirectory.Directory.Report

namespace PeerDirectory.Demo

structure Options where
  config : Option String
  clients : Nat
  floodfills : Nat
  noIsolation : Bool
deriving DecidableEq

structure Given where
  config : Option String
  clients : Option Nat
  floodfills : Option Nat
  noIsolation : Bool

inductive Command where
  | run (options : Options)
  | help
  | misuse
deriving DecidableEq

def readCount (text : String) : Option Nat :=
  let digits :=
    match text.toList with
    | '+' :: rest => rest
    | digits => digits
  if digits.isEmpty || !digits.all Char.isDigit then none
  else
    let value := digits.foldl (fun value c => value * 10 + (c.toNat - '0'.toNat)) 0
    if value < UInt64.size then some value else none

def splitArgument (argument : String) : String × Option String :=
  let chars := argument.toList
  let value :=
    match chars.dropWhile (· ≠ '=') with
    | [] => none
    | _ :: rest => some (String.ofList rest)
  (String.ofList (chars.takeWhile (· ≠ '=')), value)

def isValue (argument : String) : Bool :=
  match argument.toList with
  | '-' :: _ :: _ => false
  | _ => true

def takeValue (name value : String) (given : Given) : Option Given :=
  if name = "--config" then
    if given.config.isSome ∨ value.isEmpty then none
    else some { given with config := some value }
  else if name = "--clients" then
    if given.clients.isSome then none
    else (readCount value).map fun count => { given with clients := some count }
  else if name = "--floodfills" then
    if given.floodfills.isSome then none
    else (readCount value).map fun count => { given with floodfills := some count }
  else none

def Given.options (given : Given) : Options :=
  ⟨given.config, given.clients.getD 3, given.floodfills.getD 16, given.noIsolation⟩

def asksForHelp (argument : String) : Bool :=
  argument = "--help" ||
    match argument.toList with
    | '-' :: 'h' :: _ => true
    | _ => false

def readArguments (given : Given) : List String → Command
  | [] => .run given.options
  | argument :: rest =>
    if argument = "--" then
      if rest.isEmpty then .run given.options else .misuse
    else if asksForHelp argument then .help
    else if argument = "--no-isolation" then
      if given.noIsolation then .misuse else readArguments { given with noIsolation := true } rest
    else
      let option := splitArgument argument
      match option.2 with
      | some value =>
        match takeValue option.1 value given with
        | some given => readArguments given rest
        | none => .misuse
      | none =>
        match rest with
        | [] => .misuse
        | value :: rest =>
          if isValue value then
            match takeValue option.1 value given with
            | some given => readArguments given rest
            | none => .misuse
          else .misuse

def readCommandLine (arguments : List String) : Command :=
  readArguments ⟨none, none, none, false⟩ arguments

abbrev State := Directory MemoryFactory MemoryStore Unit

def alone : Surroundings MemoryFactory MemoryStore Unit := ⟨fun _ state => state, 2⟩

def router (number : Nat) : Router :=
  ⟨Hash.ofText ("floodfill-" ++ toString number),
    ["10.0." ++ toString (number / 256) ++ "." ++ toString (number % 256) ++ ":7654"], true, 0⟩

def destination (number : Nat) : Hash := Hash.ofText ("client-" ++ toString number)

def leaseSet (number : Nat) : LeaseSet :=
  ⟨destination number, none,
    [⟨Hash.ofText ("gateway-" ++ toString number), UInt32.ofNat number, 600000⟩], 0⟩

def addRouter (state : State) (number : Nat) : Except Failure Unit × State :=
  state.insert (Directory.wellKnown .main) (router number).identity (.router (router number))

def addClient (state : State) (number : Nat) : Except Failure Unit × State :=
  let found := state.clientPartition alone (some (.client (destination number)))
  match found.1 with
  | .error failure => (.error failure, found.2)
  | .ok handle => found.2.insert handle (destination number) (.lease (leaseSet number))

def forAll (add : State → Nat → Except Failure Unit × State) :
    List Nat → State → Except Failure Unit × State
  | [], state => (.ok (), state)
  | number :: rest, state =>
    match add state number with
    | (.ok (), state) => forAll add rest state
    | (.error failure, state) => (.error failure, state)

def stats (sampler : Sampler) (settings : Settings) (floodfills clients : Nat) :
    Except Failure Directory.Stats := do
  let unbuilt : State := Directory.unbuilt MemoryFactory.plain sampler .unrestricted ()
  let started := unbuilt.start alone settings
  started.1
  let filled := forAll addRouter (List.range floodfills) started.2
  filled.1
  let served := forAll addClient (List.range clients) filled.2
  served.1
  let probed := served.2.findLease (destination 0)
  pure probed.2.stats

inductive Result where
  | printed (text : String)
  | failed (message : String)
  | misused
  | explained
deriving DecidableEq

def Result.exitCode : Result → Nat
  | printed _ | explained => 0
  | failed _ => 1
  | misused => 2

def Options.settings (options : Options) (file : String → Settings.File) :
    Except Settings.LoadError Settings :=
  match options.config with
  | none => .ok Settings.standard
  | some path => Settings.load (file path)

def runWith (sampler : Sampler) (options : Options) (file : String → Settings.File) :
    Result :=
  match options.settings file with
  | .error cause => .failed cause.message
  | .ok settings =>
    let settings := { settings with isolation := settings.isolation && !options.noIsolation }
    match stats sampler settings options.floodfills options.clients with
    | .error failure => .failed failure.message
    | .ok stats => .printed (stats.toJson.pretty ++ "\n")

def runBy (sampler : Sampler) (arguments : List String) (file : String → Settings.File) :
    Result :=
  match readCommandLine arguments with
  | .misuse => .misused
  | .help => .explained
  | .run options => runWith sampler options file

def run (arguments : List String) (file : String → Settings.File) : Result :=
  runBy .first arguments file

def usage : String := "Usage: segmentor-demo [OPTIONS]"

def help : String :=
  "Exercise the segmented network database with in-memory stores\n\n" ++ usage ++ "\n\n" ++
    "Options:\n" ++
    "      --config <CONFIG>          JSON configuration file\n" ++
    "      --clients <CLIENTS>        Number of client destinations to create partitions for " ++
    "[default: 3]\n" ++
    "      --floodfills <FLOODFILLS>  Number of synthetic floodfill routers in the main partition " ++
    "[default: 16]\n" ++
    "      --no-isolation             Collapse every partition onto main\n" ++
    "  -h, --help                     Print help"

end PeerDirectory.Demo
