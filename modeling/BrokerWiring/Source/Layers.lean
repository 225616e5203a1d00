import BrokerWiring.Source.Dotenv
import BrokerWiring.Json.Reader
import BrokerWiring.Property.Document
import BrokerWiring.Property.Environment

/-!
# Layers of properties

Properties come from three layers: a JSON file, the environment and the command line. Each layer
lies on top of the one before it. Of the three places where the file may be, the first that exists
counts, and if it cannot be read nothing else is looked at.
-/

namespace BrokerWiring.Source

/-- The scope under which properties live unless another one is asked for. -/
def defaultScope : String := "rabbitmq"

/-- Where a run of the program finds its properties. -/
structure World where
  files : Files
  /-- The home folder. -/
  home : Option String
  environment : List (String × String)
  deriving Repr, DecidableEq

/-- A place where the configuration file may be, with what it is called in the log. -/
structure Candidate where
  place : String
  path : String
  deriving Repr, DecidableEq

/-- The places of the configuration file, first choice first. -/
def candidates (home : Option String) : List Candidate :=
  [⟨"Current directory", "rabbitmq.json"⟩, ⟨"Config directory", "config/rabbitmq.json"⟩] ++
    (home.map fun folder => ⟨"home directory", Files.below folder ".rabbitmq.json"⟩).toList

/-- The places whose nodes decide what a run finds: those on the way to a configuration file, and
`.env` in the current folder and above it. -/
def places (home : Option String) (current : List String) : List (List String) :=
  (candidates home).flatMap (fun candidate => Files.placesOf current candidate.path) ++
    (List.range (current.length + 1)).map fun depth => current.take depth ++ [".env"]

/-- The first place at which something stands. -/
def configFile? (world : World) : Option Candidate :=
  (candidates world.home).find? fun candidate => world.files.exists? candidate.path

/-- The properties of a JSON file. -/
def ofFile (files : Files) (path : String) : Except ConfigError PropertySet :=
  match files.readText path with
  | .error failure =>
    .error (.source s!"Failed to read config file at {path}: {failure.message}")
  | .ok text =>
    match Json.read (Utf8.encodeText text) with
    | .error fault =>
      .error (.source s!"Config file at {path} contains invalid JSON: {fault.message}")
    | .ok document => .ok (PropertySet.ofDocument document)

/-- The properties of the configuration file; none if there is no file. -/
def fileLayer (world : World) : Except ConfigError PropertySet :=
  match configFile? world with
  | none => .ok PropertySet.empty
  | some candidate => ofFile world.files candidate.path

/-- The environment with the variables of the nearest file `.env`. -/
def fullEnvironment (world : World) : List (String × String) :=
  Dotenv.extend world.files world.environment

/-- The properties of the file with those of the environment on top. -/
def load (scope : String) (world : World) : Except ConfigError PropertySet :=
  match fileLayer world with
  | .error e => .error e
  | .ok fromFile => .ok (fromFile.merge (PropertySet.ofEnvironment scope (fullEnvironment world)))

/-- All three layers. -/
def loadWith (scope : String) (world : World) (entries : List String) :
    Except ConfigError PropertySet :=
  match load scope world with
  | .error e => .error e
  | .ok loaded =>
    match PropertySet.ofEntries entries with
    | .error e => .error e
    | .ok fromEntries => .ok (loaded.merge fromEntries)

end BrokerWiring.Source
