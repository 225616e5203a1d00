import BrokerWiring.CommandLine.Arguments
import BrokerWiring.CommandLine.Filter
import BrokerWiring.CommandLine.Notes

/-!
# The program

`run` is the whole program as a function: from the arguments and the world to the lines that it
prints and the status that it ends with. The properties of the arguments lie on top of those that
are loaded; then the standard components are wired and listed.
-/

namespace BrokerWiring.CommandLine

open Log

/-- What came of an attempt to reach a broker. -/
inductive Contact where
  | reached
  | failed (error : BrokerError)
  | timedOut
  deriving Repr, DecidableEq

/-- What a run needs to know of the world around it. -/
structure Surroundings where
  world : Source.World
  formats : StoreFormats
  /-- Tries to reach the broker of a connection factory. -/
  contact : ConnectionFactory → Contact

/-- What a run leaves behind. -/
structure Report where
  status : Nat
  output : List String
  errors : List String
  deriving Repr, DecidableEq

/-- A line without the carriage return at its end. -/
def trimReturn (line : String) : String :=
  let cs := line.toList
  if cs.getLast? = some '\r' then String.ofList cs.dropLast else line

/-- The lines that a reader sees when texts are printed one below the other: a line feed ends one,
and so does a carriage return with a line feed. -/
def seenLines (texts : List String) : List String :=
  texts.flatMap fun text => (text.splitOn "\n").map trimReturn

/-- A stage of a run: the records of it, and its result or the lines of its error. -/
structure Stage (α : Type) where
  notes : List Record
  result : Except (List String) α

namespace Stage

/-- The next stage, if this one went well. -/
def next {α β : Type} (stage : Stage α) (rest : α → Stage β) : Stage β :=
  match stage.result with
  | .error lines => ⟨stage.notes, .error lines⟩
  | .ok a => { rest a with notes := stage.notes ++ (rest a).notes }

end Stage

/-! ## Errors -/

/-- The lines of a text. -/
def textLines (text : String) : List String := text.splitOn "\n"

/-- The lines of an error without a cause. -/
def plainError (text : String) : List String := textLines ("Error: " ++ text)

/-- The lines of an error: what was to be done, and the cause with an indentation. -/
def errorBecause (action cause : String) : List String :=
  ["Error: " ++ action, "", "Caused by:"] ++ (textLines cause).map ("    " ++ ·)

/-- The result of an action that may fail. -/
def attempt {α : Type} (action : String) (result : Except ConfigError α) :
    Except (List String) α :=
  result.mapError fun e => errorBecause action e.message

/-! ## Stages -/

/-- The properties of the files and the environment. -/
def loadStage (world : Source.World) : Stage PropertySet :=
  let scope := Source.defaultScope
  ⟨loadNotes scope world, attempt "Failed to load properties" (Source.load scope world)⟩

/-- The properties with those of the arguments on top. -/
def entriesStage (loaded : PropertySet) (entries : List String) : Stage PropertySet :=
  let read := attempt "Invalid command-line property" (PropertySet.ofEntries entries)
  ⟨[], read.map loaded.merge⟩

/-- The configuration of a run. -/
def configuration (around : Surroundings) (properties : PropertySet) : Configuration :=
  { properties
    scope := Source.defaultScope
    establish := Transport.establish around.formats around.world.files }

/-- The registry of standard components. -/
def wiringStage (around : Surroundings) (properties : PropertySet) : Stage Registry :=
  let definitions : Definitions := {}
  let scope := Source.defaultScope
  let resolution := (configuration around properties).resolve definitions
  let notes :=
    bindingNotes properties scope ++
      match BrokerSettings.bind properties scope with
      | .error _ => []
      | .ok settings =>
        let connecting := transportNotes around.formats around.world.files settings.connection
        resolutionNotes connecting settings definitions resolution
  ⟨notes, attempt "RabbitMQ auto-configuration failed" resolution.outcome⟩

/-- The list of components. -/
def listingStage (registry : Registry) : Stage Unit :=
  ⟨registry.entries.map componentNote, .ok ()⟩

/-- The record of a check that begins. -/
def checkNote (factory : ConnectionFactory) : Record :=
  ⟨.info, programTarget, "Checking RabbitMQ broker",
    [("host", Text.quoted factory.settings.host),
      ("port", Nat.repr factory.settings.port.toNat),
      ("virtual_host", Text.quoted factory.settings.virtualHost),
      ("secure", Text.flag factory.transport.isSecure)]⟩

/-- The check that the broker can be reached. -/
def checkStage (contact : ConnectionFactory → Contact) (registry : Registry) : Stage Unit :=
  match registry.connectionFactory with
  | .error e => ⟨[], .error (plainError e.message)⟩
  | .ok factory =>
    let start := checkNote factory.value
    match contact factory.value with
    | .reached =>
      ⟨[start, ⟨.info, programTarget, "Successfully connected to RabbitMQ", []⟩], .ok ()⟩
    | .failed error =>
      let reason := error.message
      ⟨[start, ⟨.error, programTarget, s!"RabbitMQ connection check failed: {reason}", []⟩],
        .error (plainError s!"Failed to connect to RabbitMQ: {reason}")⟩
    | .timedOut =>
      ⟨[start], .error (plainError "Connection to RabbitMQ timed out after 5 seconds")⟩

/-- Wires a client and lists its components. -/
def wire (around : Surroundings) (connect : Bool) (entries : List String) : Stage Unit :=
  (loadStage around.world).next fun loaded =>
    (entriesStage loaded entries).next fun properties =>
      (wiringStage around properties).next fun registry =>
        (listingStage registry).next fun _ =>
          if connect then checkStage around.contact registry else ⟨[], .ok ()⟩

/-! ## Runs -/

/-- The report of a stage: the records that the filter lets through, and the error. -/
def Stage.report (filter : Filter) (stage : Stage Unit) : Report :=
  let output := (stage.notes.filter filter.allows).map Record.line
  match stage.result with
  | .ok _ => ⟨0, output, []⟩
  | .error lines => ⟨1, output, lines⟩

/-- The whole program. -/
def run (around : Surroundings) (arguments : List String) : Report :=
  match Command.ofArguments arguments with
  | .help => ⟨0, [usage], []⟩
  | .unknownFlag flag => ⟨1, [], plainError s!"unknown flag '{flag}'\n{usage}"⟩
  | .wire connect entries =>
    (wire around connect entries).report (Filter.ofEnvironment around.world.environment)

/-- The stores that a run opens, once everything else is known. -/
def storePaths (world : Source.World) (arguments : List String) : List String :=
  match Command.ofArguments arguments with
  | .wire _ entries =>
    let settings := do
      let properties ← Source.loadWith Source.defaultScope world entries
      BrokerSettings.bind properties Source.defaultScope
    match settings with
    | .ok settings => settings.connection.keyStore?.toList ++ settings.connection.trustStore?.toList
    | .error _ => []
  | _ => []

end BrokerWiring.CommandLine
