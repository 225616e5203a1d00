import BrokerWiring.CommandLine.Program
import BrokerWiring.Proofs.Outcome
import BrokerWiring.Proofs.Property.Entries

/-!
# Where a run has its properties from

Three sources meet in one space of keys: the first file that there is, the environment and the
entries of the command line. For every key the last of them that sets it counts, however each
spells it (`Layered.values`). The first thing that is wrong stops the run: a file without a document
in it before a malformed entry, and of these the first. If nothing is, what the run comes to is what
comes of the resolution of these properties (`GoesOnWith`).
-/

namespace BrokerWiring

namespace Source

/-! ## The configuration file -/

/-- The paths at which the configuration file is looked for, one after another. -/
def searched (home : Option String) : List String :=
  "rabbitmq.json" :: "config/rabbitmq.json" ::
    (home.map fun folder => Files.below folder ".rabbitmq.json").toList

/-- The path of the configuration file: something stands there, and nothing at any path that comes
before. -/
def FirstFile (world : World) (path : String) : Prop :=
  ∃ before after, searched world.home = before ++ path :: after ∧
    (∀ passed ∈ before, world.files.exists? passed = false) ∧ world.files.exists? path = true

/-- A file holds a document. -/
inductive Holds (files : Files) (path : String) : Json → Prop where
  | intro {bytes : List UInt8} {text : String} {document : Json}
      (hbytes : files.readBytes path = .ok bytes) (htext : Utf8.decodeText bytes = .ok text)
      (hdocument : Json.read (Utf8.encodeText text) = .ok document) : Holds files path document

/-- A file holds no document, and how that is reported. -/
inductive Unusable (files : Files) (path : String) : String → Prop where
  | unreadable {failure : ReadFailure} (h : files.readBytes path = .error failure) :
      Unusable files path s!"Failed to read config file at {path}: {failure.message}"
  | notText {bytes : List UInt8} {fault : Utf8.Fault} (hbytes : files.readBytes path = .ok bytes)
      (h : Utf8.decodeText bytes = .error fault) :
      Unusable files path
        s!"Failed to read config file at {path}: stream did not contain valid UTF-8"
  | notJson {bytes : List UInt8} {text : String} {fault : Json.Fault}
      (hbytes : files.readBytes path = .ok bytes) (htext : Utf8.decodeText bytes = .ok text)
      (h : Json.read (Utf8.encodeText text) = .error fault) :
      Unusable files path s!"Config file at {path} contains invalid JSON: {fault.message}"

/-- The document of the configuration file, if there is such a file. -/
inductive FileDocument (world : World) : Option Json → Prop where
  | absent (h : ∀ path ∈ searched world.home, world.files.exists? path = false) :
      FileDocument world none
  | present {path : String} {document : Json} (hfirst : FirstFile world path)
      (h : Holds world.files path document) : FileDocument world (some document)

variable {world : World} {files : Files} {path text : String} {document : Json}
  {document? : Option Json} {entries : List String}

/-- The places of the configuration file are looked at by their paths alone. -/
theorem map_path_configFile? (world : World) :
    (configFile? world).map (·.path) =
      (searched world.home).find? fun path => world.files.exists? path := by
  have paths : (candidates world.home).map (·.path) = searched world.home := by
    unfold candidates searched
    cases world.home <;> rfl
  rw [← paths, List.find?_map]
  rfl

theorem map_path_configFile?_eq_some_iff :
    (configFile? world).map (·.path) = some path ↔ FirstFile world path := by
  rw [map_path_configFile?, List.find?_eq_some_iff_append]
  simp only [Bool.not_eq_true', FirstFile]
  constructor
  · rintro ⟨hexists, before, after, hsplit, hbefore⟩
    exact ⟨before, after, hsplit, hbefore, hexists⟩
  · rintro ⟨before, after, hsplit, hbefore, hexists⟩
    exact ⟨hexists, before, after, hsplit, hbefore⟩

theorem configFile?_eq_none_iff :
    configFile? world = none ↔
      ∀ path ∈ searched world.home, world.files.exists? path = false := by
  rw [← Option.map_eq_none_iff, map_path_configFile?, List.find?_eq_none]
  simp only [Bool.not_eq_true]

/-- The first layer is the file at the first path. -/
theorem fileLayer_of_firstFile (h : FirstFile world path) :
    fileLayer world = ofFile world.files path := by
  obtain ⟨candidate, hcandidate, rfl⟩ :=
    Option.map_eq_some_iff.mp (map_path_configFile?_eq_some_iff.mpr h)
  rw [fileLayer, hcandidate]

/-- A file holds a document or is reported, and there is no third case. -/
theorem holds_or_unusable (files : Files) (path : String) :
    (∃ document, Holds files path document) ∨ ∃ text, Unusable files path text := by
  cases hbytes : files.readBytes path with
  | error failure => exact .inr ⟨_, .unreadable hbytes⟩
  | ok bytes =>
    cases htext : Utf8.decodeText bytes with
    | error fault => exact .inr ⟨_, .notText hbytes htext⟩
    | ok text =>
      cases hdocument : Json.read (Utf8.encodeText text) with
      | error fault => exact .inr ⟨_, .notJson hbytes htext hdocument⟩
      | ok document => exact .inl ⟨document, .intro hbytes htext hdocument⟩

theorem ofFile_of_holds (h : Holds files path document) :
    ofFile files path = .ok (.ofDocument document) := by
  obtain ⟨hbytes, htext, hdocument⟩ := h
  simp [ofFile, Files.readText, hbytes, htext, hdocument]

theorem ofFile_of_unusable (h : Unusable files path text) :
    ofFile files path = .error (.source text) := by
  cases h with
  | unreadable h => simp [ofFile, Files.readText, h]
  | notText hbytes h =>
    simp [ofFile, Files.readText, hbytes, h, ReadFailure.message, String.append_assoc, toString]
  | notJson hbytes htext h => simp [ofFile, Files.readText, hbytes, htext, h]

theorem load_of_unusable (scope : String) (hfirst : FirstFile world path)
    (h : Unusable world.files path text) : load scope world = .error (.source text) := by
  rw [load, fileLayer_of_firstFile hfirst, ofFile_of_unusable h]

/-- The properties of a document, if there is one. -/
def documentLayer (document? : Option Json) : PropertySet :=
  document?.elim .empty .ofDocument

theorem load_of_fileDocument (scope : String) (h : FileDocument world document?) :
    load scope world = .ok ((documentLayer document?).merge
      (.ofEnvironment scope (fullEnvironment world))) := by
  cases h with
  | absent h =>
    rw [load, fileLayer, configFile?_eq_none_iff.mpr h]
    rfl
  | present hfirst h =>
    rw [load, fileLayer_of_firstFile hfirst, ofFile_of_holds h]
    rfl

/-- Either there is a document to start from, or the file that should hold it is reported. -/
theorem fileDocument_or_unusable (world : World) :
    (∃ document?, FileDocument world document?) ∨
      ∃ path text, FirstFile world path ∧ Unusable world.files path text := by
  cases hfile : configFile? world with
  | none => exact .inl ⟨none, .absent (configFile?_eq_none_iff.mp hfile)⟩
  | some candidate =>
    have hfirst : FirstFile world candidate.path := by
      apply map_path_configFile?_eq_some_iff.mp
      rw [hfile, Option.map_some]
    rcases holds_or_unusable world.files candidate.path with ⟨document, h⟩ | ⟨text, h⟩
    · exact .inl ⟨some document, .present hfirst h⟩
    · exact .inr ⟨candidate.path, text, hfirst, h⟩

theorem get?_documentLayer (document? : Option Json) (key : String) :
    (documentLayer document?).get? key =
      document?.bind fun document => (PropertySet.ofDocument document).get? key := by
  cases document? with
  | none => rfl
  | some document => rfl

end Source

/-! ## The layers of a run -/

namespace CommandLine

open Source (World FirstFile Unusable FileDocument)
open Property (parseEntry)

/-- What a run does with a registry: it lists the components, and perhaps it checks with them that
the broker can be reached. -/
def closingStage (around : Surroundings) (connect : Bool) (registry : Registry) : Stage Unit :=
  (listingStage registry).next fun _ =>
    if connect then checkStage around.contact registry else ⟨[], .ok ()⟩

/-- What a run comes to behind a resolution with this outcome: it ends with the error, or it goes on
with the registry. -/
def concluded (around : Surroundings) (connect : Bool) (notes : List Log.Record)
    (outcome : Except ConfigError Registry) : Stage Unit :=
  (Stage.mk notes (attempt "RabbitMQ auto-configuration failed" outcome)).next
    (closingStage around connect)

theorem concluded_of_error (around : Surroundings) (connect : Bool) (notes : List Log.Record)
    (e : ConfigError) :
    concluded around connect notes (.error e) =
      ⟨notes, .error (errorBecause "RabbitMQ auto-configuration failed" e.message)⟩ := rfl

/-- A run stops before it resolves anything: what was to be done, and the error. -/
structure StopsWith (around : Surroundings) (connect : Bool) (entries : List String)
    (action : String) (e : ConfigError) : Prop where
  loading : Source.loadWith "rabbitmq" around.world entries = .error e
  /-- The error is all that comes of it, and loading is all that it has noted. -/
  stops : wire around connect entries =
    ⟨loadNotes "rabbitmq" around.world, .error (errorBecause action e.message)⟩

/-- A run resolves from these properties. -/
structure GoesOnWith (around : Surroundings) (connect : Bool) (entries : List String)
    (properties : PropertySet) : Prop where
  loading : Source.loadWith "rabbitmq" around.world entries = .ok properties
  /-- What comes of it is what comes of the resolution of these properties without any
  definitions. -/
  resolves : wire around connect entries = concluded around connect
    (loadNotes "rabbitmq" around.world ++ (wiringStage around properties).notes)
    ((Configuration.mk properties "rabbitmq"
      (Transport.establish around.formats around.world.files)).resolve {}).outcome

/-- For every key the entries count before the environment and the environment before the document
of the first file. -/
def Ranked (world : World) (entries : List String) (properties : PropertySet) : Prop :=
  ∃ document? fromEntries, FileDocument world document? ∧
    PropertySet.ofEntries entries = .ok fromEntries ∧
      ∀ key, properties.get? key = (fromEntries.get? key).or
        (((PropertySet.ofEnvironment "rabbitmq" (Source.fullEnvironment world)).get? key).or
          (document?.bind fun document => (PropertySet.ofDocument document).get? key))

/-- What the sources of a run come to. -/
structure Layered (around : Surroundings) (connect : Bool) (entries : List String) : Prop where
  /-- A first file without a document stops the run, whatever else there is. -/
  unusable : ∀ {path text}, FirstFile around.world path →
    Unusable around.world.files path text →
      StopsWith around connect entries "Failed to load properties" (.source text)
  /-- If the file is no obstacle, the first malformed entry stops the run. -/
  malformed : ∀ {document? good bad rest}, FileDocument around.world document? →
    entries = good ++ bad :: rest → (∀ entry ∈ good, parseEntry entry ≠ none) →
      parseEntry bad = none →
        StopsWith around connect entries "Invalid command-line property"
          (.invalidValue bad "" "expected 'key=value' or 'key:value'")
  /-- Nothing else stops it. -/
  complete : ∀ {document?}, FileDocument around.world document? →
    (∀ entry ∈ entries, parseEntry entry ≠ none) →
      ∃ properties, GoesOnWith around connect entries properties
  /-- What it resolves from holds what they set, each key as the one that counts sets it. -/
  values : ∀ {properties}, GoesOnWith around connect entries properties →
    Ranked around.world entries properties

namespace Stage

variable {α β : Type} {stage : Stage α}

theorem next_of_error (rest : α → Stage β) {lines : List String}
    (h : stage.result = .error lines) : stage.next rest = ⟨stage.notes, .error lines⟩ := by
  rw [next, h]

theorem next_of_ok (rest : α → Stage β) {a : α} (h : stage.result = .ok a) :
    stage.next rest = ⟨stage.notes ++ (rest a).notes, (rest a).result⟩ := by
  rw [next, h]

/-- Notes in front of two stages are notes in front of the first one. -/
theorem notes_next (notes : List Log.Record) (stage : Stage α) (rest : α → Stage β) :
    Stage.mk (notes ++ (stage.next rest).notes) (stage.next rest).result =
      (Stage.mk (notes ++ stage.notes) stage.result).next rest := by
  cases h : stage.result with
  | error lines => rw [next_of_error rest h, next_of_error rest rfl]
  | ok a => rw [next_of_ok rest h, next_of_ok rest rfl, List.append_assoc]

end Stage

variable {around : Surroundings} {connect : Bool} {entries : List String} {loaded : PropertySet}
  {e : ConfigError}

/-- Loading that fails stops the run. -/
theorem stopsWith_of_load (h : Source.load "rabbitmq" around.world = .error e) :
    StopsWith around connect entries "Failed to load properties" e where
  loading := by rw [Source.loadWith, h]
  stops := by
    have failed : (loadStage around.world).result =
        .error (errorBecause "Failed to load properties" e.message) := by
      show attempt _ (Source.load "rabbitmq" around.world) = _
      rw [h]
      rfl
    rw [wire, Stage.next_of_error _ failed]
    rfl

/-- Loading that goes well leaves the rest of a run to the entries. -/
theorem wire_of_load (h : Source.load "rabbitmq" around.world = .ok loaded) :
    wire around connect entries =
      (Stage.mk (loadNotes "rabbitmq" around.world) (entriesStage loaded entries).result).next
        fun properties => (wiringStage around properties).next (closingStage around connect) := by
  have loading : (loadStage around.world).result = .ok loaded := by
    show attempt _ (Source.load "rabbitmq" around.world) = _
    rw [h]
    rfl
  rw [wire, Stage.next_of_ok _ loading, Stage.notes_next]
  show (Stage.mk (loadNotes "rabbitmq" around.world ++ []) _).next _ = _
  rw [List.append_nil]
  rfl

theorem result_wiringStage (around : Surroundings) (properties : PropertySet) :
    (wiringStage around properties).result = attempt "RabbitMQ auto-configuration failed"
      ((Configuration.mk properties "rabbitmq"
        (Transport.establish around.formats around.world.files)).resolve {}).outcome := by
  simp only [wiringStage, configuration, Source.defaultScope]

/-- Entries that cannot be read stop it as well. -/
theorem stopsWith_of_ofEntries (hload : Source.load "rabbitmq" around.world = .ok loaded)
    (h : PropertySet.ofEntries entries = .error e) :
    StopsWith around connect entries "Invalid command-line property" e where
  loading := by simp only [Source.loadWith, hload, h]
  stops := by
    have failed : (entriesStage loaded entries).result =
        .error (errorBecause "Invalid command-line property" e.message) := by
      show (attempt _ (PropertySet.ofEntries entries)).map _ = _
      rw [h]
      rfl
    rw [wire_of_load hload, failed, Stage.next_of_error _ rfl]

theorem goesOnWith_merge {fromEntries : PropertySet}
    (hload : Source.load "rabbitmq" around.world = .ok loaded)
    (h : PropertySet.ofEntries entries = .ok fromEntries) :
    GoesOnWith around connect entries (loaded.merge fromEntries) where
  loading := by simp only [Source.loadWith, hload, h]
  resolves := by
    have merged : (entriesStage loaded entries).result = .ok (loaded.merge fromEntries) := by
      show (attempt _ (PropertySet.ofEntries entries)).map _ = _
      rw [h]
      rfl
    rw [wire_of_load hload, merged, Stage.next_of_ok _ rfl, Stage.notes_next, result_wiringStage,
      concluded]

/-- What a run resolves from is what was loaded with the entries on top. -/
theorem GoesOnWith.eq_merge {properties : PropertySet}
    (h : GoesOnWith around connect entries properties) :
    ∃ loaded fromEntries, Source.load "rabbitmq" around.world = .ok loaded ∧
      PropertySet.ofEntries entries = .ok fromEntries ∧ properties = loaded.merge fromEntries := by
  have loading := h.loading
  rw [Source.loadWith] at loading
  cases hload : Source.load "rabbitmq" around.world with
  | error e => simp [hload] at loading
  | ok loaded =>
    cases hentries : PropertySet.ofEntries entries with
    | error e => simp [hload, hentries] at loading
    | ok fromEntries =>
      simp only [hload, hentries] at loading
      exact ⟨loaded, fromEntries, rfl, rfl, (Except.ok.inj loading).symm⟩

/-- What a run resolves from is ranked: two merges, the one on top laid last. -/
theorem GoesOnWith.ranked {properties : PropertySet}
    (h : GoesOnWith around connect entries properties) :
    Ranked around.world entries properties := by
  obtain ⟨loaded, fromEntries, hload, hentries, rfl⟩ := h.eq_merge
  rcases Source.fileDocument_or_unusable around.world with
    ⟨document?, hfile⟩ | ⟨_, _, hfirst, hbad⟩
  · rw [Source.load_of_fileDocument _ hfile] at hload
    obtain rfl := Except.ok.inj hload
    refine ⟨document?, fromEntries, hfile, hentries, ?_⟩
    intro key
    rw [PropertySet.get?_merge, PropertySet.get?_merge, Source.get?_documentLayer]
  · -- An unusable file would have stopped the loading.
    rw [Source.load_of_unusable _ hfirst hbad] at hload
    cases hload

/-- Arguments that ask for a client start a run with the entries among them, and every run resolves
from properties that are layered as their sources are ranked. -/
theorem run_layered (around : Surroundings) :
    (∀ arguments, AsksToWire arguments →
      run around arguments =
        (wire around (arguments.contains "--connect") (entriesOf arguments)).report
          (Log.Filter.ofEnvironment around.world.environment)) ∧
      ∀ connect entries, Layered around connect entries := by
  constructor
  · intro arguments asks
    rw [run, Command.ofArguments_eq_wire_iff.mpr ⟨asks, rfl, rfl⟩]
  · intro connect entries
    constructor
    case unusable =>
      intro path text hfirst h
      exact stopsWith_of_load (Source.load_of_unusable _ hfirst h)
    case malformed =>
      rintro document? good bad rest hfile rfl hgood hbad
      exact stopsWith_of_ofEntries (Source.load_of_fileDocument _ hfile)
        (PropertySet.ofEntriesInto_of_malformed _ hgood hbad)
    case complete =>
      intro document? hfile hentries
      obtain ⟨fromEntries, h⟩ := PropertySet.exists_ofEntriesInto .empty hentries
      exact ⟨_, goesOnWith_merge (Source.load_of_fileDocument _ hfile) h⟩
    case values =>
      intro properties h
      exact h.ranked

namespace Sample

/-- The text of a configuration file. -/
def text : String := "\x7b\"rabbitmq\":\x7b\"virtualHost\":\"/file\",\"port\":5673\x7d\x7d"

/-- A folder for configuration with a file in it, and a home folder whose file nobody may read. -/
def files : Files where
  nodes :=
    [(["work", "config", "rabbitmq.json"], .file (Utf8.encodeText text)),
      (["home", ".rabbitmq.json"], .unreadable "Permission denied (os error 13)")]
  current := ["work"]

/-- A run whose environment spells the virtual host in another way than the file. -/
def surroundings : Surroundings where
  world :=
    { files
      home := some "/home"
      environment := [("RABBITMQ__VIRTUAL_HOST", "/environment"), ("RABBITMQ__HOST", "rabbit")] }
  formats := .standard
  contact := fun _ => .reached

/-- The same without the folder for configuration. -/
def locked : Surroundings :=
  { surroundings with world.files.nodes := files.nodes.drop 1 }

theorem exists_fileDocument : ∃ document?, FileDocument surroundings.world document? := by
  rcases Source.fileDocument_or_unusable surroundings.world with h | ⟨_, _, hfirst, hbad⟩
  · exact h
  · have loads : (Source.load "rabbitmq" surroundings.world).isOk = true := by decide +kernel
    rw [Source.load_of_unusable _ hfirst hbad] at loads
    cases loads

end Sample

theorem run_layered_sample :
    run Sample.surroundings ["--connect", "rabbitmq.port=x"] =
      (wire Sample.surroundings true ["rabbitmq.port=x"]).report
        (Log.Filter.ofEnvironment Sample.surroundings.world.environment) ∧
    (∃ properties,
      GoesOnWith Sample.surroundings false ["rabbitmq.virtual-host=/entry"] properties ∧
      ["rabbitmq.virtual_host", "rabbitmq.host", "rabbitmq.port", "rabbitmq.username"].map
        properties.get? = [some "/entry", some "rabbit", some "5673", none]) ∧
    (wire Sample.surroundings false ["rabbitmq.port=x"]).result =
      .error (errorBecause "RabbitMQ auto-configuration failed"
        (ConfigError.invalidValue "rabbitmq.port" "x" "invalid digit found in string").message) ∧
    StopsWith Sample.surroundings false ["rabbitmq.host=a", "rabbitmq.port"]
      "Invalid command-line property"
      (.invalidValue "rabbitmq.port" "" "expected 'key=value' or 'key:value'") ∧
    StopsWith Sample.locked false ["rabbitmq.port"] "Failed to load properties"
      (.source
        "Failed to read config file at /home/.rabbitmq.json: Permission denied (os error 13)") := by
  obtain ⟨document?, hfile⟩ := Sample.exists_fileDocument
  refine ⟨?_, ?_, ?_, ?_, ?_⟩
  · have started := (run_layered Sample.surroundings).1 ["--connect", "rabbitmq.port=x"]
      (by decide +kernel)
    have connects : ["--connect", "rabbitmq.port=x"].contains "--connect" = true := by decide
    have entries : entriesOf ["--connect", "rabbitmq.port=x"] = ["rabbitmq.port=x"] := by decide
    rwa [connects, entries] at started
  · obtain ⟨properties, goesOn⟩ := ((run_layered Sample.surroundings).2 false
      ["rabbitmq.virtual-host=/entry"]).complete hfile (by decide +kernel)
    have values : (Source.loadWith "rabbitmq" Sample.surroundings.world
        ["rabbitmq.virtual-host=/entry"]).toOption.map (fun loaded =>
          ["rabbitmq.virtual_host", "rabbitmq.host", "rabbitmq.port", "rabbitmq.username"].map
            loaded.get?) = some [some "/entry", some "rabbit", some "5673", none] := by
      decide +kernel
    rw [goesOn.loading] at values
    exact ⟨properties, goesOn, Option.some.inj values⟩
  · obtain ⟨properties, goesOn⟩ := ((run_layered Sample.surroundings).2 false
      ["rabbitmq.port=x"]).complete hfile (by decide +kernel)
    have unbound : (Source.loadWith "rabbitmq" Sample.surroundings.world ["rabbitmq.port=x"] >>=
        fun loaded => BrokerSettings.bind loaded "rabbitmq") =
          .error (.invalidValue "rabbitmq.port" "x" "invalid digit found in string") := by
      decide +kernel
    rw [goesOn.loading] at unbound
    have unresolved : BrokerSettings.bind properties "rabbitmq" = _ := unbound
    have failed : (Configuration.resolve ⟨properties, "rabbitmq", Transport.establish
        Sample.surroundings.formats Sample.surroundings.world.files⟩ {}).outcome =
          .error (.invalidValue "rabbitmq.port" "x" "invalid digit found in string") := by
      unfold Configuration.resolve
      simp only [unresolved]
    rw [goesOn.resolves, failed, concluded_of_error]
  · have split : ["rabbitmq.host=a", "rabbitmq.port"] = ["rabbitmq.host=a"] ++ ["rabbitmq.port"] :=
      rfl
    exact ((run_layered Sample.surroundings).2 false _).malformed hfile split (by decide +kernel)
      (by decide +kernel)
  · have place : Source.FirstFile Sample.locked.world "/home/.rabbitmq.json" := by
      refine ⟨["rabbitmq.json", "config/rabbitmq.json"], [], ?_, ?_, ?_⟩
      · decide +kernel
      · decide +kernel
      · decide +kernel
    have hread : Sample.locked.world.files.readBytes "/home/.rabbitmq.json" =
        .error (.other "Permission denied (os error 13)") := by decide +kernel
    exact ((run_layered Sample.locked).2 false _).unusable place (.unreadable hread)

end CommandLine

end BrokerWiring
