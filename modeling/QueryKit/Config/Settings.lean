import QueryKit.Config.Coerce
import QueryKit.Journal.Logger
import QueryKit.Sql.Dialect
import QueryKit.Json.Basic

/-!
# Settings

The settings a program built on the query builder reads from its configuration: the database to
connect to and its connection pool, how to log, and whether to log every query.

* `Settings.entries` are the defaults every configuration store starts from;
* `Settings.decode` reads the whole configuration tree into settings, converting loosely
  (`Config.Coerce`) and listing every field that does not convert;
* `Logging.validate` checks the level, the format and the output; `Database.validatePool`
  checks the dialect and the pool sizes; `Database.validate` also wants a driver and a data
  source; `Settings.validate` is the logging check, then the pool check;
* `Logging.outlet` is where log entries go; `Logging.journal` is the logger a program builds
  from the settings;
* `Store.unmarshal` decodes and validates a store's settings.
-/

namespace QueryKit.Config

open Journal

/-- **Database settings.** -/
structure Database where
  driver : String := ""
  /-- The data source name handed to the driver. -/
  dsn : String := ""
  /-- The dialect to build statements in; the driver's own when empty. -/
  dialect : String := ""
  maxOpen : Int := 0
  maxIdle : Int := 0
  lifetime : Duration := ⟨0⟩
  idleTime : Duration := ⟨0⟩
  deriving Inhabited

/-- **Logging settings.** -/
structure Logging where
  level : String := ""
  /-- `text` or `json`, in any case. -/
  format : String := ""
  /-- `stdout`, `stderr` or `file`, in any case. -/
  output : String := ""
  filePath : String := ""
  colors : Bool := false
  reportCaller : Bool := false
  deriving Inhabited

/-- **Builder settings.** -/
structure Tuning where
  logQueries : Bool := false
  deriving Inhabited

/-- **Settings.** -/
structure Settings where
  database : Database := {}
  logging : Logging := {}
  tuning : Tuning := {}
  deriving Inhabited

/-- **The default entries** of every configuration store. -/
def Settings.entries : List (String × Value) :=
  [("database.driver", .text ""), ("database.dsn", .text ""), ("database.dialect", .text ""),
   ("database.max_open_conns", .word 10), ("database.max_idle_conns", .word 5),
   ("database.conn_max_lifetime", .duration ⟨300000000000⟩),
   ("database.conn_max_idle_time", .duration ⟨120000000000⟩),
   ("logging.level", .text "info"), ("logging.format", .text "text"),
   ("logging.output", .text "stderr"), ("logging.file_path", .text ""),
   ("logging.colors", .bool false), ("logging.report_caller", .bool false),
   ("builder.log_queries", .bool true)]

/-- The member of a map under a name, or else under the same name in another case. -/
def memberOf (ms : Layer) (name : String) : Option Value :=
  match ms.lookup name with
  | some v => some v
  | none => (ms.find? (fun p => Text.lower p.1 == Text.lower name)).map (·.2)

/-- The kind of a value, as a problem about a section names it. -/
def kindName : Value → String
  | .null => "invalid"
  | .bool _ => "bool"
  | .int _ | .duration _ => "int64"
  | .uint _ => "uint64"
  | .word _ => "int"
  | .float _ => "float64"
  | .text _ | .raw _ => "string"
  | .bytes _ | .list _ | .words _ | .texts _ => "slice"
  | .map _ => "map"
  | .rawRef _ | .failure _ => "ptr"
  | .time _ _ | .record _ _ | .floating _ => "struct"
  | .small w _ => w.name
  | .pointer _ _ => "ptr"

/-- **A part** of the settings named `name`: a map read by `read`; nothing leaves the section
as it is, anything else than a map is a problem. -/
def part {α : Type} (name : String) (current : α) (read : Layer → Convert α) :
    Option Value → Convert α
  | none | some .null => pure current
  | some (.map ms) => read ms
  | some v => do
    Convert.problem ("'" ++ name ++ "' expected a map, got '" ++ kindName v ++ "'")
    pure current

/-- Reads the database section. -/
def Database.decode (d : Database) (ms : Layer) : Convert Database := do
  let at_ (k : String) := memberOf ms k
  let nm (k : String) := "database." ++ k
  let driver ← convertField (textField (nm "driver")) d.driver (at_ "driver")
  let dsn ← convertField (textField (nm "dsn")) d.dsn (at_ "dsn")
  let dialect ← convertField (textField (nm "dialect")) d.dialect (at_ "dialect")
  let maxOpen ← convertField (intField (nm "max_open_conns")) d.maxOpen (at_ "max_open_conns")
  let maxIdle ← convertField (intField (nm "max_idle_conns")) d.maxIdle (at_ "max_idle_conns")
  let lifetime ← convertField (durationField (nm "conn_max_lifetime")) d.lifetime (at_ "conn_max_lifetime")
  let idleTime ← convertField (durationField (nm "conn_max_idle_time")) d.idleTime (at_ "conn_max_idle_time")
  return ⟨driver, dsn, dialect, maxOpen, maxIdle, lifetime, idleTime⟩

/-- Reads the logging section. -/
def Logging.decode (l : Logging) (ms : Layer) : Convert Logging := do
  let at_ (k : String) := memberOf ms k
  let nm (k : String) := "logging." ++ k
  let level ← convertField (textField (nm "level")) l.level (at_ "level")
  let format ← convertField (textField (nm "format")) l.format (at_ "format")
  let output ← convertField (textField (nm "output")) l.output (at_ "output")
  let filePath ← convertField (textField (nm "file_path")) l.filePath (at_ "file_path")
  let colors ← convertField (boolField (nm "colors")) l.colors (at_ "colors")
  let reportCaller ← convertField (boolField (nm "report_caller")) l.reportCaller (at_ "report_caller")
  return ⟨level, format, output, filePath, colors, reportCaller⟩

/-- Reads the builder section. -/
def Tuning.decode (t : Tuning) (ms : Layer) : Convert Tuning := do
  let logQueries ← convertField (boolField "builder.log_queries") t.logQueries (memberOf ms "log_queries")
  return ⟨logQueries⟩

/-- **Reading settings** from a whole configuration tree, every field starting empty: the
settings, or the report of the fields that do not convert. -/
def Settings.decode (tree : Layer) : Except String Settings :=
  let read : Convert Settings := do
    let s : Settings := {}
    let database ← part "database" s.database (s.database.decode) (memberOf tree "database")
    let logging ← part "logging" s.logging (s.logging.decode) (memberOf tree "logging")
    let tuning ← part "builder" s.tuning (s.tuning.decode) (memberOf tree "builder")
    return ⟨database, logging, tuning⟩
  let (s, problems) := Id.run (read.run [])
  if problems.isEmpty then .ok s else .error (Convert.report problems)

/-- **Checking the logging settings**: a known level, a known format, a known output, and a file
for file output. -/
def Logging.validate (c : Logging) : Except Fault Unit := do
  match (Level.parse c.level).2 with
  | some e => throw (.config "logging.level" (.text c.level) "invalid log level" (some e))
  | none => pure ()
  if !(["", "text", "json"].contains (Text.lower c.format)) then
    throw (.config "logging.format" (.text c.format) "invalid log format" none)
  match Text.lower c.output with
  | "" | "stdout" | "stderr" => pure ()
  | "file" =>
    if c.filePath.isEmpty then
      throw (.config "logging.file_path" .null "file path is required for file output" none)
  | _ => throw (.config "logging.output" (.text c.output) "invalid log output" none)

/-- **Checking the pool settings**: a known dialect when one is given, no negative pool sizes,
and no more idle connections than open ones when the open ones are bounded. -/
def Database.validatePool (c : Database) : Except Fault Unit := do
  if !c.dialect.isEmpty then
    match Sql.Dialect.byName c.dialect with
    | .error e => throw (.config "database.dialect" (.text c.dialect) "unknown dialect" (some e))
    | .ok _ => pure ()
  if c.maxOpen < 0 then
    throw (.config "database.max_open_conns" (.word c.maxOpen) "max open connections cannot be negative" none)
  if c.maxIdle < 0 then
    throw (.config "database.max_idle_conns" (.word c.maxIdle) "max idle connections cannot be negative" none)
  if c.maxOpen > 0 && c.maxIdle > c.maxOpen then
    throw (.config "database.max_idle_conns" (.word c.maxIdle)
      "max idle connections cannot exceed max open connections" none)

/-- **Checking the database settings**: a driver, a data source, and the pool. -/
def Database.validate (c : Database) : Except Fault Unit := do
  if c.driver.isEmpty then throw (.configKey "database.driver" "driver is required")
  if c.dsn.isEmpty then throw (.configKey "database.dsn" "dsn is required")
  c.validatePool

/-- **Checking settings**: the logging settings, then the pool. -/
def Settings.validate (s : Settings) : Except Fault Unit := do
  s.logging.validate
  s.database.validatePool

/-- **Where log entries go.** -/
inductive Outlet where
  | stdout
  | stderr
  /-- A file, appended to. -/
  | file (path : String)
  deriving Inhabited, BEq

/-- The name of an outlet's kind. -/
def Outlet.name : Outlet → String
  | .stdout => "stdout"
  | .stderr => "stderr"
  | .file _ => "file"

/-- **The outlet of the logging settings**; `opens` tells whether a file can be opened for
appending, or the system's complaint. -/
def Logging.outlet (c : Logging) (opens : String → Except String Unit) : Except Fault Outlet :=
  match Text.lower c.output with
  | "stdout" => .ok .stdout
  | "" | "stderr" => .ok .stderr
  | "file" =>
    if c.filePath.isEmpty then
      .error (.config "logging.file_path" .null "file path is required for file output" none)
    else
      match opens c.filePath with
      | .ok () => .ok (.file c.filePath)
      | .error why =>
        .error (.config "logging.file_path" (.text c.filePath) "cannot open log file" (some (.plain why)))
  | _ => .error (.config "logging.output" (.text c.output) "invalid log output" none)

/-- **The logger settings** of the logging settings: the level, colours, whether call sites are
reported, and the layout. -/
def Logging.options (c : Logging) : Except Fault Journal.Config :=
  match Level.parse c.level with
  | (_, some e) => .error (.config "logging.level" (.text c.level) "invalid log level" (some e))
  | (level, none) =>
    .ok { level := level, colors := c.colors,
          layout := if Text.lower c.format == "json" then .json {} else .text {} }

/-- The number of options a logger is built from: level, colours, call sites and layout. -/
def Logging.optionCount (_ : Logging) : Nat := 4

/-- **Building the logger**: checks the settings, then gives the logger settings and where the
entries go. -/
def Logging.journal (c : Logging) (opens : String → Except String Unit) :
    Except Fault (Journal.Config × Outlet) := do
  c.validate
  let options ← c.options
  let outlet ← c.outlet opens
  return (options, outlet)

/-- **Settings as JSON**: durations in nanoseconds; an empty dialect and an empty file path are
left out. -/
def Settings.toJson (s : Settings) : Json :=
  let d := s.database
  let l := s.logging
  .obj [("database", .obj ([("driver", .str d.driver), ("dsn", .str d.dsn)] ++
      (if d.dialect.isEmpty then [] else [("dialect", .str d.dialect)]) ++
      [("max_open_conns", Json.int d.maxOpen), ("max_idle_conns", Json.int d.maxIdle),
       ("conn_max_lifetime", Json.int d.lifetime.nanos),
       ("conn_max_idle_time", Json.int d.idleTime.nanos)])),
    ("logging", .obj ([("level", .str l.level), ("format", .str l.format), ("output", .str l.output)] ++
      (if l.filePath.isEmpty then [] else [("file_path", .str l.filePath)]) ++
      [("colors", .bool l.colors), ("report_caller", .bool l.reportCaller)])),
    ("builder", .obj [("log_queries", .bool s.tuning.logQueries)])]

namespace Store

/-- **A store with defaults**: the settings' defaults, those of `extra` replacing them key by
key, and the checks to validate with. -/
def create (extra : List (String × Value)) (checks : List Check) : Store :=
  let merged := extra.foldl (fun acc (k, v) =>
    if acc.any (·.1 == k) then acc.map (fun p => if p.1 == k then (k, v) else p) else acc ++ [(k, v)])
    Settings.entries
  { (merged.foldl (fun s (k, v) => s.setDefault k v) ({} : Store)) with checks := checks }

/-- A fault about decoding under a key. -/
def decodeFault (key : String) (report : String) : Fault :=
  .config key .null "cannot decode settings" (some (.plain report))

/-- **The settings of a store**, decoded and checked. -/
def unmarshal (s : Store) : Except Fault Settings := do
  let settings ← match Settings.decode s.settingsTree with
    | .ok v => pure v
    | .error report => throw (decodeFault "" report)
  settings.validate
  return settings

/-- **The value under a key** as a whole, null when there is none. -/
def unmarshalKey (s : Store) (key : String) : Value := (s.get? key).getD .null

/-- **The value under a key as a list of integers**; none when there is no value. -/
def unmarshalInts (s : Store) (key : String) : Except Fault (Option (List Int)) :=
  match s.get? key with
  | none => .ok none
  | some v =>
    let (ns, problems) := Id.run ((intList v).run [])
    if problems.isEmpty then .ok (some ns) else .error (decodeFault key (Convert.report problems))

end Store
end QueryKit.Config
