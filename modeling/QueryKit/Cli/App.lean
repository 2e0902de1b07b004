import QueryKit.Cli.Complete
import QueryKit.Cli.Script
import QueryKit.Config.File
import QueryKit.Definition.Run
import QueryKit.Session.Handle
import QueryKit.Fault.Report
import QueryKit.Journal.Logger
import QueryKit.Value.Marshal

/-!
# The qb command line

`qb render` prints the SQL and bindings a query definition compiles to, for one dialect or all
of them; `qb run` runs it on the configured database and prints the statement and its result.

* before a command runs, the configuration is read: the file `--config` names, if any, over the
  defaults, with `--log-level` over both; the settings must decode and check out, and give the
  logger;
* results are printed as indented JSON; with `--json`, `render` prints its list of statements and
  `run` an object of the statement and the result;
* a fault is printed to the error stream, with its kind in brackets and its statement, or with
  `--json` as a JSON object; the exit code is then 1;
* a value JSON cannot hold, such as a NaN, is an internal fault: the output cannot be encoded.
-/

namespace QueryKit.Cli

open Query Session

/-- The definition file flag. -/
def fileFlag : Flag := { name := "file", short := some 'f', usage := "query definition file" }

/-- The command that prints a shell's completion script. -/
def shellCommand (sh : Shell) : Command where
  name := sh.name
  summary := "Generate the autocompletion script for " ++ sh.name
  long := sh.long "qb"
  flags := [{ name := "no-descriptions", usage := "disable completion descriptions", switch := true, default := "false" }]
  flagsInUse := false
  offer := .nothing

/-- The completion command, whose commands print the shells' scripts. -/
def completion : Command where
  name := "completion"
  summary := "Generate the autocompletion script for the specified shell"
  long := "Generate the autocompletion script for qb for the specified shell.\n" ++
    "See each sub-command's help for details on how to use the generated script.\n"
  runnable := false
  offer := .nothing
  children := Shell.all.map shellCommand

/-- The hidden command a completion script runs: it answers with the choices for the last word of
the line it is given. -/
def completeCommand : Command where
  name := "__complete"
  aliases := ["__completeNoDesc"]
  use := "[command-line]"
  summary := "Request shell completion choices for the specified command-line"
  long := "__complete is a special command that is used by the shell completion logic\n" ++
    "to request completion choices for the specified command-line."
  args := .atLeast 1
  offered := false
  flagsInUse := false
  readsFlags := false

/-- The render command. -/
def renderCommand : Command where
  name := "render"
  summary := "Print the SQL and bindings a query definition compiles to"
  flags := [fileFlag, { name := "dialect", usage := "mysql, postgres, sqlite or all", default := "mysql" }]
  required := ["file"]

/-- The run command. -/
def runCommand : Command where
  name := "run"
  summary := "Execute a query definition against the configured database"
  flags := [fileFlag]
  required := ["file"]

/-- The help command. -/
def helpCommand : Command where
  name := "help"
  use := "[command]"
  summary := "Help about any command"
  long := "Help provides help for any command in the application.\n" ++
    "Simply type qb help [path to command] for full details."
  args := .lenient
  offered := false
  offer := .topics

/-- **The commands of qb.** -/
def qb : Program where
  root := {
    name := "qb", summary := "Render and run SQL built from YAML query definitions", runnable := false,
    args := .lenient, children := [renderCommand, runCommand, helpCommand, completion] }
  persistent := [
    { name := "config", usage := "configuration file (yaml, json or toml)" },
    { name := "log-level", usage := "log level: trace, debug, info, warn, error, silent" },
    { name := "json", usage := "print results and errors as JSON", switch := true, default := "false" }]

/-- **The commands of qb with the hidden completion command**, which is there only on the lines
that call it. -/
def qbCompleting : Program :=
  { qb with root := { qb.root with children := qb.root.children ++ [completeCommand] } }

/-- The program a line runs in: with the hidden completion command when the line calls it. -/
def programFor (args : List String) : Program :=
  match qbCompleting.find args with
  | .ok l => if l.trail == [completeCommand.name] then qbCompleting else qb
  | .error _ => qb

/-- **What a run of the program is given**: the words of its command line, the files it can
read, and the time. -/
structure Invocation where
  args : List String
  folder : Config.Folder := {}
  now : Instant

/-- **What a run of the program leaves**: what it printed to each stream, and the text it appended
to files. -/
structure Console where
  stdout : String := ""
  stderr : String := ""
  appended : List (String × String) := []
  deriving Inhabited

namespace Console

/-- Prints to the output stream. -/
def out (c : Console) (s : String) : Console := { c with stdout := c.stdout ++ s }

/-- Prints to the error stream. -/
def err (c : Console) (s : String) : Console := { c with stderr := c.stderr ++ s }

/-- Writes to where log entries go. -/
def put (c : Console) (o : Config.Outlet) (s : String) : Console :=
  if s.isEmpty then c
  else match o with
    | .stdout => c.out s
    | .stderr => c.err s
    | .file path => { c with appended := c.appended ++ [(path, s)] }

end Console

/-- **What the program was set up with**: the settings, the logger, and where it writes. -/
structure Setup where
  settings : Config.Settings
  logger : Journal.Logger
  outlet : Config.Outlet

/-- Logs an entry through the setup's logger. -/
def Setup.log (env : Setup) (c : Console) (e : Journal.Entry) : Console :=
  c.put env.outlet (env.logger.log e.level e.message e.fields).text

/-- **The settings of a run**: the configuration file over the defaults, the log level flag over
both, decoded and checked. -/
def settingsOf (inv : Invocation) (parsed : Parsed) : Except Fault Config.Settings := do
  let store := Config.Store.create [] []
  let store ← match parsed.value "config" with
    | some path =>
      if path.isEmpty then pure store
      else match store.loadFile path (inv.folder.read path) with
        | (s, none) => pure s
        | (_, some f) => throw f
    | none => pure store
  let store := match parsed.value "log-level" with
    | some level => store.set "logging.level" (.text level)
    | none => store
  store.unmarshal

/-- **Setting up**: the settings, and the logger they give. -/
def setup (inv : Invocation) (parsed : Parsed) : Except Fault Setup := do
  let settings ← settingsOf inv parsed
  let (options, outlet) ← settings.logging.journal inv.folder.opens
  return { settings, logger := Journal.Logger.ofConfig { options with clock := .fixed inv.now }, outlet }

/-- **Printing a fault**: its report for people, or with `json` its JSON report. -/
def faultText (json : Bool) (now : Instant) (f : Fault) : String :=
  if json then (Report.json {} f now).writeIndented true 0 ++ "\n" else Report.text {} f ++ "\n"

/-- **Reading a query definition** from a file. -/
def loadDefinition (folder : Config.Folder) (path : String) : Except Fault Definition :=
  match folder.read path with
  | none => .error (Fault.invalid "load" ("cannot read " ++ path ++ ": open " ++ path ++ ": no such file or directory"))
  | some text => Definition.parse text

/-- A row as JSON, keys sorted. -/
def rowJson (r : Row) : Except String Json := Value.marshal (.map r)

/-- **A result as JSON**: rows as objects (none as `null`), a count as a number, a page as its
items and its window. -/
def resultJson : Result → Except String Json
  | .rows rs => if rs.isEmpty then .ok .null else (rs.mapM rowJson).map .arr
  | .row (some r) => rowJson r
  | .count n => .ok (Json.int n)
  | .counted (some p) => do
    let items ← p.items.mapM rowJson
    return Paging.Counted.toJson id ⟨items, p.window⟩
  | .sampled (some p) => do
    let items ← p.items.mapM rowJson
    return Paging.Sampled.toJson id ⟨items, p.perPage, p.currentPage, p.hasMore⟩
  | _ => .ok .null

/-- **Compiled statements as JSON**: dialect, statement, and bindings by name and value. -/
def renderingsJson (rs : List Rendering) : Except String Json := do
  let items ← rs.mapM fun r => do
    let bindings ← r.bindings.mapM fun b => do
      return Json.obj [("Name", .str b.name), ("Value", ← Value.marshal b.value)]
    return Json.obj [("dialect", .str r.dialect), ("sql", .str r.sql), ("bindings", .arr bindings)]
  return .arr items

/-- A compiled statement for people: the dialect, the statement, and the bindings if any. -/
def renderingText (r : Rendering) : String :=
  "-- " ++ r.dialect ++ "\n" ++ r.sql ++ "\n" ++
    (if r.bindings.isEmpty then "" else "-- bindings: " ++ r.bindingText ++ "\n")

/-- A word in back quotes, or in double quotes when back quotes cannot hold it. -/
def backQuoted (s : String) : String :=
  if s.toList.any (fun c => c == '\x60' || (c.toNat < 0x20 && c != '\t') || c.toNat == 0x7f) then Text.quote s
  else "\x60" ++ s ++ "\x60"

/-- **A run's exit**: the code and what was printed. -/
abbrev Exit := Nat × Console

/-- **Printing JSON**, indented; a value JSON cannot hold is an internal fault. -/
def printJson (json : Bool) (now : Instant) (c : Console) (doc : Except String Json) : Exit :=
  match doc with
  | .ok j => (0, c.out (j.writeIndented true 0 ++ "\n"))
  | .error why => (1, c.err (faultText json now (.internal "cannot encode output" [] (some (.plain why)))))

/-- **`qb render`**: the definition compiled for each dialect named, each compiled on a builder of
its own that logs through the program's logger. -/
def render (inv : Invocation) (env : Setup) (parsed : Parsed) (c : Console) : Exit :=
  let json := parsed.on "json"
  let fail (f : Fault) (c : Console) : Exit := (1, c.err (faultText json inv.now f))
  match loadDefinition inv.folder ((parsed.value "file").getD "") with
  | .error f => fail f c
  | .ok d =>
    match Dialect.named ((parsed.value "dialect").getD "mysql") with
    | .error f => fail f c
    | .ok dialects =>
      let runs := dialects.map fun dl =>
        let (o, r) := (d.run none : RunM Unit (Outcome Result)).run { builder := Builder.new dl, conn := () }
        (o.fault, (⟨dl.name, r.builder.lastSql, r.builder.lastBindings⟩ : Rendering), r.logs)
      let c := runs.foldl (fun c (_, _, logs) => logs.foldl env.log c) c
      match (runs.filterMap (·.1)).head? with
      | some f => fail f c
      | none =>
        let out := runs.map (·.2.1)
        if json then printJson json inv.now c (renderingsJson out)
        else (0, c.out (String.join (out.map renderingText)))

/-- **`qb run`**: the definition run on a handle opened from the database settings, over a
connection. -/
def run {σ : Type} (conn : Connection σ) (state : σ) (inv : Invocation) (env : Setup) (parsed : Parsed)
    (c : Console) : Exit :=
  let json := parsed.on "json"
  let fail (f : Fault) (c : Console) : Exit := (1, c.err (faultText json inv.now f))
  match loadDefinition inv.folder ((parsed.value "file").getD "") with
  | .error f => fail f c
  | .ok d =>
    let (opened, session) := (Handle.connect env.settings.database conn env.settings.tuning.logQueries).run
      { conn := state }
    let c := session.logs.foldl env.log c
    match opened with
    | .error f => fail f c
    | .ok h =>
      let (o, r) := (d.run (some conn.toExecutor)).run { builder := h.builder, conn := session.conn }
      let c := r.logs.foldl env.log c
      match o.fault with
      | some f => fail f c
      | none =>
        let sql := r.builder.lastSql
        if json then printJson json inv.now c ((resultJson o.result).map fun j => .obj [("sql", .str sql), ("result", j)])
        else printJson json inv.now (c.out (sql ++ "\n")) (resultJson o.result)

/-- **`qb help`**: the help of the command the words name, or the root's usage when they name
none. -/
def helpTopic (words : List String) : String :=
  match qb.find words with
  | .ok l => qb.help l.command l.trail
  | .error _ =>
    "Unknown help topic [" ++ " ".intercalate (words.map backQuoted) ++ "]\n" ++ qb.usage qb.root []

/-- **The words a command takes**, or why it refuses them. -/
def checkArgs (p : Program) (l : Landing) (args : List String) : Option String :=
  match l.command.args, args with
  | .none, word :: _ => some ("unknown command " ++ Text.quote word ++ " for " ++ Text.quote (p.pathOf l.trail))
  | .atLeast n, _ =>
    if args.length < n then
      some ("requires at least " ++ toString n ++ " arg(s), only received " ++ toString args.length)
    else none
  | _, _ => none

/-- **Reading a command's flags**: a command that reads none takes every word as it is. -/
def Program.parseFor (p : Program) (l : Landing) : Parsed × Option String :=
  if l.command.readsFlags then
    parseFlags (p.ownFlags l.command l.atRoot ++ p.inherited l.atRoot) (l.rest.length + 1) l.rest {}
  else ({ args := l.rest }, none)

/-- **Running qb** over a connection for the configured driver. -/
def execute {σ : Type} (conn : Connection σ) (state : σ) (inv : Invocation) : Exit :=
  let p := programFor inv.args
  match p.find inv.args with
  | .error msg => (1, ({} : Console).err (msg ++ "\n"))
  | .ok l =>
    let (parsed, problem) := p.parseFor l
    let json := parsed.on "json"
    let fail (f : Fault) : Exit := (1, ({} : Console).err (faultText json inv.now f))
    match problem with
    | some e => fail (.plain e)
    | none =>
      if parsed.on "help" || !l.command.runnable then (0, ({} : Console).out (p.help l.command l.trail))
      else
        match checkArgs p l parsed.args with
        | some e => fail (.plain e)
        | none => body p l parsed
where
  /-- The command after its words are checked: set up, its flags checked, then run. -/
  body (p : Program) (l : Landing) (parsed : Parsed) : Exit :=
    let json := parsed.on "json"
    let fail (f : Fault) : Exit := (1, ({} : Console).err (faultText json inv.now f))
    match setup inv parsed with
    | .error f => fail f
    | .ok env =>
      match l.command.required.filter (fun n => (parsed.value n).isNone) with
      | [] =>
        match l.trail with
        | ["render"] => render inv env parsed {}
        | ["run"] => run conn state inv env parsed {}
        | ["completion", shell] =>
          match Shell.all.find? (·.name == shell) with
          | some sh => (0, ({} : Console).out (sh.script p.root.name !(parsed.on "no-descriptions")))
          | none => (0, {})
        | ["__complete"] =>
          let a := p.complete parsed.args
          (0, (({} : Console).out (a.output (l.calledAs != "__completeNoDesc"))).err a.errors)
        | _ => (0, ({} : Console).out (helpTopic parsed.args))
      | missing =>
        fail (.plain ("required flag(s) \"" ++ "\", \"".intercalate missing ++ "\" not set"))

/-- **The files a command line names**: the configuration file and the query definition file. -/
def Invocation.named (args : List String) : List String :=
  let p := programFor args
  match p.find args with
  | .ok l =>
    let (parsed, _) := p.parseFor l
    ((parsed.value "config").toList ++ (parsed.value "file").toList).filter (!·.isEmpty)
  | .error _ => []

/-- **The file the configuration sends log entries to**, if it sends them to one and reads. -/
def Invocation.logFile (inv : Invocation) : Option String :=
  let p := programFor inv.args
  match p.find inv.args with
  | .ok l =>
    let (parsed, _) := p.parseFor l
    match settingsOf inv parsed with
    | .ok s =>
      if Text.lower s.logging.output == "file" && !s.logging.filePath.isEmpty then some s.logging.filePath
      else none
    | .error _ => none
  | .error _ => none

end QueryKit.Cli
