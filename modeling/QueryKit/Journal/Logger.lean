import QueryKit.Journal.Format
import QueryKit.Value.Printf

/-!
# Loggers

A logger writes entries at or above its level to each of its outputs, after its layout, with the
fields it carries in front of each entry's own. A silent logger writes nothing and reports every
level as off. An entry at the fatal level asks the program to exit once it is written.

* `Logger.enabled` is `level ≥ the logger's level`, the silent level never being enabled;
* `Logger.withFields` gives a logger that adds fields to every entry;
* `Logger.log` gives the text written for one entry and whether an exit is asked for.
-/

namespace QueryKit.Journal

/-- **Logger settings.** -/
structure Config where
  level : Level := Level.info
  /-- The number of outputs each entry is written to. -/
  copies : Nat := 1
  layout : Layout := .text {}
  /-- The call site reported with each entry, when sites are reported. -/
  site : Option Site := none
  colors : Bool := false
  clock : Clock := .wall
  deriving Inhabited

/-- **Loggers.** -/
inductive Logger where
  /-- Writes nothing. -/
  | silent
  /-- Writes with settings, adding fields to every entry. -/
  | writer (config : Config) (fields : List (String × Value))
  deriving Inhabited

/-- **What logging gives**: the text written and whether an exit is asked for. -/
structure Written where
  text : String := ""
  exit : Bool := false

namespace Logger

/-- A logger with settings and no fields. -/
def ofConfig (c : Config) : Logger := .writer c []

/-- The level of a logger; a silent one is at the silent level. -/
def level : Logger → Level
  | .silent => Level.silent
  | .writer c _ => c.level

/-- **Whether a level is written.** -/
def enabled (l : Logger) (lv : Level) : Bool :=
  match l with
  | .silent => false
  | .writer c _ => lv.rank ≥ c.level.rank && lv.rank != Level.silent.rank

/-- Changes the settings. -/
def configure (f : Config → Config) : Logger → Logger
  | .silent => .silent
  | .writer c fs => .writer (f c) fs

/-- **Adding fields** to every entry. -/
def withFields (l : Logger) (fields : List (String × Value)) : Logger :=
  match l with
  | .silent => .silent
  | .writer c fs => .writer c (fs ++ fields)

/-- Adds the message of an error as the `error` field; no error changes nothing. -/
def withError (l : Logger) (message : Option String) : Logger :=
  match message with
  | some m => l.withFields [("error", .text m)]
  | none => l

/-- **Logging an entry.** -/
def log (l : Logger) (lv : Level) (message : String) (fields : List (String × Value) := []) :
    Written :=
  match l with
  | .silent => {}
  | .writer c fs =>
    if !l.enabled lv then {}
    else
      let r : Record := {
        entry := ⟨lv, message, fs ++ fields⟩, clock := c.clock, site := c.site, colored := c.colors }
      let text := match c.layout.write r with
        | .ok s => String.join (List.replicate c.copies s)
        | .error _ => ""
      { text, exit := lv.rank == Level.fatal.rank }

/-- Logs an entry whose message is a template filled with values. -/
def logf (l : Logger) (lv : Level) (template : String) (values : List Value) : Written :=
  l.log lv (Value.printf template values)

end Logger
end QueryKit.Journal
