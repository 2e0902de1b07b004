import QueryKit.Sql.Dialect

/-!
# Database engines

The drivers a connection can be opened with, by the names they are registered under, and the
family of each: the dialect its statements are written in.

* `Engine.family` is `postgres`, `mysql` or `sqlite` for the drivers of those engines, and empty
  for the scripted connection, whose family is unknown;
* `Engine.named` finds the driver registered under a name; a name no driver is registered under
  is refused with `unknownDriver`;
* `detect` is the family of a connection's driver, empty for a value that is no connection;
  statements on a connection of an unknown family are written for MySQL.
-/

namespace QueryKit.Session

/-- **Database drivers.** -/
inductive Engine where
  /-- The PostgreSQL driver. -/
  | postgres
  /-- The MySQL driver. -/
  | mysql
  /-- The SQLite driver built on the C library. -/
  | sqlite3
  /-- The SQLite driver written without the C library. -/
  | sqlite
  /-- The connection that answers from a script. -/
  | scripted
  deriving BEq, Inhabited, Repr

namespace Engine

/-- **The family of a driver**: the name of its dialect, empty when unknown. -/
def family : Engine → String
  | .postgres => "postgres"
  | .mysql => "mysql"
  | .sqlite3 | .sqlite => "sqlite"
  | .scripted => ""

/-- **The driver registered under a name.** -/
def named : String → Option Engine
  | "postgres" => some .postgres
  | "mysql" => some .mysql
  | "sqlite3" => some .sqlite3
  | "sqlite" => some .sqlite
  | "oraclefake" => some .scripted
  | _ => none

/-- The dialect of a driver: that of its family, MySQL when the family is unknown. -/
def dialect (e : Engine) : Sql.Dialect := Sql.Dialect.forDriver e.family

end Engine

/-- **The family of a connection's driver**, empty for anything that is not a connection. -/
def detect : Option Engine → String
  | some e => e.family
  | none => ""

/-- The complaint about a name no driver is registered under. -/
def unknownDriver (name : String) : String :=
  "sql: unknown driver " ++ Text.quote name ++ " (forgotten import?)"

end QueryKit.Session
