import QueryKit.Fault.Basic
import QueryKit.Json.Basic
import QueryKit.Time.Civil

/-!
# Fault reports

A fault written for people — its kind in brackets, its message, and the statement behind it — or
as a JSON document with the same facts and whatever else the chain of causes carries: the
engine's code of a refused statement, the configuration key, the context of a library fault.

* `Fault.statement` is the statement of the first statement-building fault that has one, else of
  the first refused statement;
* `Report` says what goes into a report: a time, and a trace of the calls that led to the fault;
* `Report.text` and `Report.json` write a fault, and nothing stands for no fault at all;
* `Fault.uniqueViolation` tells a refused insert of a duplicate key by the engines' codes or,
  lacking one, by the message.
-/

namespace QueryKit

namespace Fault

/-- The faults along the chain of causes that are statement-building faults. -/
def firstBuild? (f : Fault) : Option (String) :=
  f.chain.findSome? fun g => match g with
    | .build _ _ _ sql _ => some sql
    | _ => none

/-- The first refused statement along the chain, with its code. -/
def firstQuery? (f : Fault) : Option (String × String) :=
  f.chain.findSome? fun g => match g with
    | .query sql _ code _ _ => some (sql, code)
    | _ => none

/-- **The statement behind a fault.** -/
def statement (f : Fault) : String :=
  match f.firstBuild? with
  | some sql => if sql.isEmpty then ((f.firstQuery?).map (·.1)).getD "" else sql
  | none => ((f.firstQuery?).map (·.1)).getD ""

/-- The configuration key of the first configuration fault along the chain. -/
def configKey? (f : Fault) : Option String :=
  f.chain.findSome? fun g => match g with
    | .config key _ _ _ => some key
    | _ => none

/-- The context of the first library fault along the chain. -/
def context? (f : Fault) : Option (List (String × Value)) :=
  f.chain.findSome? fun g => match g with
    | .internal _ ctx _ => some ctx
    | _ => none

/-- Whether one text occurs in another. -/
def containsText (s part : String) : Bool :=
  let p := part.toList
  let rec go : List Char → Bool
    | [] => p.isEmpty
    | c :: rest => (c :: rest).take p.length == p || go rest
  go s.toList

/-- **Duplicate keys.** The engines' codes for a unique constraint, or the message that a unique
constraint failed. -/
def uniqueViolation (f : Fault) : Bool :=
  ["23505", "1062", "2067"].contains f.engineCode || containsText f.message "UNIQUE constraint failed"

end Fault

/-- **What goes into a report.** -/
structure Report where
  /-- The time stamped on it, if any. -/
  time : Option Instant := none
  /-- The lines of the call trace, if one is wanted. -/
  trace : Option (List String) := none

namespace Report

/-- **A fault for people**: the time, the kind unless unknown, the message, the statement and the
trace. -/
def text (r : Report) (f : Fault) : String :=
  let stamp := match r.time with
    | some t => "[" ++ t.format "2006-01-02 15:04:05" ++ "] "
    | none => ""
  let kind := if f.kind == .unknown then "" else "[" ++ f.kind.name ++ "] "
  let sql := f.statement
  let sqlPart := if sql.isEmpty then "" else "\nSQL: " ++ sql
  let tracePart := match r.trace with
    | some lines => "\nStack Trace:\n" ++ String.join (lines.map (· ++ "\n"))
    | none => ""
  stamp ++ kind ++ f.message ++ sqlPart ++ tracePart

/-- **A fault as a JSON object**, members sorted by key. -/
def json (r : Report) (f : Fault) (now : Instant) : Json :=
  let base : List (String × Json) :=
    [("message", .str f.message), ("kind", .str f.kind.name),
      ("time", .str (now.format Instant.rfc3339Layout))]
  let sql := f.statement
  let withSql := if sql.isEmpty then [] else [("sql", .str sql)]
  let withCode := match f.firstQuery? with
    | some (_, code) => if code.isEmpty then [] else [("code", .str code)]
    | none => []
  let withKey := match f.configKey? with
    | some key => if key.isEmpty then [] else [("key", .str key)]
    | none => []
  let withContext := match f.context? with
    | some ctx => if ctx.isEmpty then []
      else [("context", .obj ((mapMembers ctx).map (fun (k, v) => (k, Json.str v.plain))))]
    | none => []
  let withTrace := match r.trace with
    | some lines => [("stack_trace", .arr (lines.map .str))]
    | none => []
  Json.sortedObj (base ++ withSql ++ withCode ++ withKey ++ withContext ++ withTrace)

end Report
end QueryKit
