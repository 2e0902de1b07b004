import QueryKit.Value.Render

/-!
# Faults

Everything that can go wrong, as data. A fault is one of a fixed set of causes, each with the
facts its message needs, and may carry the fault that caused it. Every fault has a *kind*, the
class a caller branches on.

* `Kind` lists the eleven kinds and `unknown`, with their names, numbers, labels and the fixed
  text of each kind's bare fault;
* `Fault.message` writes a fault as one line, its cause's message after a colon;
* `Fault.kind` is the kind of the first fault along the chain of causes that has one of its own,
  else the kind of a bare kind fault in the chain, else `unknown`;
* `Fault.isOfKind` tells whether a fault, or one of its causes, stands for a given kind.
-/

namespace QueryKit

/-- **Kinds of fault.** -/
inductive Kind where
  /-- Not classified. -/
  | unknown
  /-- A caller passed something unusable. -/
  | invalidInput
  /-- An update or delete without a condition. -/
  | unsafeMutation
  /-- A statement without a table. -/
  | missingTable
  /-- The database refused a statement. -/
  | executionFailure
  /-- The dialect cannot express a request. -/
  | unsupportedFeature
  /-- A looked-for row is not there. -/
  | notFound
  /-- A configuration value is unusable. -/
  | configuration
  /-- The database cannot be reached. -/
  | connection
  /-- A transaction step failed. -/
  | transaction
  /-- A record type or value cannot be mapped. -/
  | model
  /-- A fault of the library itself. -/
  | internal
  deriving DecidableEq, Repr, Inhabited

namespace Kind

/-- The classified kinds in order of their numbers. -/
def classified : List Kind :=
  [.invalidInput, .unsafeMutation, .missingTable, .executionFailure, .unsupportedFeature,
    .notFound, .configuration, .connection, .transaction, .model, .internal]

/-- The number of a kind. -/
def number : Kind → Nat
  | .unknown => 0
  | .invalidInput => 1
  | .unsafeMutation => 2
  | .missingTable => 3
  | .executionFailure => 4
  | .unsupportedFeature => 5
  | .notFound => 6
  | .configuration => 7
  | .connection => 8
  | .transaction => 9
  | .model => 10
  | .internal => 11

/-- The kind of a number; numbers without a kind are `unknown`. -/
def ofInt (n : Int) : Kind :=
  match classified.find? (fun k => (k.number : Int) == n) with
  | some k => k
  | none => .unknown

/-- The name of a kind. -/
def name : Kind → String
  | .unknown => "Unknown"
  | .invalidInput => "InvalidInput"
  | .unsafeMutation => "UnsafeMutation"
  | .missingTable => "MissingTable"
  | .executionFailure => "ExecutionFailure"
  | .unsupportedFeature => "UnsupportedFeature"
  | .notFound => "NotFound"
  | .configuration => "Configuration"
  | .connection => "Connection"
  | .transaction => "Transaction"
  | .model => "Model"
  | .internal => "Internal"

/-- The text of the bare fault of a kind; `unknown` has none. -/
def sentinelText : Kind → Option String
  | .unknown => none
  | .invalidInput => some "invalid input"
  | .unsafeMutation => some "dangerous query: mutation without where clause"
  | .missingTable => some "missing table"
  | .executionFailure => some "query execution failed"
  | .unsupportedFeature => some "unsupported feature"
  | .notFound => some "entity not found"
  | .configuration => some "invalid configuration"
  | .connection => some "database connection failed"
  | .transaction => some "transaction operation failed"
  | .model => some "invalid model structure"
  | .internal => some "internal error"

/-- The label that opens the message of a statement fault of this kind. -/
def label : Kind → String
  | .unsafeMutation => "dangerous query"
  | .unsupportedFeature => "unsupported feature"
  | .missingTable => "missing table"
  | .invalidInput => "invalid input"
  | k => k.name.toLower

end Kind

/-- **Database engine faults**, as the engines' client libraries report them. -/
inductive EngineFault where
  /-- A PostgreSQL fault with its five-character code. -/
  | postgres (code message : String)
  /-- A MySQL fault with its error number. -/
  | mysql (number : Nat) (message : String)
  deriving Repr, Inhabited

/-- **Faults.** -/
inductive Fault where
  /-- A statement could not be built. -/
  | build (kind : Kind) (op message sql : String) (cause : Option Fault)
  /-- The database refused a statement. -/
  | query (sql message code : String) (bindings : Nat) (cause : Option Fault)
  /-- A configuration value is missing or unusable. -/
  | config (key : String) (value : Value) (message : String) (cause : Option Fault)
  /-- The database could not be reached. -/
  | connection (driver message : String) (cause : Option Fault)
  /-- A transaction step failed. -/
  | transaction (id operation message : String) (cause : Option Fault)
  /-- A record could not be mapped. -/
  | model (model field : String) (value : Value) (message : String) (cause : Option Fault)
  /-- A fault of the library itself, with context. -/
  | internal (message : String) (context : List (String × Value)) (cause : Option Fault)
  /-- The bare fault of a classified kind. -/
  | sentinel (kind : Kind)
  /-- A fault with a message only. -/
  | plain (message : String)
  /-- A fault with a message in front of its cause. -/
  | wrap (message : String) (cause : Fault)
  /-- A fault reported by a database engine. -/
  | engine (e : EngineFault)
  deriving Repr, Inhabited

/-- The message of an engine fault. -/
def EngineFault.message : EngineFault → String
  | .postgres _ m => "pq: " ++ m
  | .mysql n m => "Error " ++ toString n ++ ": " ++ m

/-- The code an engine fault carries: the PostgreSQL code, or the MySQL number in decimal. -/
def EngineFault.code : EngineFault → String
  | .postgres c _ => c
  | .mysql n _ => toString n

namespace Fault

/-- An invalid-input fault of an operation. -/
def invalid (op message : String) : Fault := .build .invalidInput op message "" none

/-- An unsupported-feature fault of an operation. -/
def unsupported (op message : String) : Fault := .build .unsupportedFeature op message "" none

/-- A missing-table fault of an operation. -/
def missingTable (op message : String) : Fault := .build .missingTable op message "" none

/-- A configuration fault about a key. -/
def configKey (key message : String) : Fault := .config key .null message none

/-- A model fault with a message only. -/
def modelOf (model message : String) : Fault := .model model "" .null message none

/-- `": " ++ message` of a cause, if there is one. -/
def causeSuffix (cause : Option String) : String :=
  match cause with
  | some m => ": " ++ m
  | none => ""

/-- **The message of a fault.** -/
def message : Fault → String
  | .build kind op msg _ cause =>
    kind.label ++ (if op.isEmpty then "" else " (" ++ op ++ ")") ++ ": " ++ msg ++
      causeSuffix (cause.attach.map (fun ⟨c, _⟩ => message c))
  | .query _ msg code _ cause =>
    "query error: " ++ msg ++ (if code.isEmpty then "" else " [" ++ code ++ "]") ++
      causeSuffix (cause.attach.map (fun ⟨c, _⟩ => message c))
  | .config key value msg cause =>
    "config error" ++ (if key.isEmpty then "" else " (" ++ key ++ ")") ++ ": " ++ msg ++
      (match value with | .null => "" | v => " [value=" ++ v.plain ++ "]") ++
      causeSuffix (cause.attach.map (fun ⟨c, _⟩ => message c))
  | .connection driver msg cause =>
    "connection error (" ++ driver ++ "): " ++ msg ++
      causeSuffix (cause.attach.map (fun ⟨c, _⟩ => message c))
  | .transaction _ operation msg cause =>
    "transaction error (" ++ operation ++ "): " ++ msg ++
      causeSuffix (cause.attach.map (fun ⟨c, _⟩ => message c))
  | .model record field _ msg cause =>
    "model error (" ++ record ++ ")" ++ (if field.isEmpty then "" else " field " ++ field) ++
      ": " ++ msg ++ causeSuffix (cause.attach.map (fun ⟨c, _⟩ => message c))
  | .internal msg _ cause =>
    "internal error: " ++ msg ++ causeSuffix (cause.attach.map (fun ⟨c, _⟩ => message c))
  | .sentinel kind => (kind.sentinelText).getD ""
  | .plain msg => msg
  | .wrap msg cause => msg ++ ": " ++ message cause
  | .engine e => e.message

/-- The cause of a fault, if it has one. -/
def cause? : Fault → Option Fault
  | .build _ _ _ _ c | .query _ _ _ _ c | .config _ _ _ c | .connection _ _ c
  | .transaction _ _ _ c | .model _ _ _ _ c | .internal _ _ c => c
  | .wrap _ c => some c
  | _ => none

/-- The kind a fault has of its own, if it has one. -/
def ownKind? : Fault → Option Kind
  | .build kind .. => some kind
  | .query .. => some .executionFailure
  | .config .. => some .configuration
  | .connection .. => some .connection
  | .transaction .. => some .transaction
  | .model .. => some .model
  | .internal .. => some .internal
  | _ => none

/-- The faults along the chain of causes, the fault itself first. -/
def chain (f : Fault) : List Fault :=
  go f 64
where
  go (f : Fault) : Nat → List Fault
    | 0 => [f]
    | fuel + 1 => f :: match f.cause? with
      | some c => go c fuel
      | none => []

/-- Whether a fault itself stands for a kind: a bare fault of that kind, or a fault whose own
kind it is (statement faults of a classified kind only). -/
def standsFor (f : Fault) (k : Kind) : Bool :=
  match f with
  | .sentinel k' => k' == k
  | .build kind .. => kind == k && k != .unknown
  | f => f.ownKind? == some k && k != .unknown

/-- **Matching a kind.** Whether the fault or one of its causes stands for the kind. -/
def isOfKind (f : Fault) (k : Kind) : Bool := f.chain.any (fun g => g.standsFor k)

/-- **The kind of a fault.** -/
def kind (f : Fault) : Kind :=
  match f.chain.findSome? ownKind? with
  | some k => k
  | none => match Kind.classified.find? (fun k => f.isOfKind k) with
    | some k => k
    | none => .unknown

/-- The code of the first engine fault along the chain of causes, or the empty text. -/
def engineCode (f : Fault) : String :=
  (f.chain.findSome? fun g => match g with
    | .engine e => some e.code
    | _ => none).getD ""

/-- The classified kinds the fault matches, in order. -/
def matchingKinds (f : Fault) : List Kind := Kind.classified.filter f.isOfKind

end Fault
end QueryKit
