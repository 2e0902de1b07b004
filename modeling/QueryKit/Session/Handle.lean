import QueryKit.Session.Connection
import QueryKit.Session.Engine
import QueryKit.Config.Settings

/-!
# Database handles and transactions

A handle writes its statements in one dialect over a connection, and logs what happens to its
transactions. Builders made from a handle run their statements on its connection; those made
from a transaction run them in it.

* a transaction that has been committed or rolled back is *ended*: committing it, rolling it
  back or running a statement in it again fails without reaching the connection;
* committing or rolling back ends a transaction even when the connection refuses;
* `transaction` starts a transaction, runs a body in it, and commits when the body succeeds;
  a body that fails or stops is rolled back, with its message as the reason, and its fault is
  the transaction's, unless the rollback fails too;
* `connect` opens a handle from database settings: the settings are checked, the driver must be
  registered, and the database must answer; the dialect is the one the settings name, or else
  that of the driver's family.
-/

namespace QueryKit.Session

open Query Journal

/-- **Database handles**: the dialect statements are written in, and whether statements are
logged. -/
structure Handle where
  dialect : Sql.Dialect
  logQueries : Bool := true

/-- **Transactions**: whether the transaction has been committed or rolled back. -/
structure Tx where
  ended : Bool := false
  deriving Inhabited

/-- **The state of a session**: the state of a handle's connection, and the entries logged so
far. -/
structure State (σ : Type) where
  conn : σ
  logs : List Entry := []

/-- Computations over a session. -/
abbrev SessionM (σ : Type) := StateM (State σ)

/-- **How a transaction's body ends**: it succeeds, fails with a fault, or stops with a message
that is not a fault. -/
inductive Ending where
  | done
  | failed (f : Fault)
  | stopped (message : String)
  deriving Inhabited

namespace State

variable {σ : Type}

/-- Logs an entry. -/
def log (e : Entry) : SessionM σ Unit := modify fun s => { s with logs := s.logs ++ [e] }

/-- Hands a call to the connection state. -/
def onConn {α : Type} (f : σ → α × σ) : SessionM σ α := do
  let s ← get
  let (a, conn) := f s.conn
  set { s with conn }
  return a

end State

/-- The fault of using a transaction that has ended. -/
def txDone : Fault := .plain "sql: transaction has already been committed or rolled back"

/-- **Statements in a transaction**: those of the connection while the transaction lasts; once it
has ended, every statement fails without reaching the connection. -/
def Tx.executor {σ : Type} (c : Connection σ) (tx : Tx) : Executor σ :=
  if tx.ended then { query := fun _ _ s => (.error txDone, s), exec := fun _ _ s => (.error txDone, s) }
  else c.toExecutor

namespace Handle

variable {σ : Type}

open State

/-- **A builder** of the handle: its dialect, logging as the handle does. -/
def builder (h : Handle) : Builder := Builder.new h.dialect h.logQueries

/-- **Starting a transaction.** -/
def begin (c : Connection σ) : SessionM σ (Except Fault Tx) := do
  match ← onConn c.begin with
  | .error e =>
    log ⟨Level.error, "transaction begin failed", [("error", .failure e.message)]⟩
    return .error (.transaction "" "begin" "cannot start transaction" (some e))
  | .ok () =>
    log ⟨Level.debug, "transaction started", []⟩
    return .ok {}

/-- **Committing a transaction**: its fault, if any, and the transaction, now ended. -/
def commit (c : Connection σ) (tx : Tx) : SessionM σ (Option Fault × Tx) := do
  let r ← if tx.ended then pure (.error txDone) else onConn c.commit
  match r with
  | .error e =>
    log ⟨Level.error, "transaction commit failed", [("error", .failure e.message)]⟩
    return (some (.transaction "" "commit" "cannot commit transaction" (some e)), { ended := true })
  | .ok () =>
    log ⟨Level.debug, "transaction committed", []⟩
    return (none, { ended := true })

/-- **Rolling back a transaction** for a reason: its fault, if any, and the transaction, now
ended. -/
def rollback (c : Connection σ) (tx : Tx) (reason : String := "requested") :
    SessionM σ (Option Fault × Tx) := do
  let r ← if tx.ended then pure (.error txDone) else onConn c.rollback
  match r with
  | .error e =>
    log ⟨Level.error, "transaction rollback failed", [("error", .failure e.message), ("reason", .text reason)]⟩
    return (some (.transaction "" "rollback" "cannot roll back transaction" (some e)), { ended := true })
  | .ok () =>
    log ⟨Level.debug, "transaction rolled back", [("reason", .text reason)]⟩
    return (none, { ended := true })

/-- **Running a body in a transaction**: what the body gave, if it ran, and how the transaction
ended. The body gets the transaction and gives it back as it left it. -/
def transaction {α : Type} (c : Connection σ) (body : Tx → SessionM σ (α × Tx × Ending)) :
    SessionM σ (Option α × Ending) := do
  match ← begin c with
  | .error e => return (none, .failed e)
  | .ok tx =>
    let (a, tx, ending) ← body tx
    match ending with
    | .stopped m =>
      let _ ← rollback c tx ("panic: " ++ m)
      return (some a, .stopped m)
    | .failed f =>
      match (← rollback c tx f.message).1 with
      | some r =>
        return (some a, .failed (.transaction "" "rollback"
          ("rollback after " ++ Text.quote f.message ++ " failed") (some r)))
      | none => return (some a, .failed f)
    | .done =>
      match (← commit c tx).1 with
      | some e => return (some a, .failed e)
      | none => return (some a, .done)

/-- **Checking that the database answers.** -/
def ping (h : Handle) (c : Connection σ) : SessionM σ (Option Fault) := do
  match ← onConn c.ping with
  | .error e => return some (.connection h.dialect.name "ping failed" (some e))
  | .ok () => return none

/-- **Opening a handle** from database settings over the connection of the driver registered
under the settings' driver name, if there is one. -/
def connect (cfg : Config.Database) (c : Connection σ) (logQueries : Bool := true) :
    SessionM σ (Except Fault Handle) := do
  match cfg.validate with
  | .error f => return .error f
  | .ok () =>
    match Engine.named cfg.driver with
    | none => return .error (.connection cfg.driver "cannot open database" (some (.plain (unknownDriver cfg.driver))))
    | some engine =>
      match ← onConn c.ping with
      | .error e => return .error (.connection cfg.driver "cannot reach database" (some e))
      | .ok () =>
        let dialect := match Sql.Dialect.byName cfg.dialect with
          | .ok d => if cfg.dialect.isEmpty then engine.dialect else d
          | .error _ => engine.dialect
        log ⟨Level.debug, "database opened", [("driver", .text cfg.driver), ("dialect", .text dialect.name)]⟩
        return .ok { dialect, logQueries }

end Handle
end QueryKit.Session
