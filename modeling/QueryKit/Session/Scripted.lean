import QueryKit.Session.Connection

/-!
# Scripted connections

A connection that answers from a script and keeps what it was sent, so that what a program asks
of a database can be followed call by call without one.

* each statement, run for rows or not, takes the next reply of the script: rows under columns
  (perhaps ended by a fault instead of their end), a number of rows touched (or the fault of asking
  for it), or a refusal;
* once the script is used up, a statement gives no columns and touches no rows;
* starting, committing and rolling back a transaction are sent too, and each can be made to fail
  with a message; so can the check that the database answers, which is not sent.
-/

namespace QueryKit.Session

open Query Sql

/-- **Replies** of a scripted connection to one statement. -/
inductive Reply where
  /-- Rows under columns, and the fault that ends them instead of their end, if any. -/
  | rows (columns : List String) (rows : List (List Value)) (trailing : Option String)
  /-- A number of rows touched. -/
  | affected (n : Int)
  /-- The fault of asking how many rows were touched. -/
  | affectedFault (message : String)
  /-- The statement is refused. -/
  | refusal (message : String)
  deriving Inhabited

/-- **Calls** a connection was sent. -/
inductive Sent where
  /-- A statement run for rows, with its arguments. -/
  | query (sql : String) (args : List Argument)
  /-- A statement run for the rows it touches, with its arguments. -/
  | exec (sql : String) (args : List Argument)
  | begin
  | commit
  | rollback
  deriving Inhabited

/-- **Scripted connections**: the replies still to give, the calls sent so far, and the messages
the transaction calls and the check fail with, if they do. -/
structure Scripted where
  script : List Reply := []
  sent : List Sent := []
  failBegin : Option String := none
  failCommit : Option String := none
  failRollback : Option String := none
  failPing : Option String := none
  deriving Inhabited

namespace Scripted

/-- Keeps a call. -/
def send (c : Scripted) (s : Sent) : Scripted := { c with sent := c.sent ++ [s] }

/-- The next reply, taken off the script. -/
def next (c : Scripted) : Option Reply × Scripted :=
  match c.script with
  | r :: rest => (some r, { c with script := rest })
  | [] => (none, c)

/-- **Running a statement for rows**: rows give themselves, a refusal fails, and any other reply
gives no rows. -/
def query (text : String) (args : List Argument) (c : Scripted) : Except Fault RowSet × Scripted :=
  match (c.send (.query text args)).next with
  | (some (.rows columns rows trailing), c) => (.ok ⟨columns, rows, trailing.map Fault.plain⟩, c)
  | (some (.refusal m), c) => (.error (.plain m), c)
  | (_, c) => (.ok {}, c)

/-- **Running a statement for the rows it touches**: their number, or the fault of asking for it;
a refusal fails, and any other reply touches none. -/
def exec (text : String) (args : List Argument) (c : Scripted) : Except Fault (Except Fault Int) × Scripted :=
  match (c.send (.exec text args)).next with
  | (some (.affected n), c) => (.ok (.ok n), c)
  | (some (.affectedFault m), c) => (.ok (.error (.plain m)), c)
  | (some (.refusal m), c) => (.error (.plain m), c)
  | (_, c) => (.ok (.ok 0), c)

/-- A call that is sent and fails with a message when one is given. -/
def call (s : Sent) (failure : Option String) (c : Scripted) : Except Fault Unit × Scripted :=
  match failure with
  | some m => (.error (.plain m), c.send s)
  | none => (.ok (), c.send s)

/-- Starting a transaction. -/
def begin (c : Scripted) : Except Fault Unit × Scripted := call .begin c.failBegin c

/-- Committing a transaction. -/
def commit (c : Scripted) : Except Fault Unit × Scripted := call .commit c.failCommit c

/-- Rolling back a transaction. -/
def rollback (c : Scripted) : Except Fault Unit × Scripted := call .rollback c.failRollback c

/-- Checking that the database answers; nothing is sent. -/
def ping (c : Scripted) : Except Fault Unit × Scripted :=
  match c.failPing with
  | some m => (.error (.plain m), c)
  | none => (.ok (), c)

/-- **The scripted connection.** -/
def connection : Connection Scripted :=
  { query, exec, begin, commit, rollback, ping }

end Scripted
end QueryKit.Session
