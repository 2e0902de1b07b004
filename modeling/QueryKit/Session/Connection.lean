import QueryKit.Query.Run

/-!
# Connections

What a database handle needs of the connection under it: running statements, starting, committing
and rolling back transactions, and checking that the database answers. Each call works on a
state of the connection's own and gives the state after it.
-/

namespace QueryKit.Session

open Query

/-- **Connections** to a database, with a state of their own. -/
structure Connection (σ : Type) extends Executor σ where
  /-- Starts a transaction. -/
  begin : σ → Except Fault Unit × σ
  /-- Commits the transaction. -/
  commit : σ → Except Fault Unit × σ
  /-- Rolls the transaction back. -/
  rollback : σ → Except Fault Unit × σ
  /-- Checks that the database answers. -/
  ping : σ → Except Fault Unit × σ

end QueryKit.Session
