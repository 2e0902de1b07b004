import QueryKit.Session.Handle
import QueryKit.Session.Scripted

/-!
# Transactions are resolved once

`Handle.transaction` starts a transaction, runs its body in it, and resolves it: it commits after
a body that succeeded and rolls back after one that failed or stopped. Whatever the connection
does with each call — every call may succeed or fail, and change the connection's state in any
way — the body runs only once the transaction has started, and then exactly one call resolves
the transaction:

* `Tx.attempt`: a resolving call reaches the connection while the transaction is open; once the
  body has ended it, the call fails at once without reaching the connection;
* `Ending.resolution`: the call that resolves a body's ending, commit after `done`, roll back
  otherwise;
* `Ending.settle`: what the transaction gives for the body's ending and that call's outcome —
  the body's fault after a rollback, the rollback's fault naming the body's message when the
  rollback fails, the commit's fault, or success; a body that stopped stops the transaction too;
* `transaction_resolves_once` says so for every connection and every body.
-/

namespace QueryKit.Session

open Query Journal

variable {σ α : Type}

/-- **A resolving call**: made on the connection while the transaction is open, and failing at
once, without reaching the connection, once the transaction has ended. -/
def Tx.attempt (tx : Tx) (call : σ → Except Fault Unit × σ) (conn : σ) : Except Fault Unit × σ :=
  if tx.ended then (.error txDone, conn) else call conn

/-- **The fault a resolving call reports**: none when it went through, else the connection's
fault under the call's name. -/
def Tx.callFault (op msg : String) : Except Fault Unit → Option Fault
  | .ok () => none
  | .error e => some (.transaction "" op msg (some e))

/-- **The call that resolves a body's ending**: commit after a body that succeeded, roll back
after one that failed or stopped. -/
def Ending.resolution (c : Connection σ) : Ending → σ → Except Fault Unit × σ
  | .done => c.commit
  | .failed _ | .stopped _ => c.rollback

/-- **What a transaction gives** for its body's ending and the outcome of the resolving call. -/
def Ending.settle : Ending → Except Fault Unit → Ending
  | .done, .ok () => .done
  | .done, .error e => .failed (.transaction "" "commit" "cannot commit transaction" (some e))
  | .failed f, .ok () => .failed f
  | .failed f, .error e =>
    .failed (.transaction "" "rollback" ("rollback after " ++ Text.quote f.message ++ " failed")
      (some (.transaction "" "rollback" "cannot roll back transaction" (some e))))
  | .stopped m, _ => .stopped m

namespace Handle

open State

/-- A step whose run is known hands its value and state to the rest. -/
theorem run_bind_of_run {β : Type} {x : SessionM σ α} {f : α → SessionM σ β} {s s' : State σ}
    {a : α} (h : x.run s = (a, s')) : (x >>= f).run s = (f a).run s' := by
  rw [StateT.run_bind, h]
  rfl

/-! ## Each call on the connection -/

theorem begin_run_error {c : Connection σ} {s : State σ} {e : Fault} {conn : σ}
    (h : c.begin s.conn = (.error e, conn)) :
    (begin c).run s = (.error (.transaction "" "begin" "cannot start transaction" (some e)),
      { conn, logs := s.logs ++ [⟨Level.error, "transaction begin failed",
        [("error", .failure e.message)]⟩] }) := by
  simp [begin, onConn, log, h]
  rfl

theorem begin_run_ok {c : Connection σ} {s : State σ} {conn : σ} (h : c.begin s.conn = (.ok (), conn)) :
    (begin c).run s = (.ok {}, { conn, logs := s.logs ++ [⟨Level.debug, "transaction started", []⟩] }) := by
  simp [begin, onConn, log, h]
  rfl

/-- A resolving attempt that fails names the connection's fault, or the ended transaction's; one
that succeeds reached the connection. -/
theorem attempt_cases {tx : Tx} {call : σ → Except Fault Unit × σ} {conn conn' : σ}
    {r : Except Fault Unit} (h : tx.attempt call conn = (r, conn')) :
    (tx.ended = true ∧ r = .error txDone ∧ conn' = conn) ∨ (tx.ended = false ∧ call conn = (r, conn')) := by
  unfold Tx.attempt at h
  cases hended : tx.ended with
  | true =>
    simp only [hended, ↓reduceIte, Prod.mk.injEq] at h
    exact .inl ⟨rfl, h.1.symm, h.2.symm⟩
  | false =>
    simp only [hended] at h
    exact .inr ⟨rfl, by simpa using h⟩

theorem commit_run {c : Connection σ} {tx : Tx} {s : State σ} {r : Except Fault Unit} {conn : σ}
    (h : tx.attempt c.commit s.conn = (r, conn)) :
    ∃ logs, (commit c tx).run s =
      ((Tx.callFault "commit" "cannot commit transaction" r, { ended := true }), { conn, logs }) := by
  rcases attempt_cases h with ⟨hended, rfl, rfl⟩ | ⟨hended, hcall⟩
  · exact ⟨_, by simp [commit, log, hended, Tx.callFault]; rfl⟩
  · cases r <;> exact ⟨_, by simp [commit, onConn, log, hended, hcall, Tx.callFault]; rfl⟩

theorem rollback_run {c : Connection σ} {tx : Tx} {s : State σ} (reason : String)
    {r : Except Fault Unit} {conn : σ} (h : tx.attempt c.rollback s.conn = (r, conn)) :
    ∃ logs, (rollback c tx reason).run s =
      ((Tx.callFault "rollback" "cannot roll back transaction" r, { ended := true }),
        { conn, logs }) := by
  rcases attempt_cases h with ⟨hended, rfl, rfl⟩ | ⟨hended, hcall⟩
  · exact ⟨_, by simp [rollback, log, hended, Tx.callFault]; rfl⟩
  · cases r <;> exact ⟨_, by simp [rollback, onConn, log, hended, hcall, Tx.callFault]; rfl⟩

/-! ## The whole transaction -/

/-- **A transaction is resolved once.** For every connection and every body: when the
transaction cannot start, the body never runs and the start's fault is the transaction's; when
it starts, the body runs once, on the fresh transaction, and then exactly one resolving call is
attempted, the one its ending calls for, and the transaction gives what `Ending.settle` says of
the body's ending and that call. -/
theorem transaction_resolves_once (c : Connection σ) (body : Tx → SessionM σ (α × Tx × Ending))
    (s : State σ) :
    (∀ e conn, c.begin s.conn = (.error e, conn) →
      (transaction c body).run s =
        ((none, .failed (.transaction "" "begin" "cannot start transaction" (some e))),
          { conn, logs := s.logs ++ [⟨Level.error, "transaction begin failed",
            [("error", .failure e.message)]⟩] })) ∧
    (∀ conn, c.begin s.conn = (.ok (), conn) →
      ∃ logs a tx ending s', (body {}).run { conn, logs } = ((a, tx, ending), s') ∧
        ((transaction c body).run s).1 =
          (some a, ending.settle (tx.attempt (ending.resolution c) s'.conn).1) ∧
        ((transaction c body).run s).2.conn = (tx.attempt (ending.resolution c) s'.conn).2) := by
  refine ⟨fun e conn hbegin => ?_, fun conn hbegin => ?_⟩
  · simp only [transaction, StateT.run_bind, begin_run_error hbegin]
    rfl
  · generalize hbody : (body {}).run { conn, logs := s.logs ++ [⟨Level.debug, "transaction started", []⟩] } = out
    obtain ⟨⟨a, tx, ending⟩, s'⟩ := out
    refine ⟨_, a, tx, ending, s', hbody, ?_⟩
    rw [transaction, run_bind_of_run (begin_run_ok hbegin)]
    dsimp only
    rw [run_bind_of_run hbody]
    dsimp only
    cases ending with
    | stopped m =>
      rcases hr : tx.attempt c.rollback s'.conn with ⟨r, conn'⟩
      obtain ⟨logs, hrun⟩ := rollback_run ("panic: " ++ m) hr
      rw [run_bind_of_run hrun]
      simp only [Ending.resolution, Ending.settle, hr]
      exact ⟨rfl, rfl⟩
    | failed f =>
      rcases hr : tx.attempt c.rollback s'.conn with ⟨r, conn'⟩
      obtain ⟨logs, hrun⟩ := rollback_run f.message hr
      rw [run_bind_of_run hrun]
      simp only [Ending.resolution, hr]
      cases r <;> exact ⟨rfl, rfl⟩
    | done =>
      rcases hr : tx.attempt c.commit s'.conn with ⟨r, conn'⟩
      obtain ⟨logs, hrun⟩ := commit_run hr
      rw [run_bind_of_run hrun]
      simp only [Ending.resolution, hr]
      cases r <;> exact ⟨rfl, rfl⟩

/-- On a connection whose commit fails, a body that succeeds gets the commit's fault, and the
connection is sent the start and one commit; on one whose start fails, nothing else is sent. The
body hands back the open transaction and the state it was given. -/
theorem failing_commit_resolved_once :
    Scripted.connection.begin { failCommit := some "disk full" } =
        (.ok (), { failCommit := some "disk full", sent := [.begin] }) ∧
      ((transaction Scripted.connection (fun tx => pure ((), tx, Ending.done))).run
          ⟨{ failCommit := some "disk full" }, []⟩).1 =
        (some (), .failed (.transaction "" "commit" "cannot commit transaction"
          (some (.plain "disk full")))) ∧
      ((transaction Scripted.connection (fun tx => pure ((), tx, Ending.done))).run
          ⟨{ failCommit := some "disk full" }, []⟩).2.conn.sent = [.begin, .commit] ∧
      Scripted.connection.begin { failBegin := some "down" } =
        (.error (.plain "down"), { failBegin := some "down", sent := [.begin] }) ∧
      ((transaction Scripted.connection (fun tx => pure ((), tx, Ending.done))).run
          ⟨{ failBegin := some "down" }, []⟩).2.conn.sent = [.begin] := by
  have hbegin : Scripted.connection.begin { failCommit := some "disk full" } =
      (.ok (), { failCommit := some "disk full", sent := [.begin] }) := rfl
  have hrefused : Scripted.connection.begin { failBegin := some "down" } =
      (.error (.plain "down"), { failBegin := some "down", sent := [.begin] }) := rfl
  obtain ⟨logs, a, tx, ending, s', hbody, hres, hconn⟩ :=
    (transaction_resolves_once Scripted.connection (fun tx => pure ((), tx, Ending.done))
      ⟨{ failCommit := some "disk full" }, []⟩).2 _ hbegin
  change (((), ({} : Tx), Ending.done), _) = _ at hbody
  simp only [Prod.mk.injEq] at hbody
  obtain ⟨⟨-, rfl, rfl⟩, rfl⟩ := hbody
  refine ⟨hbegin, by rw [hres]; rfl, by rw [hconn]; rfl, hrefused, ?_⟩
  rw [(transaction_resolves_once Scripted.connection (fun tx => pure ((), tx, Ending.done))
    ⟨{ failBegin := some "down" }, []⟩).1 _ _ hrefused]

end Handle

end QueryKit.Session
