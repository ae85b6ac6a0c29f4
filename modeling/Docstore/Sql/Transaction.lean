/-!
# Transaction statements

Sessions number their savepoints. The transaction around a single operation has savepoints with
names instead.
-/

namespace Docstore.Sql

/-- The transaction of a session. -/
inductive TransactionControl
  | start
  | commit
  | rollback
  | savepoint (id : Nat)
  | release (id : Nat)
  | rollbackTo (id : Nat)
deriving DecidableEq, Repr

def TransactionControl.text : TransactionControl → String
  | start => "BEGIN"
  | commit => "COMMIT"
  | rollback => "ROLLBACK"
  | savepoint id => "SAVEPOINT sp_" ++ toString id
  | release id => "RELEASE SAVEPOINT sp_" ++ toString id
  | rollbackTo id => "ROLLBACK TO SAVEPOINT sp_" ++ toString id

/-- The transaction around an operation. -/
inductive ScopeControl
  | start
  | commit
  | rollback
  | savepoint (name : String)
  | release (name : String)
  | rollbackTo (name : String)
deriving DecidableEq, Repr

def ScopeControl.text : ScopeControl → String
  | start => "START TRANSACTION"
  | commit => "COMMIT"
  | rollback => "ROLLBACK"
  | savepoint name => "SAVEPOINT " ++ name
  | release name => "RELEASE " ++ name
  | rollbackTo name => "ROLLBACK TO " ++ name

end Docstore.Sql
