import QueryKit.Fault.Basic
import QueryKit.Text.Case
import QueryKit.Text.Blank

/-!
# Keywords

The words a caller may choose: comparison operators, join types and sort directions. Each is
checked against its allow-list before it reaches a statement.

* `checkOperator` accepts `=`, `!=`, `>`, `>=`, `<`, `<=` exactly;
* `parseJoinKind` accepts `INNER`, `LEFT`, `RIGHT`, `FULL` and `parseDirection` accepts `ASC` and
  `DESC`, both after trimming blanks and upper-casing, and give the upper-case word.
-/

namespace QueryKit.Sql

/-- The comparison operators a comparison may use. -/
def comparisonOperators : List String := ["=", "!=", ">", ">=", "<", "<="]

/-- **Operators.** -/
def checkOperator (op : String) : Except Fault Unit :=
  if comparisonOperators.contains op then .ok ()
  else .error (Fault.invalid "where" ("invalid operator " ++ Text.quote op))

/-- **Join types.** -/
def parseJoinKind (s : String) : Except Fault String :=
  let w := Text.upper (Text.trim s)
  if ["INNER", "LEFT", "RIGHT", "FULL"].contains w then .ok w
  else .error (Fault.invalid "join" ("invalid join type " ++ Text.quote s))

/-- **Sort directions.** -/
def parseDirection (s : String) : Except Fault String :=
  let w := Text.upper (Text.trim s)
  if ["ASC", "DESC"].contains w then .ok w
  else .error (Fault.invalid "orderBy" ("invalid order direction " ++ Text.quote s))

end QueryKit.Sql
