import SeriesQuery.Query
import SeriesQuery.Result

/-!
# Execution in a task

A query can be executed in a task of its own. The one who waits for the task gets the outcome of the
execution, or an error if the task breaks off without any.
-/

namespace SeriesQuery

inductive Execution where
  | finished (outcome : Except Error QueryResult)
  | brokenOff

namespace Execution

def taskFailed : Error :=
  { kind := .internal, message := some "query execution task failed" }

def await : Execution → Except Error QueryResult
  | finished outcome => outcome
  | brokenOff => .error taskFailed

end Execution

/-- An executor runs a query to some end. -/
abbrev Executor := Query → Execution

def executeAsync (executor : Executor) (q : Query) : Except Error QueryResult :=
  (executor q).await

end SeriesQuery
