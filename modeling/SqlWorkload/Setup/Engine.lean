import SqlWorkload.Failure
import SqlWorkload.Query.Dialect
/-!
# Engines

The database engines by their names, and the dialect that each is addressed in.
-/

namespace SqlWorkload

inductive Engine where
  | postgres
  | mysql
  | sqlite
deriving DecidableEq, Repr

namespace Engine

def name : Engine → String
  | postgres => "postgres"
  | mysql => "mysql"
  | sqlite => "sqlite"

/-- The engine of that name, in any case and between any blanks. -/
def ofName (text : String) : Except DatabaseError Engine :=
  let name := String.ofList (Text.lowercase (Text.trim text.toList))
  if name ∈ ["postgres", "postgresql", "pg"] then .ok postgres
  else if name ∈ ["mysql", "mariadb"] then .ok mysql
  else if name = "sqlite" then .ok sqlite
  else .error (.config ("unknown database type '" ++ name ++ "'"))

/-- The dialect that an engine is addressed in. -/
def dialect : Engine → Dialect
  | postgres => .postgres
  | mysql => .mysql
  | sqlite => .ansi

end Engine

end SqlWorkload
