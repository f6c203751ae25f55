/-!
# Faults of the database

Why the database does not carry out a statement.
-/

namespace Community.Database

/-- Why a statement is not carried out. -/
inductive Fault
  /-- Another row has the same values under a unique index. -/
  | duplicate
  /-- No connection became free in time. -/
  | busy
  | connection (detail : String)
  | execution (detail : String)
  | query (detail : String)
  /-- A column holds something that its type does not admit. -/
  | column (detail : String)
  | json (detail : String)
  | migration (detail : String)
  | custom (detail : String)
  | recordMissing (detail : String)
  | attributeUnset (detail : String)
  | keyConversion (detail : String)
  | keyUnknown
  | keyMissing
  | nothingInserted
  | nothingUpdated
  deriving DecidableEq, Repr

namespace Fault

/-- The fault in words. -/
def message : Fault → String
  | duplicate => "Execution Error: unique index"
  | busy => "Failed to acquire connection from pool: Connection pool timed out"
  | connection t => "Connection Error: " ++ t
  | execution t => "Execution Error: " ++ t
  | query t => "Query Error: " ++ t
  | column t => "Type Error: " ++ t
  | json t => "Json Error: " ++ t
  | migration t => "Migration Error: " ++ t
  | custom t => "Custom Error: " ++ t
  | recordMissing t => "RecordNotFound Error: " ++ t
  | attributeUnset t => "Attribute " ++ t ++ " is NotSet"
  | keyConversion t => "Type '" ++ t ++ "' cannot be converted from u64"
  | keyUnknown => "Failed to unpack last_insert_id"
  | keyMissing => "Failed to get primary key from model"
  | nothingInserted => "None of the records are inserted"
  | nothingUpdated => "None of the records are updated"

/-- A statement on a table that is not there. -/
def noTable (name : String) : Fault :=
  query ("no such table: " ++ name)

/-- A statement about a column that its table does not have. -/
def noColumn (name : String) : Fault :=
  query ("no such column: " ++ name)

/-- A new row where all identifiers are used up. -/
def full : Fault :=
  execution "database or disk is full"

/-- A row that refers to a user who is not there. -/
def orphan : Fault :=
  execution "FOREIGN KEY constraint failed"

/-- A row whose columns do not all hold what their types admit. -/
def unreadable (name : String) : Fault :=
  column ("unknown value in table " ++ name)

end Fault

end Community.Database
