import IndexAdvisor.Text.Lowercase
import IndexAdvisor.Value

/-! # Column types

The type of a column as the standard numbering of SQL types gives it, and what a value of
each type is when no row has one.
-/

namespace IndexAdvisor.Sql

open Text

inductive SqlType where
  | bit
  | tinyint
  | smallint
  | integer
  | bigint
  | float
  | real
  | double
  | numeric
  | decimal
  | char
  | varchar
  | longvarchar
  | date
  | time
  | timestamp
  | binary
  | varbinary
  | longvarbinary
  | other
  | boolean
  | timeWithTimezone
  | timestampWithTimezone
  deriving Repr, DecidableEq

namespace SqlType

def all : List SqlType :=
  [bit, tinyint, smallint, integer, bigint, float, real, double, numeric, decimal, char,
    varchar, longvarchar, date, time, timestamp, binary, varbinary, longvarbinary, other,
    boolean, timeWithTimezone, timestampWithTimezone]

/-- The number of a type, which replay scripts carry. -/
def code : SqlType → Int
  | bit => -7
  | tinyint => -6
  | smallint => 5
  | integer => 4
  | bigint => -5
  | float => 6
  | real => 7
  | double => 8
  | numeric => 2
  | decimal => 3
  | char => 1
  | varchar => 12
  | longvarchar => -1
  | date => 91
  | time => 92
  | timestamp => 93
  | binary => -2
  | varbinary => -3
  | longvarbinary => -4
  | other => 1111
  | boolean => 16
  | timeWithTimezone => 2013
  | timestampWithTimezone => 2014

def name : SqlType → String
  | bit => "BIT"
  | tinyint => "TINYINT"
  | smallint => "SMALLINT"
  | integer => "INTEGER"
  | bigint => "BIGINT"
  | float => "FLOAT"
  | real => "REAL"
  | double => "DOUBLE"
  | numeric => "NUMERIC"
  | decimal => "DECIMAL"
  | char => "CHAR"
  | varchar => "VARCHAR"
  | longvarchar => "LONGVARCHAR"
  | date => "DATE"
  | time => "TIME"
  | timestamp => "TIMESTAMP"
  | binary => "BINARY"
  | varbinary => "VARBINARY"
  | longvarbinary => "LONGVARBINARY"
  | other => "OTHER"
  | boolean => "BOOLEAN"
  | timeWithTimezone => "TIME_WITH_TIMEZONE"
  | timestampWithTimezone => "TIMESTAMP_WITH_TIMEZONE"

def ofCode? (n : Int) : Option SqlType :=
  all.find? (·.code = n)

theorem ofCode?_code (t : SqlType) : ofCode? t.code = some t := by
  cases t <;> decide

/-- The kinds of value a type may hold. -/
inductive Family where
  | binary
  | truth
  | number
  /-- One character or a padded text. -/
  | character
  | text
  | temporal
  deriving Repr, DecidableEq

def family : SqlType → Family
  | binary | varbinary | longvarbinary => .binary
  | bit | boolean => .truth
  | tinyint | smallint | integer | bigint | float | real | double | numeric | decimal => .number
  | char => .character
  | varchar | longvarchar | other => .text
  | date | time | timestamp | timeWithTimezone | timestampWithTimezone => .temporal

/-- Whether values of the type are written in quotes. -/
def needsQuotes (t : SqlType) : Bool :=
  match t.family with
  | .character | .text | .temporal => true
  | .binary | .truth | .number => false

/-- The types of the names that PostgreSQL gives its own. -/
def postgresTypes : List (String × SqlType) :=
  [("int2", smallint), ("int4", integer), ("int8", bigint), ("oid", bigint),
    ("numeric", numeric), ("float4", real), ("float8", double), ("money", double),
    ("bool", bit), ("bit", bit), ("char", char), ("bpchar", char), ("varchar", varchar),
    ("text", varchar), ("name", varchar), ("bytea", binary), ("date", date), ("time", time),
    ("timetz", time), ("timestamp", timestamp), ("timestamptz", timestamp)]

/-- The type behind a name of PostgreSQL, in any letter case. -/
def ofPostgres (udtName : String) : SqlType :=
  (postgresTypes.lookup (lowercase udtName)).getD other

/-- The value of a column for which no row has one, at the instant `now`. -/
def defaultValue (now : DateTime) : SqlType → Value
  | binary | varbinary | longvarbinary => .bytes []
  | bit | boolean => .bool false
  | tinyint | smallint | integer | bigint | float | real | double | numeric | decimal => .int 0
  | char => .text " "
  | date => .date now.date
  | time | timeWithTimezone => .time now.unzoned.time
  | timestamp | timestampWithTimezone => .dateTime now.unzoned
  | varchar | longvarchar | other => .text ""

end SqlType

structure UnknownType where
  code : Int
  deriving Repr, DecidableEq

def UnknownType.message (e : UnknownType) : String :=
  toString e.code ++ " is not a valid SqlType"

/-- The type with a number, which must be one. -/
def SqlType.ofCode (n : Int) : Except UnknownType SqlType :=
  match SqlType.ofCode? n with
  | some t => .ok t
  | none => .error ⟨n⟩

end IndexAdvisor.Sql
