import PagedListing.Sql.Cell

/-!
# Column types

The types of columns and the names by which a table declares them. A pair of brackets after a name
makes a type of lists.
-/

namespace PagedListing.Sql

/-- The type of a column. -/
inductive ColumnType where
  | boolean
  | integer (kind : IntegerKind)
  | float (kind : FloatKind)
  | text
  | blob
  | timestamp (unit : TimeUnit)
  | date
  | time
  | interval
  | list (item : ColumnType)
  deriving DecidableEq, Inhabited

namespace ColumnType

/-- The types by their names in capital letters. -/
def named : List (String × ColumnType) :=
  [("BIGINT", integer .big), ("INT8", integer .big), ("LONG", integer .big),
   ("INTEGER", integer .medium), ("INT", integer .medium), ("INT4", integer .medium),
   ("SIGNED", integer .medium), ("SMALLINT", integer .small), ("INT2", integer .small),
   ("SHORT", integer .small), ("TINYINT", integer .tiny), ("INT1", integer .tiny),
   ("HUGEINT", integer .huge), ("INT128", integer .huge),
   ("UTINYINT", integer .unsignedTiny), ("UINT8", integer .unsignedTiny),
   ("USMALLINT", integer .unsignedSmall), ("UINT16", integer .unsignedSmall),
   ("UINTEGER", integer .unsignedMedium), ("UINT32", integer .unsignedMedium),
   ("UBIGINT", integer .unsignedBig), ("UINT64", integer .unsignedBig),
   ("DOUBLE", float .double), ("FLOAT8", float .double), ("DOUBLE PRECISION", float .double),
   ("FLOAT", float .single), ("FLOAT4", float .single), ("REAL", float .single),
   ("VARCHAR", text), ("TEXT", text), ("STRING", text), ("CHAR", text), ("BPCHAR", text),
   ("BOOLEAN", boolean), ("BOOL", boolean), ("LOGICAL", boolean),
   ("BLOB", blob), ("BYTEA", blob), ("BINARY", blob), ("VARBINARY", blob),
   ("TIMESTAMP", timestamp .microsecond), ("DATETIME", timestamp .microsecond),
   ("TIMESTAMP_US", timestamp .microsecond), ("TIMESTAMPTZ", timestamp .microsecond),
   ("TIMESTAMP WITH TIME ZONE", timestamp .microsecond), ("TIMESTAMP_S", timestamp .second),
   ("TIMESTAMP_MS", timestamp .millisecond), ("TIMESTAMP_NS", timestamp .nanosecond),
   ("DATE", date), ("TIME", time), ("INTERVAL", interval)]

/-- The type of a name that is given from its end. -/
def ofReversed? : List Char → Option ColumnType
  | ']' :: '[' :: rest => (ofReversed? rest).map list
  | ' ' :: rest => ofReversed? rest
  | cs => named.lookup (String.ofList (cs.reverse.map Char.toUpper))

/-- The type with a name. -/
def ofName? (name : String) : Option ColumnType :=
  ofReversed? (name.toList.dropWhile (· = ' ')).reverse

end ColumnType

end PagedListing.Sql
