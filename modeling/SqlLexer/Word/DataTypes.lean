import SqlLexer.Word.Table

/-!
# Data types

The names of the built-in types: numeric, serial, character, temporal, network, geometric, text
search, object identifier and miscellaneous ones.
-/

namespace SqlLexer
namespace Word

/-- The spellings of all built-in type names, ascending. -/
def dataTypeSpellings : List String := [
  "ANYARRAY", "ANYELEMENT", "BIGINT", "BIGSERIAL", "BIT", "BOOL", "BOOLEAN", "BOX", "BPCHAR",
  "BYTEA", "CHAR", "CHARACTER", "CID", "CIDR", "CIRCLE", "CITEXT", "DATE", "DATERANGE",
  "DECIMAL", "DOUBLE", "FLOAT", "FLOAT4", "FLOAT8", "HSTORE", "INET", "INT", "INT2", "INT4",
  "INT4RANGE", "INT8", "INT8RANGE", "INTEGER", "INTERVAL", "JSON", "JSONB", "JSONPATH", "LINE",
  "LSEG", "MACADDR", "MACADDR8", "MONEY", "NAME", "NUMERIC", "NUMRANGE", "OID", "PATH",
  "PG_LSN", "POINT", "POLYGON", "PRECISION", "REAL", "RECORD", "REGCLASS", "REGCONFIG",
  "REGDICTIONARY", "REGNAMESPACE", "REGOPER", "REGOPERATOR", "REGPROC", "REGPROCEDURE",
  "REGROLE", "REGTYPE", "SERIAL", "SERIAL2", "SERIAL4", "SERIAL8", "SMALLINT", "SMALLSERIAL",
  "TEXT", "TID", "TIME", "TIMESTAMP", "TIMESTAMPTZ", "TIMETZ", "TSQUERY", "TSRANGE",
  "TSTZRANGE", "TSVECTOR", "TXID_SNAPSHOT", "UUID", "VARBIT", "VARCHAR", "VARYING", "VOID",
  "XID", "XML"]

/-- The built-in type names as a table. -/
def dataTypes : Table :=
  .ofSpellings dataTypeSpellings

/-- Whether a word names a built-in type in some case of its letters. -/
def isDataType (word : Text) : Bool :=
  dataTypes.contains word

end Word
end SqlLexer
