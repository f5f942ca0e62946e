import SqlLexer.Json
import SqlLexer.Name.Declared
import SqlLexer.Text.Listed

/-!
# Listings

Tokens and declared names are listed one on a line or as one document of JSON.  Either form
ends in a line feed.
-/

namespace SqlLexer
namespace CommandLine

/-- A line and a column at the start of a line of a listing. -/
def locationEntry (location : Location) : Text :=
  Text.decimal location.line ++ ':' :: Text.decimal location.column

/-- A token on a line of its own: place, kind and text. -/
def tokenLine (token : Token) : Text :=
  locationEntry token.location ++ ' ' :: token.kind.label.toList ++ ' ' ::
    Text.listed token.text ++ ['\n']

/-- A declared name on a line of its own: place, kind of object and name. -/
def nameLine (declared : DeclaredName) : Text :=
  locationEntry declared.location ++ ' ' :: declared.object ++ ' ' ::
    declared.name.render ++ ['\n']

/-- A token as a value. -/
def tokenJson (token : Token) : Json :=
  .object [
    ("kind".toList, .string token.kind.label.toList),
    ("span".toList, .object [
      ("start".toList, .number token.span.start),
      ("len".toList, .number token.span.length)]),
    ("line".toList, .number token.location.line),
    ("column".toList, .number token.location.column),
    ("text".toList, .string token.text)]

/-- A declared name as a value. -/
def nameJson (declared : DeclaredName) : Json :=
  .object [
    ("object".toList, .string declared.object),
    ("name".toList, .object [
      ("schema".toList, (declared.name.schema.map Json.string).getD .null),
      ("name".toList, .string declared.name.name)]),
    ("if_not_exists".toList, .bool declared.ifNotExists),
    ("line".toList, .number declared.location.line),
    ("column".toList, .number declared.location.column)]

/-- Values as one document. -/
def document (values : List Json) : Text :=
  (Json.array values).pretty ++ ['\n']

/-- A listing of tokens. -/
def listTokens (all json : Bool) (tokens : List Token) : Text :=
  let shown := if all then tokens else Token.significant tokens
  if json then document (shown.map tokenJson)
  else shown.flatMap tokenLine

/-- A listing of declared names. -/
def listNames (json : Bool) (names : List DeclaredName) : Text :=
  if json then document (names.map nameJson)
  else names.flatMap nameLine

end CommandLine
end SqlLexer
