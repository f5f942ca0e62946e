import SqlLexer.Text.Basic

/-!
# JSON documents

Values of JSON and their indented form: two spaces for each level, one element or field on a
line, and nothing between the brackets of an empty array or object.  Fields keep their order.
-/

namespace SqlLexer

/-- A value of JSON with whole numbers only. -/
inductive Json where
  | null
  | bool (value : Bool)
  | number (value : Nat)
  | string (value : Text)
  | array (elements : List Json)
  | object (fields : List (Text × Json))

namespace Json

/-- Four lower-case hexadecimal digits of a small number. -/
def fourDigits (number : Nat) : Text :=
  let digits := Text.hexadecimal number
  List.replicate (4 - digits.length) '0' ++ digits

/-- The form of one character within a string. -/
def stringChar (c : Char) : Text :=
  if c = '\x22' then ['\\', '\x22']
  else if c = '\\' then ['\\', '\\']
  else if c = '\x08' then ['\\', 'b']
  else if c = '\t' then ['\\', 't']
  else if c = '\n' then ['\\', 'n']
  else if c = '\x0c' then ['\\', 'f']
  else if c = '\r' then ['\\', 'r']
  else if c.toNat < 32 then ['\\', 'u'] ++ fourDigits c.toNat
  else [c]

/-- A text as a string. -/
def renderString (text : Text) : Text :=
  '\x22' :: (text.flatMap stringChar ++ ['\x22'])

/-- A new line at a level of indentation. -/
def newLine (level : Nat) : Text :=
  '\n' :: List.replicate (2 * level) ' '

mutual

/-- The indented form of a value whose first line is at a level. -/
def render (level : Nat) : Json → Text
  | .null => "null".toList
  | .bool true => "true".toList
  | .bool false => "false".toList
  | .number value => Text.decimal value
  | .string value => renderString value
  | .array [] => ['[', ']']
  | .array (element :: rest) =>
      '[' :: (newLine (level + 1) ++ render (level + 1) element ++
        renderElements (level + 1) rest ++ newLine level ++ [']'])
  | .object [] => ['\x7b', '\x7d']
  | .object ((key, value) :: rest) =>
      '\x7b' :: (newLine (level + 1) ++ renderString key ++ [':', ' '] ++
        render (level + 1) value ++ renderFields (level + 1) rest ++ newLine level ++ ['\x7d'])

/-- The elements after the first one, each after a comma. -/
def renderElements (level : Nat) : List Json → Text
  | [] => []
  | element :: rest =>
      ',' :: (newLine level ++ render level element ++ renderElements level rest)

/-- The fields after the first one, each after a comma. -/
def renderFields (level : Nat) : List (Text × Json) → Text
  | [] => []
  | (key, value) :: rest =>
      ',' :: (newLine level ++ renderString key ++ [':', ' '] ++ render level value ++
        renderFields level rest)

end

/-- The indented form of a document. -/
def pretty (document : Json) : Text :=
  document.render 0

end Json
end SqlLexer
