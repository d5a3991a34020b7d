import LectureDeck.Json.Value
import LectureDeck.Text.Utf8

/-!
# Writing data values

Values are written on one line, or spread over lines with two spaces for each level. Texts are
quoted with escapes for quotes, backslashes and control characters, and nothing else. A garbled
value is written as the shortest text that reads as one.
-/

namespace LectureDeck.Json

/-- A character inside a quoted text. -/
def quotedChar (c : Char) : List Char :=
  if c = '"' then ['\\', '"']
  else if c = '\\' then ['\\', '\\']
  else if c = '\n' then ['\\', 'n']
  else if c = '\r' then ['\\', 'r']
  else if c = '\t' then ['\\', 't']
  else if c = '\x08' then ['\\', 'b']
  else if c = '\x0c' then ['\\', 'f']
  else if c.toNat < 32 then
    ['\\', 'u', '0', '0', Text.hexSmall (c.toNat / 16), Text.hexSmall (c.toNat % 16)]
  else [c]

def quoted (text : String) : List Char := '"' :: text.toList.flatMap quotedChar ++ ['"']

def lineStart (level : Nat) : List Char := '\n' :: List.replicate (2 * level) ' '

/-- A quoted text that stands for no characters: half of a surrogate pair. -/
def halfPair : List Char := ['"', '\\', 'u', 'd', '8', '0', '0', '"']

mutual

/-- A value spread over lines, the first of which is already at its level. -/
def prettyAt (level : Nat) : Json → List Char
  | null => "null".toList
  | bool value => (if value then "true" else "false").toList
  | number literal => literal.toList
  | string text => quoted text
  | array [] => ['[', ']']
  | array (first :: rest) =>
    '[' :: lineStart (level + 1) ++ prettyAt (level + 1) first ++ prettyItems (level + 1) rest ++
      lineStart level ++ [']']
  | object [] => ['{', '}']
  | object ((name, first) :: rest) =>
    '{' :: lineStart (level + 1) ++ quoted name ++ [':', ' '] ++ prettyAt (level + 1) first ++
      prettyMembers (level + 1) rest ++ lineStart level ++ ['}']
  | garbled => halfPair

/-- The further items of an array. -/
def prettyItems (level : Nat) : List Json → List Char
  | [] => []
  | item :: rest => ',' :: lineStart level ++ prettyAt level item ++ prettyItems level rest

/-- The further members of an object. -/
def prettyMembers (level : Nat) : List (String × Json) → List Char
  | [] => []
  | (name, value) :: rest =>
    ',' :: lineStart level ++ quoted name ++ [':', ' '] ++ prettyAt level value ++
      prettyMembers level rest

end

/-- A value spread over lines. -/
def pretty (value : Json) : String := String.ofList (prettyAt 0 value)

mutual

/-- A value on one line. -/
def compactChars : Json → List Char
  | null => "null".toList
  | bool value => (if value then "true" else "false").toList
  | number literal => literal.toList
  | string text => quoted text
  | array [] => ['[', ']']
  | array (first :: rest) => '[' :: compactChars first ++ compactItems rest
  | object [] => ['{', '}']
  | object ((name, first) :: rest) =>
    '{' :: quoted name ++ [':'] ++ compactChars first ++ compactMembers rest
  | garbled => halfPair

/-- The further items of an array, and its end. -/
def compactItems : List Json → List Char
  | [] => [']']
  | item :: rest => ',' :: compactChars item ++ compactItems rest

/-- The further members of an object, and its end. -/
def compactMembers : List (String × Json) → List Char
  | [] => ['}']
  | (name, value) :: rest =>
    ',' :: quoted name ++ [':'] ++ compactChars value ++ compactMembers rest

end

/-- A value on one line. -/
def compact (value : Json) : String := String.ofList (compactChars value)

end LectureDeck.Json
