import TopicClient.Json.Basic
import TopicClient.Json.Decimal

/-!
# Compact text of values

No blanks between tokens. Inside a string the quote, the backslash and the
control characters are escaped, the common ones by a letter and the others by
four lower-case hexadecimal digits; everything else stands for itself, so a
line feed never occurs in the text of a value.
-/

namespace TopicClient.Json

def hexChar (d : Nat) : Char :=
  if d < 10 then Char.ofNat ('0'.toNat + d) else Char.ofNat ('a'.toNat + (d - 10))

def escapeChar (c : Char) : List Char :=
  if c = '"' then ['\\', '"']
  else if c = '\\' then ['\\', '\\']
  else if c = '\n' then ['\\', 'n']
  else if c = '\r' then ['\\', 'r']
  else if c = '\t' then ['\\', 't']
  else if c.toNat = 8 then ['\\', 'b']
  else if c.toNat = 12 then ['\\', 'f']
  else if c.toNat < 32 then
    ['\\', 'u', '0', '0', hexChar (c.toNat / 16), hexChar (c.toNat % 16)]
  else [c]

def quotedChars (s : String) : List Char :=
  '"' :: (s.toList.flatMap escapeChar ++ ['"'])

def Number.chars : Number → List Char
  | .int i => intChars i
  | .float x => x.chars

mutual

def chars : Json → List Char
  | .null => ['n', 'u', 'l', 'l']
  | .bool true => ['t', 'r', 'u', 'e']
  | .bool false => ['f', 'a', 'l', 's', 'e']
  | .num n => n.chars
  | .str s => quotedChars s
  | .arr [] => ['[', ']']
  | .arr (x :: xs) => '[' :: (x.chars ++ itemsChars xs)
  | .obj [] => ['\x7b', '\x7d']
  | .obj ((k, x) :: ms) => '\x7b' :: (quotedChars k ++ ':' :: (x.chars ++ membersChars ms))
termination_by structural v => v

/-- The items after the first, with the closing bracket. -/
def itemsChars : List Json → List Char
  | [] => [']']
  | x :: xs => ',' :: (x.chars ++ itemsChars xs)
termination_by structural xs => xs

/-- The members after the first, with the closing brace. -/
def membersChars : List (String × Json) → List Char
  | [] => ['\x7d']
  | (k, x) :: ms => ',' :: (quotedChars k ++ ':' :: (x.chars ++ membersChars ms))
termination_by structural ms => ms

end

def text (v : Json) : String := String.ofList v.chars

end TopicClient.Json
