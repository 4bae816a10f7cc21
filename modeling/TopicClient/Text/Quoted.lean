import TopicClient.Json.Printer
import TopicClient.Text.Silent

/-!
# Quoted text

The form of a text that shows it unambiguously on one line: in double quotes,
with quotes and backslashes escaped, short escapes for the common controls and
the code in braces for the other characters that print nothing of their own.
-/

namespace TopicClient.Text

def hexDigitsReversed (n : Nat) : List Char :=
  if n < 16 then [Json.hexChar n] else Json.hexChar (n % 16) :: hexDigitsReversed (n / 16)
termination_by n

def showChar (c : Char) : List Char :=
  if c = '"' then ['\\', '"']
  else if c = '\\' then ['\\', '\\']
  else if c = '\n' then ['\\', 'n']
  else if c = '\r' then ['\\', 'r']
  else if c = '\t' then ['\\', 't']
  else if c.toNat = 0 then ['\\', '0']
  else if isSilent c then
    '\\' :: 'u' :: '\x7b' :: ((hexDigitsReversed c.toNat).reverse ++ ['\x7d'])
  else [c]

def quoted (s : String) : String :=
  String.ofList ('"' :: (s.toList.flatMap showChar ++ ['"']))

end TopicClient.Text
