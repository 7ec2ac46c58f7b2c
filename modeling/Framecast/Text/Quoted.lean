import Framecast.Text.Unprintable

/-!
# Text in log lines

A quoted string shows what a reader could not see or tell apart by its code point in hexadecimal;
quotes, backslashes and line ends have short forms. Outside quotes only the controls that a terminal
acts on are shown by number.
-/

namespace Framecast

/-- A number in hexadecimal, in lower case. -/
def hexText (n : Nat) : String := String.ofList (Nat.toDigits 16 n)

/-- One character of a quoted string. -/
def quoteCharForLog (c : Char) : String :=
  if c = '"' then "\\\""
  else if c = '\\' then "\\\\"
  else if c = '\x00' then "\\0"
  else if c = '\x09' then "\\t"
  else if c = '\x0a' then "\\n"
  else if c = '\x0d' then "\\r"
  else if isUnprintable c then "\\u\x7b" ++ hexText c.toNat ++ "\x7d"
  else c.toString

/-- A string in quotes. -/
def quoteForLog (s : String) : String :=
  "\"" ++ String.join (s.toList.map quoteCharForLog) ++ "\""

/-- One character of a message. -/
def showControl (c : Char) : String :=
  if c = '\x1b' then "\\x1b"
  else if c = '\x07' then "\\x07"
  else if c = '\x08' then "\\x08"
  else if c = '\x0c' then "\\x0c"
  else if c = '\x7f' then "\\x7f"
  else if 0x80 ≤ c.toNat ∧ c.toNat ≤ 0x9f then "\\u\x7b" ++ hexText c.toNat ++ "\x7d"
  else c.toString

/-- A message with the controls in it shown by number. -/
def showControls (s : String) : String := String.join (s.toList.map showControl)

end Framecast
