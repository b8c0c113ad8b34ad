import TraceView.Text.Tables.Unprintable
import TraceView.Text.Tables.Extend
import TraceView.Number.Hex

namespace TraceView.Text

/-- Control characters with a short escape have it; other characters that do not print, and marks
that would join the quote before them, are written as `\u` and the code point in braces. -/
def quoteChar (c : Char) : String :=
  if c = '\x00' then "\\0"
  else if c = '\t' then "\\t"
  else if c = '\r' then "\\r"
  else if c = '\n' then "\\n"
  else if c = '"' then "\\\""
  else if c = '\\' then "\\\\"
  else if graphemeExtend.contains c.toNat || unprintable.contains c.toNat then
    "\\u\x7b" ++ Hex.lower c.toNat ++ "\x7d"
  else c.toString

def quote (s : String) : String := "\"" ++ String.join (s.toList.map quoteChar) ++ "\""

end TraceView.Text
