namespace TraceView.Text

/-- Space, tab, line feed, form feed and carriage return; not the vertical tab. -/
def isAsciiBlank (c : Char) : Bool :=
  c == ' ' || c == '\t' || c == '\n' || c == '\x0c' || c == '\r'

def isBlank (c : Char) : Bool :=
  let n := c.toNat
  (9 ≤ n && n ≤ 13) || n == 0x20 || n == 0x85 || n == 0xA0 || n == 0x1680 ||
    (0x2000 ≤ n && n ≤ 0x200A) || n == 0x2028 || n == 0x2029 || n == 0x202F || n == 0x205F ||
    n == 0x3000

def trimLeft (isBlank : Char → Bool) (s : String) : String :=
  String.ofList (s.toList.dropWhile isBlank)

def trimRight (isBlank : Char → Bool) (s : String) : String :=
  String.ofList (s.toList.reverse.dropWhile isBlank).reverse

def trim (isBlank : Char → Bool) (s : String) : String := trimLeft isBlank (trimRight isBlank s)

end TraceView.Text
