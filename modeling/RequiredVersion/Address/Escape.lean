import RequiredVersion.Text.Digit

/-! # Escapes in addresses

A byte is escaped as a percent sign and two digits of base 16.  Which characters stand for
themselves depends on the part of the address; characters beyond ASCII never do. -/

namespace RequiredVersion.Address

/-- A character as percent signs with the two digits of its bytes. -/
def escapeChar (c : Char) : List Char :=
  (String.singleton c).toUTF8.toList.flatMap (fun b => '%' :: (Text.hexByte b).map Char.toUpper)

/-- Escapes the characters that may not stand for themselves. -/
def escape (keeps : Char → Bool) (cs : List Char) : List Char :=
  cs.flatMap (fun c => if keeps c then [c] else escapeChar c)

/-- A character of ASCII that is neither a control character nor one of the given ones. -/
def keepsAllBut (excluded : List Char) (c : Char) : Bool :=
  0x20 ≤ c.toNat && c.toNat < 0x7F && !excluded.contains c

def keptInPlainText : Char → Bool := keepsAllBut []

def keptInPath : Char → Bool :=
  keepsAllBut [' ', '"', '<', '>', '\x60', '#', '?', '\x7b', '\x7d']

def keptInCredentials (c : Char) : Bool :=
  keptInPath c && !(['/', ':', ';', '=', '@', '[', '\\', ']', '^', '|'].contains c)

def keptInQuery (web : Bool) : Char → Bool :=
  keepsAllBut ([' ', '"', '#', '<', '>'] ++ if web then ['\''] else [])

def keptInFragment : Char → Bool := keepsAllBut [' ', '"', '<', '>', '\x60']

/-- Writes a value of a form: letters, digits and four marks stay, a blank becomes a plus sign. -/
def formValue (s : String) : List Char :=
  s.toList.flatMap (fun c =>
    if c == ' ' then ['+']
    else if c.isAlphanum || ['*', '-', '.', '_'].contains c then [c]
    else escapeChar c)

/-- The bytes that a text with escapes stands for; a percent sign without two digits stands for
itself. -/
def unescape : List Char → List UInt8
  | [] => []
  | [c] => (String.singleton c).toUTF8.toList
  | [c, d] => (String.singleton c).toUTF8.toList ++ (String.singleton d).toUTF8.toList
  | c :: h :: l :: rest =>
    match if c == '%' then Text.hexValue? h else none, Text.hexValue? l with
    | some high, some low => UInt8.ofNat (16 * high + low) :: unescape rest
    | _, _ => (String.singleton c).toUTF8.toList ++ unescape (h :: l :: rest)

/-- The text that a text with escapes stands for, if its bytes are one. -/
def unescaped? (cs : List Char) : Option String :=
  String.fromUTF8? (ByteArray.mk (unescape cs).toArray)

end RequiredVersion.Address
