namespace SizeRequest.Text

/-- The characters with the Unicode property White_Space. -/
def isBlank (c : Char) : Bool :=
  let n := c.toNat
  (9 ≤ n && n ≤ 13) || n == 0x20 || n == 0x85 || n == 0xA0 || n == 0x1680
    || (0x2000 ≤ n && n ≤ 0x200A) || n == 0x2028 || n == 0x2029 || n == 0x202F
    || n == 0x205F || n == 0x3000

def trim (s : List Char) : List Char :=
  ((s.dropWhile isBlank).reverse.dropWhile isBlank).reverse

/-- The texts between the commas, trimmed, the blank ones left out. -/
def items (s : String) : List String :=
  (((s.toList.splitOn ',').map trim).filter (!·.isEmpty)).map String.ofList

def join (separator : String) (texts : List String) : String :=
  String.intercalate separator texts

def sameIgnoringCase (a b : String) : Bool :=
  a.toList.map Char.toLower == b.toList.map Char.toLower

end SizeRequest.Text
