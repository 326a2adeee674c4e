/-!
Blank characters and trimming. A character is blank when it has the Unicode property `White_Space`;
trimming removes the blank characters at the two ends of a text and nothing between them.
-/

namespace RuleGate.Text

/-- The characters with the Unicode property `White_Space`. -/
def isBlank (c : Char) : Bool :=
  (0x09 ≤ c.toNat && c.toNat ≤ 0x0D) || c.toNat == 0x20 || c.toNat == 0x85 || c.toNat == 0xA0 ||
    c.toNat == 0x1680 || (0x2000 ≤ c.toNat && c.toNat ≤ 0x200A) || c.toNat == 0x2028 ||
    c.toNat == 0x2029 || c.toNat == 0x202F || c.toNat == 0x205F || c.toNat == 0x3000

/-- The text after its leading blank characters. -/
def trimStart (s : List Char) : List Char :=
  s.dropWhile isBlank

/-- The text before its trailing blank characters. -/
def trimEnd (s : List Char) : List Char :=
  (s.reverse.dropWhile isBlank).reverse

def trim (s : List Char) : List Char :=
  trimEnd (trimStart s)

/-- The number of bytes that a text takes in UTF-8. -/
def byteCount : List Char → Nat
  | [] => 0
  | c :: rest => c.utf8Size + byteCount rest

/-- The number of bytes that the leading blank characters take in UTF-8. -/
def indent (s : List Char) : Nat :=
  byteCount (s.takeWhile isBlank)

end RuleGate.Text
