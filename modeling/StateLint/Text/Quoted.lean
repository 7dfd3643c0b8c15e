import StateLint.Unicode.Property

/-! Texts in quotation marks, with escapes for what cannot be shown. -/
namespace StateLint.Text

def hexDigits (n : Nat) : List Char := Nat.toDigits 16 n

/-- Controls, unassigned and private characters, separators other than the space, and characters
that only extend the one before them are not shown as they are. -/
def isShown (c : Char) : Bool :=
  if c.toNat < 0x7F then 0x20 ≤ c.toNat
  else !(Unicode.Category.ofShortNames ["Cc", "Cf", "Cn", "Co", "Zl", "Zp", "Zs"]).contains c &&
    !((Unicode.Property.find? "graphemeextend").getD .empty).contains c

def escaped (c : Char) : List Char :=
  match c with
  | '"' => ['\\', '"']
  | '\\' => ['\\', '\\']
  | '\t' => ['\\', 't']
  | '\r' => ['\\', 'r']
  | '\n' => ['\\', 'n']
  | '\x00' => ['\\', '0']
  | c => if isShown c then [c] else ['\\', 'u', '\x7b'] ++ hexDigits c.toNat ++ ['\x7d']

def quoted (s : String) : String := "\"" ++ String.ofList (s.toList.flatMap escaped) ++ "\""

end StateLint.Text
