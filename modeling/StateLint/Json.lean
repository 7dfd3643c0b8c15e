import StateLint.Text.Split

/-! JSON values and their layout over several lines. -/
namespace StateLint

inductive Json where
  | null
  | bool (value : Bool)
  | number (value : Nat)
  | string (value : String)
  | array (items : List Json)
  | object (members : List (String × Json))

namespace Json

def hexDigit (n : Nat) : Char := if n < 10 then Char.ofNat (48 + n) else Char.ofNat (87 + n)

def escaped (c : Char) : List Char :=
  match c with
  | '"' => ['\\', '"']
  | '\\' => ['\\', '\\']
  | '\x08' => ['\\', 'b']
  | '\x0c' => ['\\', 'f']
  | '\n' => ['\\', 'n']
  | '\r' => ['\\', 'r']
  | '\t' => ['\\', 't']
  | c =>
    if c.toNat < 0x20 then
      ['\\', 'u', '0', '0', hexDigit (c.toNat / 16), hexDigit (c.toNat % 16)]
    else [c]

def quoted (s : String) : List Char := '"' :: s.toList.flatMap escaped ++ ['"']

def newline (level : Nat) : List Char := '\n' :: List.replicate (2 * level) ' '

mutual

/-- The text of a value that begins in a line of the given level: each item of an array and each
member of an object stands on a line of its own. -/
def pretty (level : Nat) (value : Json) : List Char :=
  match value with
  | .null => "null".toList
  | .bool b => (if b then "true" else "false").toList
  | .number n => (toString n).toList
  | .string s => quoted s
  | .array [] => "[]".toList
  | .array (v :: vs) =>
    '[' :: newline (level + 1) ++ pretty (level + 1) v ++ prettyItems (level + 1) vs ++
      newline level ++ [']']
  | .object [] => ['\x7b', '\x7d']
  | .object ((k, v) :: ms) =>
    '\x7b' :: newline (level + 1) ++ quoted k ++ [':', ' '] ++ pretty (level + 1) v ++
      prettyMembers (level + 1) ms ++ newline level ++ ['\x7d']

def prettyItems (level : Nat) (items : List Json) : List Char :=
  match items with
  | [] => []
  | v :: vs => ',' :: newline level ++ pretty level v ++ prettyItems level vs

def prettyMembers (level : Nat) (members : List (String × Json)) : List Char :=
  match members with
  | [] => []
  | (k, v) :: ms =>
    ',' :: newline level ++ quoted k ++ [':', ' '] ++ pretty level v ++ prettyMembers level ms

end

def render (value : Json) : String := String.ofList (pretty 0 value)

end Json

end StateLint
