import StateLint.Decimal
import StateLint.Text.Split
import StateLint.Yaml

/-! What the text of a scalar stands for.

Whole numbers may be decimal, hexadecimal, octal or binary. Digits behind a leading zero are a text,
and so are `yes`, `no`, `on` and `off`. -/
namespace StateLint.Yaml

def isNull (s : List Char) : Bool :=
  ["null".toList, "Null".toList, "NULL".toList, ['~']].contains s

def bool? (s : List Char) : Option Bool :=
  if ["true".toList, "True".toList, "TRUE".toList].contains s then some true
  else if ["false".toList, "False".toList, "FALSE".toList].contains s then some false
  else none

def dropSign : List Char → List Char
  | '+' :: s => s
  | '-' :: s => s
  | s => s

def isPadded (s : List Char) : Bool :=
  match dropSign s with
  | '0' :: d :: s => (d :: s).all Char.isDigit
  | _ => false

def digits? (base : Nat) (s : List Char) : Option Nat :=
  if s.isEmpty || !s.all (isDigitOf base) then none else some (numberOf base s)

def natural? (s : List Char) : Option Nat :=
  match s with
  | '0' :: 'x' :: s => digits? 16 s
  | '0' :: 'o' :: s => digits? 8 s
  | '0' :: 'b' :: s => digits? 2 s
  | s => if isPadded s then none else digits? 10 s

def integer? (s : List Char) : Option Int :=
  match s with
  | '+' :: s => (natural? s).map Int.ofNat
  | '-' :: s => (natural? s).map fun n => -(n : Int)
  | s => (natural? s).map Int.ofNat

def exponent? : List Char → Option Int
  | [] => some 0
  | _ :: s => (digits? 10 (dropSign s)).map fun n => if s.head? = some '-' then -(n : Int) else n

def decimal? (s : List Char) : Option Decimal := do
  let isMark (c : Char) : Bool := c = 'e' || c = 'E'
  let exponent ← exponent? (s.dropWhile (!isMark ·))
  let (whole, fraction) ← match Text.split '.' (s.takeWhile (!isMark ·)) with
    | [whole] => some (whole, [])
    | [whole, fraction] => some (whole, fraction)
    | _ => none
  if (whole ++ fraction).isEmpty || !(whole ++ fraction).all Char.isDigit then none
  else return .ofParts whole fraction exponent

def finite? (s : List Char) : Option UInt64 := do
  let negative := s.head? = some '-'
  let d ← decimal? (if negative then s.drop 1 else s)
  if d.isHuge then none
  else
    let x := d.toFloat
    return if x == 0 then 0 else (if negative then -x else x).toBits

def real? (s : List Char) : Option UInt64 :=
  let body := if s.head? = some '+' then s.drop 1 else s
  if [".inf".toList, ".Inf".toList, ".INF".toList].contains body then some 0x7FF0000000000000
  else if ["-.inf".toList, "-.Inf".toList, "-.INF".toList].contains s then some 0xFFF0000000000000
  else if [".nan".toList, ".NaN".toList, ".NAN".toList].contains s then some 0x7FF8000000000000
  else if s.head? = some '+' && body.head? = some '-' then none
  else finite? body

/-- Whole numbers have at most 64 bits. Larger ones are an error up to 128 bits. -/
def ofInteger? (n : Int) : Option Yaml :=
  if -Int.pow 2 63 ≤ n && n < Int.pow 2 64 then some (.integer n) else none

def isOversized (n : Int) : Bool := n < -Int.pow 2 127 || Int.pow 2 128 ≤ n

def ofPlain? (text : String) : Option Yaml :=
  let s := text.toList
  let other : Yaml := if isPadded s then .string text else ((real? s).map Yaml.real).getD (.string text)
  if s.isEmpty || isNull s then some .null
  else
    match bool? s, integer? s with
    | some b, _ => some (.bool b)
    | _, some n => if isOversized n then some other else ofInteger? n
    | _, none => some other

def ofKind? (kind text : String) : Option Yaml :=
  let s := text.toList
  match kind with
  | "bool" => (bool? s).map .bool
  | "int" => (integer? s).bind ofInteger?
  | "float" => (real? s).map .real
  | "null" => if isNull s then some .null else none
  | _ => some (.string text)

def kindTag : String := "tag:yaml.org,2002:"

/-- The name of a tag that stays with its value: what follows `!`, or a lone `!`. -/
def tagName? (tag : Option String) : Option String :=
  match tag.map String.toList with
  | some ['!'] => some "!"
  | some ('!' :: name) => some (String.ofList name)
  | _ => none

def withTag (name : Option String) (value : Yaml) : Yaml :=
  match name with
  | some name => .tagged name value
  | none => value

/-- The value of a scalar. Only what is plain is looked at more closely; a tag that begins with `!`
stays with the value. -/
def ofScalar? (tag : Option String) (plain : Bool) (text : String) : Option Yaml :=
  let value? := if plain then ofPlain? text else some (.string text)
  match tagName? tag, tag with
  | some name, _ => value?.map (.tagged name)
  | none, none => value?
  | none, some tag =>
    if kindTag.toList.isPrefixOf tag.toList then
      ofKind? (String.ofList (tag.toList.drop kindTag.toList.length)) text
    else some (.string text)

end StateLint.Yaml
