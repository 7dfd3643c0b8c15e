import StateLint.Decimal
import StateLint.Text.Split
import StateLint.Toml

/-! Reading a TOML document. -/
namespace StateLint.Toml

def isSpace (c : Char) : Bool := c = ' ' || c = '\t'

def isPlain (c : Char) : Bool := c = '\t' || (0x20 ≤ c.toNat && c.toNat != 0x7F)

def skipSpace (s : List Char) : List Char := s.dropWhile isSpace

def newline? : List Char → Option (List Char)
  | '\n' :: s => some s
  | '\r' :: '\n' :: s => some s
  | _ => none

def skipComment : List Char → List Char
  | '#' :: s => s.dropWhile isPlain
  | s => s

def endLine? (s : List Char) : Option (List Char) :=
  match skipComment (skipSpace s) with
  | [] => some []
  | s => newline? s

def skipLines (fuel : Nat) (s : List Char) : List Char :=
  match fuel with
  | 0 => s
  | fuel + 1 =>
    match newline? (skipComment (skipSpace s)) with
    | some rest => skipLines fuel rest
    | none => skipSpace s

def scalar? (n : Nat) : Option Char :=
  if n < 0xD800 || (0xDFFF < n && n ≤ 0x10FFFF) then some (Char.ofNat n) else none

def codePoint? (digits : Nat) (s : List Char) : Option (Char × List Char) :=
  let ds := s.take digits
  if ds.length = digits && ds.all (isDigitOf 16) then
    (scalar? (numberOf 16 ds)).map (·, s.drop digits)
  else none

def escape? (s : List Char) : Option (Char × List Char) :=
  match s with
  | 'b' :: s => some ('\x08', s)
  | 't' :: s => some ('\t', s)
  | 'n' :: s => some ('\n', s)
  | 'f' :: s => some ('\x0c', s)
  | 'r' :: s => some ('\r', s)
  | '"' :: s => some ('"', s)
  | '\\' :: s => some ('\\', s)
  | 'u' :: s => codePoint? 4 s
  | 'U' :: s => codePoint? 8 s
  | _ => none

def basicString? (fuel : Nat) (s : List Char) : Option (List Char × List Char) :=
  match fuel, s with
  | 0, _ => none
  | _, [] => none
  | _, '"' :: s => some ([], s)
  | fuel + 1, '\\' :: s => do
    let (c, s) ← escape? s
    let (cs, rest) ← basicString? fuel s
    return (c :: cs, rest)
  | fuel + 1, c :: s =>
    if isPlain c then (basicString? fuel s).map fun (cs, rest) => (c :: cs, rest) else none

def literalString? (s : List Char) : Option (List Char × List Char) :=
  let body := s.takeWhile (· != '\'')
  match s.dropWhile (· != '\'') with
  | _ :: rest => if body.all isPlain then some (body, rest) else none
  | [] => none

def skipEmptyLines (fuel : Nat) (s : List Char) : List Char :=
  match fuel, newline? (skipSpace s) with
  | fuel + 1, some rest => skipEmptyLines fuel rest
  | _, _ => skipSpace s

def continued? (s : List Char) : Option (List Char) :=
  (newline? (skipSpace s)).map fun rest => skipEmptyLines rest.length rest

/-- The rest of a string over several lines, up to three closing quotes. One or two quotes may
stand right before them. Escapes count only between double quotes. -/
def longString? (quote : Char) (fuel : Nat) (s : List Char) : Option (List Char × List Char) :=
  match fuel with
  | 0 => none
  | fuel + 1 =>
    match s with
    | [] => none
    | c :: r =>
      if c = quote then
        let n := (s.takeWhile (· = quote)).length
        if 3 ≤ n then
          let extra := min (n - 3) 2
          some (List.replicate extra quote, s.drop (extra + 3))
        else
          (longString? quote fuel (s.drop n)).map fun (cs, rest) => (List.replicate n quote ++ cs, rest)
      else if c = '\\' && quote = '"' then
        match continued? r with
        | some rest => longString? quote fuel rest
        | none => do
          let (d, r) ← escape? r
          let (cs, rest) ← longString? quote fuel r
          return (d :: cs, rest)
      else
        match newline? s with
        | some rest => (longString? quote fuel rest).map fun (cs, rest) => ('\n' :: cs, rest)
        | none =>
          if isPlain c then (longString? quote fuel r).map fun (cs, rest) => (c :: cs, rest) else none

def longStart (s : List Char) : List Char := (newline? s).getD s

def string? (s : List Char) : Option (String × List Char) :=
  let found := match s with
    | '"' :: '"' :: '"' :: r => longString? '"' (r.length + 1) (longStart r)
    | '"' :: r => basicString? (r.length + 1) r
    | '\'' :: '\'' :: '\'' :: r => longString? '\'' (r.length + 1) (longStart r)
    | '\'' :: r => literalString? r
    | _ => none
  found.map fun (cs, rest) => (String.ofList cs, rest)

def isBareKey (c : Char) : Bool := c.isAlphanum || c = '_' || c = '-'

def keyPart? (s : List Char) : Option (String × List Char) :=
  match s with
  | '"' :: r => (basicString? (r.length + 1) r).map fun (cs, rest) => (String.ofList cs, rest)
  | '\'' :: r => (literalString? r).map fun (cs, rest) => (String.ofList cs, rest)
  | _ =>
    let name := s.takeWhile isBareKey
    if name.isEmpty then none else some (String.ofList name, s.dropWhile isBareKey)

/-- The most parts a key may have, and the most brackets around a value. -/
def depthLimit : Nat := 79

def key? (parts : Nat) (s : List Char) : Option (List String × List Char) :=
  match parts with
  | 0 => none
  | parts + 1 => do
    let (part, rest) ← keyPart? (skipSpace s)
    match skipSpace rest with
    | '.' :: rest =>
      let (more, rest) ← key? parts rest
      return (part :: more, rest)
    | rest => return ([part], rest)

/-! Numbers and dates. -/

def digits? (base : Nat) (s : List Char) : Option (List Char) :=
  if (Text.split '_' s).all (fun piece => !piece.isEmpty && piece.all (isDigitOf base)) then
    some (s.filter (· != '_'))
  else none

def takeSign (s : List Char) : Bool × List Char :=
  match s with
  | '-' :: s => (true, s)
  | '+' :: s => (false, s)
  | s => (false, s)

def wholeDigits? (s : List Char) : Option (List Char) :=
  match digits? 10 s with
  | some ('0' :: _ :: _) => none
  | ds => ds

def inRange? (n : Int) : Option Toml :=
  if -Int.pow 2 63 ≤ n && n < Int.pow 2 63 then some (.integer n) else none

def integer? (word : List Char) : Option Toml :=
  let based (base : Nat) (s : List Char) := (digits? base s).bind fun ds => inRange? (numberOf base ds)
  match word with
  | '0' :: 'x' :: s => based 16 s
  | '0' :: 'o' :: s => based 8 s
  | '0' :: 'b' :: s => based 2 s
  | _ =>
    let (negative, s) := takeSign word
    (wholeDigits? s).bind fun ds =>
      let n : Int := numberOf 10 ds
      inRange? (if negative then -n else n)

/-- A float has a fraction, an exponent or both. A positive one must not be too large. -/
def float? (word : List Char) : Option Toml :=
  let (negative, s) := takeSign word
  if s = "inf".toList || s = "nan".toList then some .float
  else
    let isMark (c : Char) : Bool := c = 'e' || c = 'E'
    let body := s.takeWhile (!isMark ·)
    let tail := s.dropWhile (!isMark ·)
    let parts := Text.split '.' body
    if parts.length = 1 && tail.isEmpty then none
    else do
      let whole ← wholeDigits? (parts.headD [])
      let fraction ← match parts with
        | [_] => some []
        | [_, f] => digits? 10 f
        | _ => none
      let exponent : Int ← match tail with
        | [] => some 0
        | _ :: e =>
          let (down, e) := takeSign e
          (digits? 10 e).map fun ds => if down then -(numberOf 10 ds : Int) else numberOf 10 ds
      if !negative && (Decimal.ofParts whole fraction exponent).isHuge then none else some .float

def twoDigits? (s : List Char) : Option (Nat × List Char) :=
  match s with
  | a :: b :: s => if a.isDigit && b.isDigit then some (numberOf 10 [a, b], s) else none
  | _ => none

def daysIn (year month : Nat) : Nat :=
  if month = 2 then
    if year % 4 = 0 && (year % 100 != 0 || year % 400 = 0) then 29 else 28
  else if [4, 6, 9, 11].contains month then 30 else 31

def day? (s : List Char) : Option (List Char) :=
  match s with
  | a :: b :: c :: d :: '-' :: s =>
    if [a, b, c, d].all Char.isDigit then do
      let (month, s) ← twoDigits? s
      match s with
      | '-' :: s =>
        let (day, s) ← twoDigits? s
        if 1 ≤ month && month ≤ 12 && 1 ≤ day && day ≤ daysIn (numberOf 10 [a, b, c, d]) month
        then some s else none
      | _ => none
    else none
  | _ => none

def time? (s : List Char) : Option (List Char) := do
  let (hour, s) ← twoDigits? s
  match s with
  | ':' :: s =>
    let (minute, s) ← twoDigits? s
    match s with
    | ':' :: s =>
      let (second, s) ← twoDigits? s
      if hour ≤ 23 && minute ≤ 59 && second ≤ 60 then
        match s with
        | '.' :: s => if (s.head?.any Char.isDigit) then some (s.dropWhile Char.isDigit) else none
        | s => some s
      else none
    | _ => none
  | _ => none

def isOffset (s : List Char) : Bool :=
  match s with
  | [] => true
  | ['Z'] => true
  | ['z'] => true
  | sign :: s =>
    (sign = '+' || sign = '-') &&
      match twoDigits? s with
      | some (hour, ':' :: s) =>
        match twoDigits? s with
        | some (minute, []) => hour ≤ 23 && minute ≤ 59
        | _ => false
      | _ => false

def isTimeWithOffset (s : List Char) : Bool := (time? s).any isOffset

def isDate (word : List Char) : Bool :=
  match day? word with
  | some [] => true
  | some (c :: rest) => (c = 'T' || c = 't') && isTimeWithOffset rest
  | none => time? word = some []

def isWordChar (c : Char) : Bool :=
  c.isAlphanum || c = '+' || c = '-' || c = '.' || c = ':' || c = '_'

/-- A value without brackets or quotes. A day and a time may be divided by a space. -/
def plainValue? (s : List Char) : Option (Toml × List Char) :=
  let word := s.takeWhile isWordChar
  let rest := s.dropWhile isWordChar
  if word = "true".toList then some (.boolean true, rest)
  else if word = "false".toList then some (.boolean false, rest)
  else if isDate word then
    match day? word, rest with
    | some [], ' ' :: more =>
      if isTimeWithOffset (more.takeWhile isWordChar) then some (.date, more.dropWhile isWordChar)
      else some (.date, rest)
    | _, _ => some (.date, rest)
  else ((integer? word) <|> (float? word)).map (·, rest)

mutual

/-- A value inside at most `depth` more brackets. -/
def value? (fuel depth : Nat) (s : List Char) : Option (Toml × List Char) :=
  match fuel, s with
  | 0, _ => none
  | fuel + 1, '[' :: s =>
    match depth with
    | 0 => none
    | depth + 1 => (items? fuel depth s).map fun (vs, rest) => (.array vs, rest)
  | fuel + 1, '{' :: s =>
    match depth with
    | 0 => none
    | depth + 1 =>
      match skipSpace s with
      | '}' :: rest => some (.table [], rest)
      | s => (members? fuel depth .empty s).map fun (t, rest) => (.table (ofMembers t.members), rest)
  | _ + 1, c :: s =>
    if c = '"' || c = '\'' then (string? (c :: s)).map fun (v, rest) => (.string v, rest)
    else plainValue? (c :: s)
  | _ + 1, [] => none

def items? (fuel depth : Nat) (s : List Char) : Option (List Toml × List Char) :=
  match fuel, skipLines s.length s with
  | 0, _ => none
  | _ + 1, ']' :: rest => some ([], rest)
  | fuel + 1, s =>
    match value? fuel depth s with
    | none => none
    | some (v, rest) =>
      match skipLines rest.length rest with
      | ']' :: rest => some ([v], rest)
      | ',' :: rest =>
        match items? fuel depth rest with
        | some (vs, rest) => some (v :: vs, rest)
        | none => none
      | _ => none

def members? (fuel depth : Nat) (t : Table) (s : List Char) : Option (Table × List Char) :=
  match fuel with
  | 0 => none
  | fuel + 1 =>
    match key? depthLimit s with
    | some (path, '=' :: rest) =>
      match value? fuel depth (skipSpace rest) with
      | none => none
      | some (v, rest) =>
        match t.define? path v with
        | none => none
        | some t =>
          match skipSpace rest with
          | '}' :: rest => some (t, rest)
          | ',' :: rest => members? fuel depth t rest
          | _ => none
    | _ => none

end

def line? (d : Draft) (s : List Char) : Option (Draft × List Char) :=
  match s with
  | '[' :: '[' :: s =>
    match key? depthLimit s with
    | some (path, ']' :: ']' :: rest) => do return (← d.openListed? path, ← endLine? rest)
    | _ => none
  | '[' :: s =>
    match key? depthLimit s with
    | some (path, ']' :: rest) => do return (← d.openTable? path, ← endLine? rest)
    | _ => none
  | s =>
    match endLine? s with
    | some rest => some (d, rest)
    | none =>
      match key? depthLimit s with
      | some (path, '=' :: rest) => do
        let (v, rest) ← value? (2 * rest.length + 2) depthLimit (skipSpace rest)
        return (← d.define? path v, ← endLine? rest)
      | _ => none

def lines? (fuel : Nat) (d : Draft) (s : List Char) : Option Draft :=
  match fuel, skipSpace s with
  | _, [] => some d
  | 0, _ => none
  | fuel + 1, s =>
    match line? d s with
    | some (d, rest) => lines? fuel d rest
    | none => none

def parse? (text : String) : Option (List (String × Toml)) :=
  let s := text.toList
  let s := if s.head? = some '\ufeff' then s.drop 1 else s
  (lines? (s.length + 1) .start s).bind Draft.finish?

end StateLint.Toml
