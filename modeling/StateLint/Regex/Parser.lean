import StateLint.Regex.Class

/-! Reading a regular expression.

One pass over the text keeps the groups that are open, each with its finished branches and the
items of its current branch. -/
namespace StateLint.Regex

/-- An item of a sequence and how deeply it is nested. A change of modes is an item too, one that
cannot be repeated. -/
structure Item where
  expr : Expr
  depth : Nat
  repeatable : Bool

/-- An open group: its finished branches and its current items, last first, and the modes to go
back to behind it. -/
structure Group where
  branches : List Item
  items : List Item
  outside : Flags

structure ParseState where
  flags : Flags
  current : Group
  outer : List Group
  names : List (List Char)

def nestLimit : Nat := 250

def sizeLimit : Nat := 10 * 1024 * 1024

def joinItems : List Item → Item
  | [] => ⟨.empty, 0, true⟩
  | [i] => i
  | items => ⟨items.foldl (fun e i => .seq i.expr e) .empty,
      items.foldl (fun n i => max n i.depth) 0 + 1, true⟩

def Group.close (g : Group) : Item :=
  let last := joinItems g.items
  match g.branches with
  | [] => last
  | branches => ⟨branches.foldl (fun e i => .alt i.expr e) last.expr,
      branches.foldl (fun n i => max n i.depth) last.depth + 1, true⟩

namespace ParseState

def initial : ParseState := ⟨.initial, ⟨[], [], .initial⟩, [], []⟩

def push (st : ParseState) (i : Item) : ParseState :=
  { st with current := { st.current with items := i :: st.current.items } }

def openGroup (st : ParseState) (inside : Flags) : ParseState :=
  { st with flags := inside, current := ⟨[], [], st.flags⟩, outer := st.current :: st.outer }

def closeGroup (st : ParseState) : Except Fault ParseState :=
  match st.outer with
  | [] => .error .unopenedGroup
  | g :: outer =>
    let i := st.current.close
    .ok ({ st with flags := st.current.outside, current := g, outer := outer }.push
      ⟨i.expr, i.depth + 1, true⟩)

def branch (st : ParseState) : ParseState :=
  { st with current := { st.current with
      branches := joinItems st.current.items :: st.current.branches, items := [] } }

def repeatLast (st : ParseState) (least : Nat) (most : Option Nat) (greedy : Bool) :
    Except Fault ParseState :=
  match st.current.items with
  | i :: items =>
    if i.repeatable then
      .ok { st with current := { st.current with
        items := ⟨.repeated least most (greedy != st.flags.swapGreed) i.expr, i.depth + 1, true⟩ :: items } }
    else .error .nothingToRepeat
  | [] => .error .nothingToRepeat

end ParseState

/-- A question mark behind a repetition makes it prefer to stop. -/
def readGreed : List Char → Bool × List Char
  | '?' :: s => (false, s)
  | s => (true, s)

def decimalDigits (f : Flags) (fuel : Nat) (s : List Char) : List Char × List Char :=
  match fuel, s with
  | fuel + 1, c :: rest =>
    if c.isDigit then
      let (ds, rest) := decimalDigits f fuel (f.skip rest)
      (c :: ds, rest)
    else ([], s)
  | _, _ => ([], s)

def readDecimal (f : Flags) (s : List Char) : Except Fault (Nat × List Char) :=
  let s := Text.trimStart s
  let (ds, rest) := decimalDigits f s.length s
  let n := ds.foldl (fun n c => 10 * n + (c.toNat - '0'.toNat)) 0
  if ds.isEmpty || 0xFFFFFFFF < n then .error .badCount
  else .ok (n, f.skip (Text.trimStart rest))

/-- The bounds of a repetition, and the rest behind the closing brace; `s` follows the opening. -/
def readBounds (f : Flags) (s : List Char) : Except Fault (Nat × Option Nat × List Char) := do
  let (least, rest) ← readDecimal f (f.skip s)
  match rest with
  | '}' :: rest => return (least, some least, rest)
  | ',' :: rest =>
    match f.skip rest with
    | '}' :: rest => return (least, none, rest)
    | rest =>
      let (most, rest) ← readDecimal f rest
      match rest with
      | '}' :: rest => if most < least then .error .badCount else return (least, some most, rest)
      | _ => .error .badCount
  | _ => .error .badCount

def isAlphabetic (c : Char) : Bool :=
  if c.toNat ≤ 0x7F then c.isAlpha else ((Unicode.Property.find? "alphabetic").getD .empty).contains c

def isAlphanumeric (c : Char) : Bool :=
  isAlphabetic c || (Unicode.Category.ofShortNames ["Nd", "Nl", "No"]).contains c

def readGroupName (s : List Char) : Except Fault (List Char × List Char) :=
  let name := s.takeWhile (· != '>')
  match name, s.dropWhile (· != '>') with
  | c :: more, _ :: rest =>
    if (c = '_' || isAlphabetic c) &&
        more.all (fun d => d = '_' || d = '.' || d = '[' || d = ']' || isAlphanumeric d) then
      .ok (name, rest)
    else .error .badGroupName
  | _, _ => .error .badGroupName

def readOpening (st : ParseState) (s : List Char) : Except Fault (ParseState × List Char) :=
  let named (s : List Char) : Except Fault (ParseState × List Char) :=
    match readGroupName s with
    | .error e => .error e
    | .ok (name, rest) =>
      if st.names.contains name then .error .repeatedGroupName
      else .ok ({ st.openGroup st.flags with names := name :: st.names }, rest)
  match st.flags.skip s with
  | '?' :: '=' :: _ => .error .lookAround
  | '?' :: '!' :: _ => .error .lookAround
  | '?' :: '<' :: '=' :: _ => .error .lookAround
  | '?' :: '<' :: '!' :: _ => .error .lookAround
  | '?' :: 'P' :: '<' :: s => named s
  | '?' :: '<' :: s => named s
  | '?' :: s =>
    match st.flags.read [] s with
    | .error e => .error e
    | .ok (flags, _, ':' :: rest) => .ok (st.openGroup flags, rest)
    | .ok (flags, nothing, rest) =>
      if nothing then .error .nothingToRepeat
      else .ok ({ st with flags }.push ⟨.empty, 0, false⟩, rest.drop 1)
  | s => .ok (st.openGroup st.flags, s)

def literalExpr (f : Flags) (c : Char) (byte : Bool) : Except Fault Expr :=
  if !f.unicode && byte && 0x7F < c.toNat then .error .brokenText
  else if f.ignoreCase && (f.unicode || c.isAlpha) then .ok (.chars (f.fold (.ofChar c)))
  else .ok (.chars (.ofChar c))

def atomExpr (f : Flags) : Atom → Except Fault Expr
  | .literal c byte => literalExpr f c byte
  | .oneOf set => .ok (.chars set)
  | .look condition => .ok (.look condition)

def dotExpr (f : Flags) : Except Fault Expr :=
  if !f.unicode then .error .brokenText
  else if f.dotAll then .ok (.chars .all)
  else if f.anyLineEnd then .ok (.chars (CharSet.ofRanges [(10, 10), (13, 13)]).complement)
  else .ok (.chars (CharSet.ofRanges [(10, 10)]).complement)

def startLook (f : Flags) : Look :=
  if !f.multiLine then .startText else if f.anyLineEnd then .startAnyLine else .startLine

def endLook (f : Flags) : Look :=
  if !f.multiLine then .endText else if f.anyLineEnd then .endAnyLine else .endLine

def step (st : ParseState) (c : Char) (s : List Char) : Except Fault (ParseState × List Char) :=
  let uncounted (least : Nat) (most : Option Nat) : Except Fault (ParseState × List Char) :=
    let (greedy, rest) := readGreed s
    (st.repeatLast least most greedy).map (·, rest)
  let item (e : Except Fault Expr) (rest : List Char) : Except Fault (ParseState × List Char) :=
    e.map fun e => (st.push ⟨e, 0, true⟩, rest)
  match c with
  | '(' => readOpening st s
  | ')' => st.closeGroup.map (·, s)
  | '|' => .ok (st.branch, s)
  | '[' => (readClass st.flags s).map fun (set, depth, rest) => (st.push ⟨.chars set, depth, true⟩, rest)
  | '?' => uncounted 0 (some 1)
  | '*' => uncounted 0 none
  | '+' => uncounted 1 none
  | '{' => do
    let (least, most, rest) ← readBounds st.flags s
    let (greedy, rest) := readGreed (st.flags.skip rest)
    return (← st.repeatLast least most greedy, rest)
  | '\\' => do
    let (atom, rest) ← readEscape st.flags s
    item (atomExpr st.flags atom) rest
  | '.' => item (dotExpr st.flags) s
  | '^' => item (.ok (.look (startLook st.flags))) s
  | '$' => item (.ok (.look (endLook st.flags))) s
  | c => item (literalExpr st.flags c false) s

def parseFrom (fuel : Nat) (st : ParseState) (s : List Char) : Except Fault ParseState :=
  match fuel, st.flags.skip s with
  | 0, _ => .ok st
  | _, [] => .ok st
  | fuel + 1, c :: s =>
    match step st c s with
    | .ok (st, rest) => parseFrom fuel st rest
    | .error e => .error e

def parse (text : List Char) : Except Fault Expr := do
  let st ← parseFrom (text.length + 1) .initial text
  if !st.outer.isEmpty then .error .unclosedGroup
  else
    let i := st.current.close
    if nestLimit < i.depth then .error .tooDeep
    else if sizeLimit < i.expr.cost then .error .tooLarge
    else return i.expr

end StateLint.Regex
