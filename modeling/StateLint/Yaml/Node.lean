import StateLint.Yaml.Token

/-! The nodes of a YAML document, as its tokens spell them. -/
namespace StateLint.Yaml

structure Properties where
  anchor : Option Nat
  tag : Option String
  deriving DecidableEq, Repr

inductive Node where
  | alias (anchor : Nat)
  | scalar (about : Properties) (plain : Bool) (text : String)
  | sequence (about : Properties) (items : List Node)
  | mapping (about : Properties) (entries : List (Node × Node))

def Properties.none : Properties := ⟨.none, .none⟩

namespace Node

/-- What stands where nothing is written. -/
def empty : Node := .scalar .none true ""

abbrev Handles := List (String × String)

def defaultHandles : Handles := [("!", "!"), ("!!", "tag:yaml.org,2002:")]

def tag? (handles : Handles) (handle suffix : String) : Option String :=
  if handle.isEmpty then some suffix
  else (handles.find? fun h => h.1 = handle).map fun h => h.2 ++ suffix

def properties? (handles : Handles) (ts : List Token) : Option (Properties × List Token) :=
  match ts with
  | .anchor a :: .tag handle suffix :: ts => do return (⟨a, ← tag? handles handle suffix⟩, ts)
  | .tag handle suffix :: .anchor a :: ts => do return (⟨a, ← tag? handles handle suffix⟩, ts)
  | .tag handle suffix :: ts => do return (⟨.none, ← tag? handles handle suffix⟩, ts)
  | .anchor a :: ts => some (⟨a, .none⟩, ts)
  | ts => some (.none, ts)

def followedBy (ts ends : List Token) : Bool := ts.head?.any ends.contains

def mappingEnds : List Token := [.key, .value, .blockEnd]

mutual

/-- A node. A block may begin only where `block` is set; the items of a sequence may stand at the
indentation of their parent only where `level` is. -/
def node? (handles : Handles) (block level : Bool) (fuel : Nat) (ts : List Token) :
    Option (Node × List Token) :=
  match fuel with
  | 0 => .none
  | fuel + 1 =>
    match ts with
    | .alias a :: ts => some (.alias a, ts)
    | ts => do
      let (about, ts) ← properties? handles ts
      match ts with
      | .scalar plain text :: ts => return (.scalar about plain text, ts)
      | .openSequence :: ts =>
        let (items, ts) ← flowItems? handles true fuel ts
        return (.sequence about items, ts)
      | .openMapping :: ts =>
        let (entries, ts) ← flowEntries? handles true fuel ts
        return (.mapping about entries, ts)
      | ts =>
        match ts, block, level with
        | .dash :: _, _, true =>
          let (items, ts) ← levelItems? handles fuel ts
          return (.sequence about items, ts)
        | .blockSequence :: ts, true, _ =>
          let (items, ts) ← blockItems? handles fuel ts
          return (.sequence about items, ts)
        | .blockMapping :: ts, true, _ =>
          let (entries, ts) ← blockEntries? handles fuel ts
          return (.mapping about entries, ts)
        | ts, _, _ => if about = .none then .none else return (.scalar about true "", ts)

def nodeUnless? (handles : Handles) (block level : Bool) (ends : List Token) (fuel : Nat)
    (ts : List Token) : Option (Node × List Token) :=
  match fuel with
  | 0 => .none
  | fuel + 1 => if followedBy ts ends then some (empty, ts) else node? handles block level fuel ts

def valueUnless? (handles : Handles) (block : Bool) (ends : List Token) (fuel : Nat)
    (ts : List Token) : Option (Node × List Token) :=
  match fuel with
  | 0 => .none
  | fuel + 1 =>
    match ts with
    | .value :: ts => nodeUnless? handles block block ends fuel ts
    | ts => some (empty, ts)

def blockItems? (handles : Handles) (fuel : Nat) (ts : List Token) : Option (List Node × List Token) :=
  match fuel with
  | 0 => .none
  | fuel + 1 =>
    match ts with
    | .dash :: ts => do
      let (item, ts) ← nodeUnless? handles true false [.dash, .blockEnd] fuel ts
      let (items, ts) ← blockItems? handles fuel ts
      return (item :: items, ts)
    | .blockEnd :: ts => some ([], ts)
    | _ => .none

def levelItems? (handles : Handles) (fuel : Nat) (ts : List Token) : Option (List Node × List Token) :=
  match fuel with
  | 0 => .none
  | fuel + 1 =>
    match ts with
    | .dash :: ts => do
      let (item, ts) ← nodeUnless? handles true false (.dash :: mappingEnds) fuel ts
      let (items, ts) ← levelItems? handles fuel ts
      return (item :: items, ts)
    | ts => some ([], ts)

def blockEntries? (handles : Handles) (fuel : Nat) (ts : List Token) :
    Option (List (Node × Node) × List Token) :=
  match fuel with
  | 0 => .none
  | fuel + 1 =>
    match ts with
    | .key :: ts => do
      let (key, ts) ← nodeUnless? handles true true mappingEnds fuel ts
      let (value, ts) ← valueUnless? handles true mappingEnds fuel ts
      let (entries, ts) ← blockEntries? handles fuel ts
      return ((key, value) :: entries, ts)
    | .blockEnd :: ts => some ([], ts)
    | _ => .none

def flowItems? (handles : Handles) (first : Bool) (fuel : Nat) (ts : List Token) :
    Option (List Node × List Token) :=
  match fuel with
  | 0 => .none
  | fuel + 1 =>
    match ts, first with
    | .closeSequence :: ts, _ => some ([], ts)
    | .comma :: .closeSequence :: ts, false => some ([], ts)
    | .comma :: ts, false => do
      let (item, ts) ← flowItem? handles fuel ts
      let (items, ts) ← flowItems? handles false fuel ts
      return (item :: items, ts)
    | ts, true => do
      let (item, ts) ← flowItem? handles fuel ts
      let (items, ts) ← flowItems? handles false fuel ts
      return (item :: items, ts)
    | _, false => .none

/-- An item between brackets. One with a key is a mapping of its own; if the key is empty, the
token behind its mark is passed over. -/
def flowItem? (handles : Handles) (fuel : Nat) (ts : List Token) : Option (Node × List Token) :=
  match fuel with
  | 0 => .none
  | fuel + 1 =>
    match ts with
    | .key :: ts => do
      let (key, ts) ←
        if followedBy ts [.value, .comma, .closeSequence] then some (empty, ts.drop 1)
        else node? handles false false fuel ts
      let (value, ts) ← valueUnless? handles false [.comma, .closeSequence] fuel ts
      return (.mapping .none [(key, value)], ts)
    | ts => node? handles false false fuel ts

def flowEntries? (handles : Handles) (first : Bool) (fuel : Nat) (ts : List Token) :
    Option (List (Node × Node) × List Token) :=
  match fuel with
  | 0 => .none
  | fuel + 1 =>
    match ts, first with
    | .closeMapping :: ts, _ => some ([], ts)
    | .comma :: .closeMapping :: ts, false => some ([], ts)
    | .comma :: ts, false => do
      let (entry, ts) ← flowEntry? handles fuel ts
      let (entries, ts) ← flowEntries? handles false fuel ts
      return (entry :: entries, ts)
    | ts, true => do
      let (entry, ts) ← flowEntry? handles fuel ts
      let (entries, ts) ← flowEntries? handles false fuel ts
      return (entry :: entries, ts)
    | _, false => .none

def flowEntry? (handles : Handles) (fuel : Nat) (ts : List Token) :
    Option ((Node × Node) × List Token) :=
  match fuel with
  | 0 => .none
  | fuel + 1 =>
    match ts with
    | .key :: ts => do
      let (key, ts) ← nodeUnless? handles false false [.value, .comma, .closeMapping] fuel ts
      let (value, ts) ← valueUnless? handles false [.comma, .closeMapping] fuel ts
      return ((key, value), ts)
    | ts => (node? handles false false fuel ts).map fun (key, ts) => ((key, empty), ts)

end

/-- The lines in front of a document: at most one version, which must be 1.1 or 1.2, and at most one
line for each tag handle. -/
def directives? (versioned : Bool) (handles : Handles) (ts : List Token) :
    Option (Handles × List Token) :=
  match ts with
  | .version major minor :: ts =>
    if versioned || major != 1 || (minor != 1 && minor != 2) then .none
    else directives? true handles ts
  | .tagHandle handle uri :: ts =>
    if handles.any (·.1 = handle) then .none
    else directives? versioned (handles ++ [(handle, uri)]) ts
  | ts => some (handles, ts)

def endsDocument : List Token → Bool
  | [] => true
  | t :: _ => match t with
    | .version _ _ | .tagHandle _ _ | .documentStart | .documentEnd => true
    | _ => false

/-- The only document of a text; a text without any holds an empty node. -/
def document? (ts : List Token) : Option Node := do
  let fuel := 4 * ts.length + 4
  let (node, rest) ←
    match ts with
    | [] => some (empty, [])
    | t :: _ => do
      if endsDocument ts && t != .documentEnd then
        let (handles, ts) ← directives? false [] ts
        match ts with
        | .documentStart :: ts =>
          if endsDocument ts then some (empty, ts)
          else node? (handles ++ defaultHandles) true false fuel ts
        | _ => .none
      else node? defaultHandles true false fuel ts
  if rest.all (· = .documentEnd) then return node else .none

mutual

def anchored : Node → List (Nat × Node)
  | .alias _ => []
  | .scalar about plain text => (about.anchor.map fun a => (a, .scalar about plain text)).toList
  | .sequence about items =>
    (about.anchor.map fun a => (a, .sequence about items)).toList ++ anchoredItems items
  | .mapping about entries =>
    (about.anchor.map fun a => (a, .mapping about entries)).toList ++ anchoredEntries entries

def anchoredItems : List Node → List (Nat × Node)
  | [] => []
  | n :: ns => anchored n ++ anchoredItems ns

def anchoredEntries : List (Node × Node) → List (Nat × Node)
  | [] => []
  | (k, v) :: es => anchored k ++ anchored v ++ anchoredEntries es

end

mutual

def weight : Node → Nat
  | .alias _ => 1
  | .scalar _ _ _ => 1
  | .sequence _ items => 2 + weightOfItems items
  | .mapping _ entries => 2 + weightOfEntries entries

def weightOfItems : List Node → Nat
  | [] => 0
  | n :: ns => weight n + weightOfItems ns

def weightOfEntries : List (Node × Node) → Nat
  | [] => 0
  | (k, v) :: es => weight k + weight v + weightOfEntries es

end

end Node

end StateLint.Yaml
