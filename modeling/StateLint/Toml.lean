/-! TOML values, and how the lines of a document build a table.

A table remembers how it came to be: `implied` by a longer name, or also `dotted` when it arose from
a dotted key. Only what was implied may be defined later, and only in the way it arose. -/
namespace StateLint

/-- Floats and dates are recognised but their values are not kept. -/
inductive Toml where
  | string (value : String)
  | integer (value : Int)
  | float
  | boolean (value : Bool)
  | date
  | array (items : List Toml)
  | table (members : List (String × Toml))
  deriving Inhabited

namespace Toml

inductive Entry where
  | value (v : Toml)
  | table (implied dotted : Bool) (members : List (String × Entry))
  | tables (items : List (List (String × Entry)))

structure Table where
  implied : Bool
  dotted : Bool
  members : List (String × Entry)

namespace Table

def empty : Table := ⟨false, false, []⟩

def get? (t : Table) (key : String) : Option Entry := (t.members.find? fun m => m.1 = key).map (·.2)

def put (t : Table) (key : String) (e : Entry) : Table :=
  if t.members.any (fun m => m.1 = key) then
    { t with members := t.members.map fun m => if m.1 = key then (key, e) else m }
  else { t with members := t.members ++ [(key, e)] }

def erase (t : Table) (key : String) : Table :=
  { t with members := t.members.filter fun m => m.1 ≠ key }

def toEntry (t : Table) : Entry := .table t.implied t.dotted t.members

/-- Changes the table that a path leads to. Missing tables are implied; the last table of a list
is entered; a table that was spelled out cannot be entered by a dotted key. -/
def update? (dotted : Bool) (change : Table → Option Table) (t : Table) : List String → Option Table
  | [] => change t
  | key :: path =>
    match t.get? key with
    | none => (update? dotted change ⟨true, dotted, []⟩ path).map fun s => t.put key s.toEntry
    | some (.value _) => none
    | some (.table implied isDotted members) =>
      if dotted && !implied then none
      else (update? dotted change ⟨implied, isDotted, members⟩ path).map fun s => t.put key s.toEntry
    | some (.tables items) =>
      match items.getLast? with
      | none => none
      | some members =>
        (update? dotted change ⟨false, false, members⟩ path).map fun s =>
          t.put key (.tables (items.dropLast ++ [s.members]))

def at? (t : Table) : List String → Option Table
  | [] => some t
  | key :: path =>
    match t.get? key with
    | some (.table implied dotted members) => at? ⟨implied, dotted, members⟩ path
    | some (.tables items) =>
      match items.getLast? with
      | some members => at? ⟨false, false, members⟩ path
      | none => none
    | _ => none

def define? (t : Table) (path : List String) (v : Toml) : Option Table :=
  match path.getLast? with
  | none => none
  | some key =>
    let above := path.dropLast
    update? true (fun s =>
      if s.dotted == above.isEmpty || (s.get? key).isSome then none
      else some (s.put key (.value v))) t above

end Table

mutual

def ofEntry (e : Entry) : Toml :=
  match e with
  | .value v => v
  | .table _ _ members => .table (ofMembers members)
  | .tables items => .array (ofTables items)

def ofMembers (members : List (String × Entry)) : List (String × Toml) :=
  match members with
  | [] => []
  | (key, e) :: rest => (key, ofEntry e) :: ofMembers rest

def ofTables (items : List (List (String × Entry))) : List Toml :=
  match items with
  | [] => []
  | members :: rest => .table (ofMembers members) :: ofTables rest

end

/-- A document under construction: the table that is being filled is kept apart from the root
until the next header. -/
structure Draft where
  root : Table
  current : Table
  path : List String
  listed : Bool

namespace Draft

def start : Draft := ⟨.empty, .empty, [], false⟩

def settle? (d : Draft) : Option Table :=
  match d.path.getLast? with
  | none => some d.current
  | some key =>
    Table.update? false (fun t =>
      if d.listed then
        match t.get? key with
        | some (.tables items) => some (t.put key (.tables (items ++ [d.current.members])))
        | none => some (t.put key (.tables [d.current.members]))
        | _ => none
      else
        match t.get? key with
        | none => some (t.put key d.current.toEntry)
        | some (.table true _ _) => some (t.put key d.current.toEntry)
        | _ => none) d.root d.path.dropLast

/-- Begins the table of a header. A table that other headers implied keeps its members. -/
def openTable? (d : Draft) (path : List String) : Option Draft := do
  let root ← d.settle?
  let key ← path.getLast?
  let root ← root.update? false some path.dropLast
  match (root.at? path.dropLast).bind (·.get? key) with
  | none => return ⟨root, .empty, path, false⟩
  | some (.table true false members) =>
    let root ← root.update? false (fun t => some (t.erase key)) path.dropLast
    return ⟨root, ⟨false, false, members⟩, path, false⟩
  | some _ => none

def openListed? (d : Draft) (path : List String) : Option Draft := do
  let root ← d.settle?
  let key ← path.getLast?
  let root ← Table.update? false (fun t =>
    match t.get? key with
    | none => some (t.put key (.tables []))
    | some (.tables _) => some t
    | some _ => none) root path.dropLast
  return ⟨root, .empty, path, true⟩

def define? (d : Draft) (path : List String) (v : Toml) : Option Draft :=
  (d.current.define? path v).map fun t => { d with current := t }

def finish? (d : Draft) : Option (List (String × Toml)) := d.settle?.map fun t => ofMembers t.members

end Draft

end Toml

end StateLint
