import StateLint.FileSystem

/-! A file system held as a table.

An entry is found under the names that lead to it from the root; every parent of an entry is
taken to be a directory. Paths are walked name by name: `..` leaves the directory that was
reached, a symbolic link is replaced by its target, and a trailing slash asks for a directory. -/
namespace StateLint

inductive FileEntry where
  | file (bytes : ByteArray)
  | dir
  | link (target : Path)

structure FileTree where
  workingDir : List String
  entries : List (List String × FileEntry)

namespace FileTree

def empty (workingDir : List String) : FileTree := ⟨workingDir, [(workingDir, .dir)]⟩

/-- The entry at a place: one that was stored, or a directory that leads to one. -/
def entryAt? (t : FileTree) (place : List String) : Option FileEntry :=
  match t.entries.find? fun e => e.1 = place with
  | some e => some e.2
  | none => if place.isEmpty || t.entries.any (fun e => place.isPrefixOf e.1) then some .dir else none

/-- The names still to be walked; after a trailing slash a directory is asked for. -/
def steps (p : Path) : List String :=
  if p.text.toList.getLast? = some '/' then p.segments ++ ["."] else p.segments

def walk (t : FileTree) (links : Nat) (here : List String) (todo : List String) :
    Except ReadError (List String × FileEntry) :=
  match todo with
  | [] =>
    match t.entryAt? here with
    | some e => .ok (here, e)
    | none => .error .notFound
  | name :: rest =>
    match t.entryAt? here with
    | some .dir =>
      if name = "." then walk t links here rest
      else if name = ".." then walk t links here.dropLast rest
      else
        match t.entryAt? (here ++ [name]) with
        | none => .error .notFound
        | some (.link target) =>
          match links with
          | 0 => .error .tooManyLinks
          | more + 1 =>
            walk t more (if target.isAbsolute then [] else here) (steps target ++ rest)
        | some _ => walk t links (here ++ [name]) rest
    | _ => .error .notADirectory
termination_by (links, todo.length)

def find (t : FileTree) (p : Path) : Except ReadError (List String × FileEntry) :=
  if p.text.isEmpty then .error .notFound
  else t.walk 40 (if p.isAbsolute then [] else t.workingDir) (steps p)

def absolute (place : List String) : Path := ⟨"/" ++ String.intercalate "/" place⟩

def isDir (t : FileTree) (p : Path) : Bool :=
  match t.find p with
  | .ok (_, .dir) => true
  | _ => false

def isFile (t : FileTree) (p : Path) : Bool :=
  match t.find p with
  | .ok (_, .file _) => true
  | _ => false

def read (t : FileTree) (p : Path) : Except ReadError String :=
  match t.find p with
  | .error e => .error e
  | .ok (_, .file bytes) =>
    match String.fromUTF8? bytes with
    | some text => .ok text
    | none => .error .notText
  | .ok _ => .error .isADirectory

def namesBelow (t : FileTree) (place : List String) : List String :=
  (t.entries.filterMap fun e =>
    if place.isPrefixOf e.1 then (e.1.drop place.length).head? else none).eraseDups

def names (t : FileTree) (p : Path) : List String :=
  match t.find p with
  | .ok (place, .dir) => t.namesBelow place
  | _ => []

def canonical? (t : FileTree) (p : Path) : Option Path :=
  match t.find p with
  | .ok (place, _) => some (absolute place)
  | .error _ => none

def view (t : FileTree) : FileSystem where
  workingDir := absolute t.workingDir
  canonical? := t.canonical?
  isDir := t.isDir
  isFile := t.isFile
  read := t.read
  names := t.names

def placeOf (t : FileTree) (p : Path) : List String :=
  (if p.isAbsolute then [] else t.workingDir) ++ p.segments.filter (· != ".")

/-- The place where a write to `p` takes effect: a link to an existing file is followed. -/
def target (t : FileTree) (p : Path) : List String :=
  match t.find p with
  | .ok (place, .file _) => place
  | _ => t.placeOf p

def store (t : FileTree) (p : Path) (e : FileEntry) : FileTree :=
  let place := t.target p
  { t with entries := t.entries.filter (fun f => f.1 ≠ place) ++ [(place, e)] }

def erase (t : FileTree) (p : Path) : FileTree :=
  let place := t.placeOf p
  { t with entries := t.entries.filter (fun f => f.1 ≠ place) ++ [(place.dropLast, .dir)] }

end FileTree

end StateLint
