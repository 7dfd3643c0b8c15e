import StateLint.FileSystem

/-! Which files were checked before.

A file counts once, however it is spelled: it is known by its key. Several handles may share one set
of files. -/
namespace StateLint

/-- The keys of the files, in the order in which they were claimed; none occurs twice. -/
structure CheckedFiles where
  keys : List (List Path.Component)
  deriving DecidableEq, Repr

namespace CheckedFiles

def empty : CheckedFiles := ⟨[]⟩

def size (c : CheckedFiles) : Nat := c.keys.length

def isEmpty (c : CheckedFiles) : Bool := c.keys.isEmpty

def contains (c : CheckedFiles) (fs : FileSystem) (path : Path) : Bool := c.keys.contains (fs.key path)

def claim (c : CheckedFiles) (fs : FileSystem) (path : Path) : Bool × CheckedFiles :=
  if c.contains fs path then (false, c) else (true, ⟨c.keys ++ [fs.key path]⟩)

end CheckedFiles

/-- Sets of checked files, and for each handle the position of the set that it shares. -/
structure CheckedHandles where
  sets : List CheckedFiles
  handles : List Nat
  deriving DecidableEq, Repr

namespace CheckedHandles

def empty : CheckedHandles := ⟨[], []⟩

def get (c : CheckedHandles) (handle : Nat) : CheckedFiles :=
  (c.handles[handle]?.bind (c.sets[·]?)).getD .empty

def fresh (c : CheckedHandles) : Nat × CheckedHandles :=
  (c.handles.length, ⟨c.sets ++ [.empty], c.handles ++ [c.sets.length]⟩)

def share (c : CheckedHandles) (handle : Nat) : Nat × CheckedHandles :=
  (c.handles.length, { c with handles := c.handles ++ [c.handles.getD handle 0] })

def contains (c : CheckedHandles) (fs : FileSystem) (handle : Nat) (path : Path) : Bool :=
  (c.get handle).contains fs path

def claim (c : CheckedHandles) (fs : FileSystem) (handle : Nat) (path : Path) :
    Bool × CheckedHandles :=
  let (first, set) := (c.get handle).claim fs path
  (first, match c.handles[handle]? with
    | some i => { c with sets := c.sets.set i set }
    | none => c)

end CheckedHandles

end StateLint
