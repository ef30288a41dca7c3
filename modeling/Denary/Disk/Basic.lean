import Denary.Disk.Path
import Denary.Error

-- A tree of directories and files, as a program meets it: paths are followed name by name, and a
-- request that cannot be met is refused with a reason.

namespace Denary

inductive Node where
  | directory
  | file (data : Bytes)
  deriving DecidableEq, Repr, Inhabited

-- A place of the tree: the names that lead to it from the current directory. Two dots lead to the
-- directory above, and an empty name in front leads from the root.
abbrev Place := List Bytes

namespace Place

def here : Place := []

def root : Place := [[]]

-- The places that are directories whatever the tree holds: the current directory, those above it,
-- and the root.
def isFixed (p : Place) : Bool :=
  p = root || p.all (· = Path.dots)

def above (p : Place) : Place :=
  if p = root then root
  else if p.all (· = Path.dots) then p ++ [Path.dots]
  else p.dropLast

def startOf (path : Bytes) : Place :=
  if Path.isRooted path then root else here

def isBelow (p : Place) : Bool :=
  match p with
  | [] => false
  | name :: _ => name ≠ [] && name ≠ Path.dots

end Place

structure Disk where
  nodes : List (Place × Node)
  deriving Repr, Inhabited

namespace Disk

def maxName : Nat := 255

def maxPath : Nat := 4095

def empty : Disk := ⟨[]⟩

def at? (d : Disk) (place : Place) : Option Node :=
  if place.isFixed then some .directory else d.nodes.lookup place

def put (d : Disk) (place : Place) (node : Node) : Disk :=
  ⟨d.nodes.filter (fun n => n.1 ≠ place) ++ [(place, node)]⟩

def follow (d : Disk) (place : Place) : List Bytes → Except Refusal Place
  | [] => .ok place
  | name :: names =>
    match d.at? place with
    | none => .error .missing
    | some (.file _) => .error .notDirectory
    | some .directory =>
      if name = [] ∨ name = Path.dot then d.follow place names
      else if name = Path.dots then d.follow place.above names
      else if maxName < name.length then .error .nameTooLong
      else d.follow (place ++ [name]) names

def resolve (d : Disk) (path : Bytes) : Except Refusal Place :=
  if path.contains 0 then .error .invalidName
  else if path = [] then .error .missing
  else if maxPath < path.length then .error .nameTooLong
  else d.follow (Place.startOf path) (Path.parts path)

-- The contents of a file. A directory can be opened, but not read.
def read (d : Disk) (path : Bytes) : Except Error Bytes :=
  match d.resolve path with
  | .error r => .error (.file (ascii "open") path r)
  | .ok place =>
    match d.at? place with
    | none => .error (.file (ascii "open") path .missing)
    | some .directory => .error (.file (ascii "read") path .isDirectory)
    | some (.file data) => .ok data

-- The tree with a file created or its contents replaced. A path with a slash at its end names no
-- file.
def write (d : Disk) (path data : Bytes) : Except Error Disk :=
  let refuse (r : Refusal) : Except Error Disk := .error (.file (ascii "open") path r)
  let stripped := Text.trimEnd (· = Path.slash) path
  if stripped = [] ∧ path ≠ [] then refuse .isDirectory
  else match d.resolve stripped with
    | .error r => refuse r
    | .ok place =>
      if stripped ≠ path then refuse .isDirectory
      else match d.at? place with
        | some .directory => refuse .isDirectory
        | _ => .ok (d.put place (.file data))

def makeDirectories (d : Disk) (path : Bytes) : Option Disk :=
  go d (Place.startOf path) ((Path.parts (Path.clean path)).filter fun n => n ≠ [] ∧ n ≠ Path.dot)
where
  go (d : Disk) (place : Place) : List Bytes → Option Disk
    | [] => some d
    | name :: names =>
      let next := if name = Path.dots then place.above else place ++ [name]
      match d.at? next with
      | some .directory => go d next names
      | some (.file _) => none
      | none => go (d.put next .directory) next names

def addFile (d : Disk) (path data : Bytes) : Disk :=
  let above := (d.makeDirectories (Path.parent path)).getD d
  match above.write (Path.clean path) data with
  | .ok d' => d'
  | .error _ => above

def addDirectory (d : Disk) (path : Bytes) : Disk :=
  (d.makeDirectories path).getD d

def pathOf (place : Place) : Bytes :=
  Text.joined [Path.slash] place

def allFiles (d : Disk) : List (Bytes × Bytes) :=
  d.nodes.filterMap fun n => match n.2 with
    | .file data => some (pathOf n.1, data)
    | .directory => none

def files (d : Disk) : List (Bytes × Bytes) :=
  Disk.allFiles ⟨d.nodes.filter fun n => n.1.isBelow⟩

end Disk
end Denary
