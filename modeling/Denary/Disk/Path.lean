import Denary.Text.Bytes

-- Paths: names separated by slashes. Cleaning a path removes empty names and single dots and lets
-- two dots take back the name before them.

namespace Denary.Path

def slash : UInt8 := 0x2F

def parts : Bytes → List Bytes
  | [] => [[]]
  | b :: rest =>
    if b = slash then [] :: parts rest
    else match parts rest with
      | [] => [[b]]
      | p :: ps => (b :: p) :: ps

def dot : Bytes := ascii "."

def dots : Bytes := ascii ".."

def isRooted (path : Bytes) : Bool :=
  path.head? = some slash

def pushPart (rooted : Bool) (stack : List Bytes) (part : Bytes) : List Bytes :=
  if part = [] ∨ part = dot then stack
  else if part = dots then
    match stack with
    | [] => if rooted then [] else [dots]
    | top :: below => if top = dots then dots :: stack else below
  else part :: stack

-- The shortest path of the same meaning, as far as the names alone tell.
def clean (path : Bytes) : Bytes :=
  let names := ((parts path).foldl (pushPart (isRooted path)) []).reverse
  let body := Text.joined [slash] names
  if isRooted path then slash :: body
  else if names = [] then dot else body

def join (path name : Bytes) : Bytes :=
  if path = [] then (if name = [] then [] else clean name)
  else if name = [] then clean path
  else clean (path ++ [slash] ++ name)

def parent (path : Bytes) : Bytes :=
  clean ((path.reverse.dropWhile (· ≠ slash)).reverse)

end Denary.Path
