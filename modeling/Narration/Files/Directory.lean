import Narration.Text.Quoted
import Narration.Text.Utf8

/-! # The working directory

Files under their paths. A path leads to a file, to a directory, which is one if a file lies in it,
or to nothing; single dots and doubled slashes in it do not matter, except that two slashes at its
beginning stay two. -/
namespace Narration

/-- Why a path leads to no file. -/
inductive PathError
  | missing (path : Text)
  | directory (path : Text)
  | notDirectory (path : Text)
  | tooLong (path : Text)
  | nullByte
  deriving DecidableEq

def PathError.message : PathError → Text
  | missing path => "[Errno 2] No such file or directory: " ++ path.quoted
  | directory path => "[Errno 21] Is a directory: " ++ path.quoted
  | notDirectory path => "[Errno 20] Not a directory: " ++ path.quoted
  | tooLong path => "[Errno 36] File name too long: " ++ path.quoted
  | nullByte => "embedded null byte"

namespace Directory

/-- The parts of a path, without those that stay where they are. -/
def parts (path : Text) : List Text :=
  (Text.splitAt (.char '/') path).filter fun p => p ≠ [] ∧ p ≠ "."

/-- The slashes at the beginning of a path, of which two mean something else than any other
number. -/
def root (path : Text) : Text :=
  match (path.takeWhile (· == .char '/')).length with
  | 0 => []
  | 2 => "//"
  | _ => "/"

/-- A path without what does not matter in it. -/
def plainPath (path : Text) : Text :=
  let plain := root path ++ Text.joined "/" (parts path)
  if plain = [] then "." else plain

def isUp (part : Text) : Bool := part == ".."

/-- The place that a part leads to from a place. There is nothing above the root, while above the
working directory the way goes on. -/
def enter (absolute : Bool) (place : List Text) (part : Text) : List Text :=
  if isUp part then
    match place.getLast? with
    | none => if absolute then [] else [part]
    | some last => if isUp last then place ++ [part] else place.dropLast
  else place ++ [part]

/-- The place of a path, if every part but the last is a directory. -/
def place (path : Text) : List Text := (parts path).foldl (enter (root path ≠ [])) []

/-- How many bytes the name of a file can have, and how many a path. -/
def nameLimit : Nat := 255

def pathLimit : Nat := 4095

section

variable {α : Type} (files : List (Text × α)) (path : Text)

/-- The files on the same side as a path, from the root or from here, under their places. -/
def alongside : List (List Text × α) :=
  (files.filter fun (name, _) => (root name = []) == (root path = [])).map fun (name, a) =>
    (place name, a)

/-- Follows the parts of a path from a place that is a directory. -/
def follow (files : List (List Text × α)) : List Text → List Text → Except PathError α
  | _, [] => .error (.directory (plainPath path))
  | here, part :: rest =>
    let there := enter (root path ≠ []) here part
    if part.utf8.length > nameLimit then .error (.tooLong (plainPath path))
    else match files.lookup there with
      | some a => if rest = [] then .ok a else .error (.notDirectory (plainPath path))
      | none =>
        if there.all isUp || files.any (there.isPrefixOf ·.1) then follow files there rest
        else .error (.missing (plainPath path))

/-- What a path leads to: the file that is known under this very path, or what its parts lead to one
after another. -/
def find : Except PathError α :=
  if path.contains (.char '\x00') then .error .nullByte
  else match files.find? fun (name, _) => plainPath name == plainPath path with
    | some (_, a) => .ok a
    | none =>
      if (plainPath path).utf8.length > pathLimit then .error (.tooLong (plainPath path))
      else follow path (alongside files path) [] (parts path)

end

/-- A path to a file that is written, with the parts that lead up taken out of it as it is spelled.
The file lies in the working directory, above it, in the root, or in another directory that is
known to be there. -/
def pathToWrite (directories : List Text) (path : Text) : Except PathError Text :=
  let there := place path
  let spelled := plainPath (root path ++ Text.joined "/" there)
  let known := directories.map parts
  let parent := there.dropLast
  if path.contains (.char '\x00') then .error .nullByte
  else if spelled.utf8.length > pathLimit then .error (.tooLong spelled)
  else if there.all isUp || (root path ≠ [] && known.contains there) then
    .error (.directory spelled)
  else if !(parent.all isUp || (root path ≠ [] && known.contains parent)) then
    .error (.missing spelled)
  else if there.getLast?.any fun name => name.utf8.length > nameLimit then .error (.tooLong spelled)
  else .ok spelled

end Directory
end Narration
