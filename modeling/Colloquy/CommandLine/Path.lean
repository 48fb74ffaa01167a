import Colloquy.Document.Error

/-!
# Paths

Paths are texts with slashes, in a form without empty parts and without parts that stay in place.

* `normalizePath`: the normal form; the empty path is the current directory;
* `Entry`, `Folder`: files with their octets and directories, under relative paths;
* `Folder.read`: what a path names.
-/

namespace Colloquy

/-- The parts of a path that lead somewhere: neither empty nor a single point. -/
def pathParts (path : String) : List String :=
  ((path.toList.splitOn '/').map String.ofList).filter fun part => part != "" && part != "."

/-- The slashes at the start of the normal form: one for the root, but two where there are exactly
two. -/
def pathRoot (path : String) : String :=
  match (path.toList.takeWhile (· == '/')).length with
  | 0 => ""
  | 2 => "//"
  | _ => "/"

/-- The normal form of a path. -/
def normalizePath (path : String) : String :=
  match pathRoot path, pathParts path with
  | "", [] => "."
  | root, parts => root ++ "/".intercalate parts

/-- What stands in a folder under a path. -/
inductive Entry
  | file (octets : List UInt8)
  | directory

/-- Files and directories under relative paths.  A directory that holds something exists. -/
abbrev Folder := List (String × Entry)

namespace Folder

/-- What the parts of a path name: an entry, or a directory that holds an entry. -/
def lookUp? (folder : Folder) (parts : List String) : Option Entry :=
  match folder.find? fun entry => pathParts entry.1 == parts with
  | some entry => some entry.2
  | none =>
    if folder.any fun entry => parts.isPrefixOf (pathParts entry.1) then some .directory else none

/-- Why a part of a path names nothing.  A name has at most 255 octets. -/
def missing (part : String) : FileError :=
  if 255 < part.utf8ByteSize then .nameTooLong else .notFound

/-- What the parts of a path name outside the folder, where nothing is known but the directories
that lie above it. -/
def outside (parts : List String) : FileError :=
  match parts.find? (· != "..") with
  | none => .isDirectory
  | some part => missing part

/-- Follow the parts of a path from a directory, given by its own parts, the last one first. -/
def follow (folder : Folder) : List String → List String → Except FileError (List UInt8)
  | _, [] => .error .isDirectory
  | [], ".." :: rest => .error (outside rest)
  | _ :: above, ".." :: rest => folder.follow above rest
  | here, part :: rest =>
    match folder.lookUp? (part :: here).reverse with
    | none => .error (missing part)
    | some .directory => folder.follow (part :: here) rest
    | some (.file octets) => if rest.isEmpty then .ok octets else .error .notDirectory

/-- The octets of the file that a path names.  A path has less than 4096 octets. -/
def read (folder : Folder) (path : String) : Except FileError (List UInt8) :=
  if 4096 ≤ path.utf8ByteSize then .error .nameTooLong
  else if pathRoot path = "" then folder.follow [] (pathParts path)
  else .error (outside (pathParts path))

end Folder

end Colloquy
