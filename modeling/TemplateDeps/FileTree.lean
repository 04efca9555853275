import TemplateDeps.Fault

/-!
# Looking up files by path

What the program does depends on the content of one file, the manifest, or on why there is none. The
program gets this from the system. A `FileTree` gives it without one: it is a tree of files as a value, and
`FileTree.read` looks a path up in it the way the system does, with the same failures. So a run can be
computed from a command line and a tree, down to the complaint about a manifest that cannot be read.

The files are kept under a root, by their paths from there. A path starts at the root if it has a slash at
its head, and at the working directory if not. It is followed part by part: an empty part and a single dot
stay, two dots go up, where the root is above itself, and a name goes down. Only a directory can be gone on
from, so a path through a file fails, as does a slash behind a file. Names and paths have a greatest length
in bytes.

A path may lead out of the working directory. Its surroundings are the directories that every system has,
and the null device, which is empty; there is nothing else in them.
-/

namespace TemplateDeps

/-- The files and the directories of a tree, by their paths from the root as lists of names. -/
structure FileTree where
  files : List (List String × ByteArray)
  directories : List (List String)

namespace FileTree

/-! ## Paths -/

/-- The working directory. It lies two steps below the root. Its own name is not known, so it is given
one that no path can spell. -/
def workingDirectory : List String := ["tmp", "/"]

/-- Where a path starts. -/
def origin (path : String) : List String :=
  if path.startsWith "/" then [] else workingDirectory

/-- Where a part of a path leads to. -/
def follow (here : List String) (part : String) : List String :=
  if part = "" || part = "." then here
  else if part = ".." then here.dropLast
  else here ++ [part]

/-- The places that the parts of a path lead to one after the other. -/
def trail (here : List String) : List String → List (List String)
  | [] => []
  | part :: rest => follow here part :: trail (follow here part) rest

/-! ## Making a tree -/

/-- A system without files of its own. -/
def bare : FileTree where
  files := [(["dev", "null"], .empty)]
  directories := [] :: workingDirectory ::
    ["bin", "boot", "dev", "etc", "home", "lib", "media", "mnt", "opt", "proc", "root", "run", "sbin",
      "srv", "sys", "tmp", "usr", "var"].map fun name => [name]

/-- The tree with a file at a path. The places on the way to it become directories. -/
def write (t : FileTree) (path : String) (content : ByteArray) : FileTree :=
  let places := trail (origin path) (path.splitOn "/")
  ⟨(places.getLastD [], content) :: t.files, places.dropLast ++ t.directories⟩

/-- The tree with files given by paths. Of two files at the same place the later one is kept. -/
def ofPaths (files : List (String × ByteArray)) : FileTree :=
  files.foldl (fun t (path, content) => t.write path content) bare

/-! ## Reading a file -/

/-- Where a path has led. -/
inductive Place
  /-- To a directory, given by its path. -/
  | directory (path : List String)
  /-- To a file. -/
  | file (content : ByteArray)

/-- How many bytes a name may have. -/
def maxNameBytes : Nat := 255

/-- How many bytes a path may have. -/
def maxPathBytes : Nat := 4095

/-- The place with a path from the root. -/
def place? (t : FileTree) (path : List String) : Option Place :=
  match t.files.find? (·.1 = path) with
  | some (_, content) => some (.file content)
  | none => if t.directories.contains path then some (.directory path) else none

/-- Go on from a place by one part of a path. -/
def step (t : FileTree) (p : Place) (part : String) : Except ReadFault Place :=
  match p with
  | .file _ => .error .notDirectory
  | .directory here =>
    match t.place? (follow here part) with
    | some next => .ok next
    | none => .error (if part.utf8ByteSize ≤ maxNameBytes then .notFound else .tooLong)

/-- The content of the file at a path. -/
def read (t : FileTree) (path : String) : Except ReadFault ByteArray :=
  if path.toList.contains '\x00' then .error .nulInPath
  else if path.isEmpty then .error .notFound
  else if maxPathBytes < path.utf8ByteSize then .error .tooLong
  else do
    match ← (path.splitOn "/").foldlM t.step (.directory (origin path)) with
    | .file content => .ok content
    | .directory _ => .error .isDirectory

end FileTree

end TemplateDeps
