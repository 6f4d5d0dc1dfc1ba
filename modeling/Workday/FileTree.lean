import Workday.FilePath

/-!
This module contains the files and directories that a program works with, and what it does with
them: looking, reading, writing, removing, and making directories. An operation that fails leaves
all files as they were.
-/

namespace Workday

inductive FileError where
  | notFound
  | denied
  | alreadyExists
  | notDirectory
  | isDirectory
  | notText
  deriving Repr, BEq, DecidableEq, Inhabited

namespace FileError

def message : FileError → String
  | notFound => "No such file or directory (os error 2)"
  | denied => "Permission denied (os error 13)"
  | alreadyExists => "File exists (os error 17)"
  | notDirectory => "Not a directory (os error 20)"
  | isDirectory => "Is a directory (os error 21)"
  | notText => "stream did not contain valid UTF-8"

end FileError

inductive Node where
  | directory
  | file (data : ByteArray)
  deriving Inhabited

/--
The place of a node, as its name followed by the names of the directories around it. The root has
no name.
-/
abbrev Place := List String

/--
The files and directories there are, and the directory in which paths that are not absolute start.
-/
structure FileTree where
  here : Place
  nodes : List (Place × Node)
  deriving Inhabited

namespace FileTree

/--
The node at a place. There always is a root.
-/
def node? (tree : FileTree) (place : Place) : Option Node :=
  if place.isEmpty then some .directory else tree.nodes.lookup place

def put (tree : FileTree) (place : Place) (node : Node) : FileTree :=
  { tree with nodes := (place, node) :: tree.nodes.filter fun entry => entry.1 != place }

def erase (tree : FileTree) (place : Place) : FileTree :=
  { tree with nodes := tree.nodes.filter fun entry => entry.1 != place }

/--
Go from a directory to one of the names in it. One dot is the directory itself, two are the
directory around it.
-/
def enter (tree : FileTree) (place : Place) (name : String) : Except FileError Place :=
  match tree.node? place with
  | none => .error .notFound
  | some (.file _) => .error .notDirectory
  | some .directory =>
    if name = "." then .ok place
    else if name = ".." then .ok place.tail
    else if (tree.node? (name :: place)).isSome then .ok (name :: place)
    else .error .notFound

def origin (tree : FileTree) (path : String) : Place :=
  if FilePath.isAbsolute path then [] else tree.here

def locate (tree : FileTree) (path : String) : Except FileError Place :=
  if path.isEmpty then
    .error .notFound
  else do
    let place ← (FilePath.names path).foldlM tree.enter (tree.origin path)
    if FilePath.endsInSlash path then tree.enter place "." else .ok place

def isPresent (tree : FileTree) (path : String) : Bool :=
  match tree.locate path with
  | .ok _ => true
  | .error _ => false

def readFile (tree : FileTree) (path : String) : Except FileError ByteArray := do
  match tree.node? (← tree.locate path) with
  | some (.file data) => .ok data
  | some .directory => .error .isDirectory
  | none => .error .notFound

def readText (tree : FileTree) (path : String) : Except FileError String := do
  match String.fromUTF8? (← tree.readFile path) with
  | some text => .ok text
  | none => .error .notText

/--
Where the last of the given names is or would be. The other names have to lead to a directory. One
or two dots as the last name are no place of their own.
-/
def place? (tree : FileTree) (start : Place) (names : List String) :
    Except FileError (Option Place) := do
  let directory ← names.dropLast.foldlM tree.enter start
  let directory ← tree.enter directory "."
  match names.getLast? with
  | none | some "." | some ".." => .ok none
  | some name => .ok (some (name :: directory))

/--
Write the file that a path leads to, which is made if it does not exist.
-/
def writeFile (tree : FileTree) (path : String) (data : ByteArray) : Except FileError FileTree :=
  if path.isEmpty then
    .error .notFound
  else do
    match ← tree.place? (tree.origin path) (FilePath.names path) with
    | none => .error .isDirectory
    | some place =>
      if FilePath.endsInSlash path then
        .error .isDirectory
      else
        match tree.node? place with
        | some .directory => .error .isDirectory
        | _ => .ok (tree.put place (.file data))

def removeFile (tree : FileTree) (path : String) : Except FileError FileTree := do
  let place ← tree.locate path
  match tree.node? place with
  | some (.file _) => .ok (tree.erase place)
  | some .directory => .error .isDirectory
  | none => .error .notFound

def makeDirectory (tree : FileTree) (start : Place) (names : List String) :
    Except FileError FileTree := do
  match ← tree.place? start names with
  | none => .error .alreadyExists
  | some place =>
    if (tree.node? place).isSome then .error .alreadyExists else .ok (tree.put place .directory)

def isDirectory (tree : FileTree) (start : Place) (names : List String) : Bool :=
  match names.foldlM tree.enter start with
  | .ok place => (tree.enter place ".").toBool
  | .error _ => false

/--
Make a directory that is missing, after `around` has made the directories around it. It does not
matter why a directory cannot be made if it is there.
-/
def makeWithin (tree : FileTree) (start : Place) (names : List String)
    (around : Except FileError Unit × FileTree) : Except FileError Unit × FileTree :=
  match tree.makeDirectory start names with
  | .ok made => (.ok (), made)
  | .error .notFound =>
    match around with
    | (.error error, tree) => (.error error, tree)
    | (.ok (), tree) =>
      match tree.makeDirectory start names with
      | .ok made => (.ok (), made)
      | .error error => (if tree.isDirectory start names then .ok () else .error error, tree)
  | .error error => (if tree.isDirectory start names then .ok () else .error error, tree)

/--
Make the directory that names lead to, with all directories around it that are missing. The names
are given in reverse order.
-/
def makeAll (tree : FileTree) (start : Place) : List String → Except FileError Unit × FileTree
  | [] => (.ok (), tree)
  | name :: around =>
    tree.makeWithin start (name :: around).reverse (tree.makeAll start around)

/--
Make the directory that a path leads to, with all directories around it that are missing. Those
that were made stay if a later one cannot be made. A single dot is not a directory to be made.
-/
def makeDirectories (tree : FileTree) (path : String) : Except FileError Unit × FileTree :=
  let start := tree.origin path
  let names := FilePath.names path
  let around := (names.filter (· ≠ ".")).dropLast
  tree.makeWithin start names (tree.makeAll start around.reverse)

end FileTree

end Workday
