import Workday.FileTree
import Workday.Settings.Notation

/-!
This module contains where settings are kept: a file in the program's data directory, which is below
the home directory. Settings that were never saved are the defaults.
-/

namespace Workday

inductive Unusable where
  | file (error : FileError)
  | malformed (text : String) (fault : Json.Fault)
  | invalid (cause : JiraSettings.Invalid)
  deriving Repr, BEq, DecidableEq, Inhabited

structure DataDirectory where
  path : String
  deriving Repr, BEq, DecidableEq, Inhabited

namespace DataDirectory

/--
The directory of a user. Without a home directory it is below the working directory.
-/
def ofHome (home : Option String) : DataDirectory where
  path := FilePath.join (FilePath.join (home.getD "." ++ "/.local/share") "lacodda") "worklog"

def filePath (directory : DataDirectory) (name : String) : String :=
  FilePath.join directory.path name

/--
The path of a file in the directory, which is made if it does not exist.
-/
def prepare (directory : DataDirectory) (name : String) (tree : FileTree) :
    Except FileError String × FileTree :=
  if tree.isPresent directory.path then
    (.ok (directory.filePath name), tree)
  else
    match tree.makeDirectories directory.path with
    | (.ok (), tree) => (.ok (directory.filePath name), tree)
    | (.error error, tree) => (.error error, tree)

end DataDirectory

namespace Settings

def fileName : String := "config.json"

def load (tree : FileTree) (path : String) : Except Unusable Settings :=
  if tree.isPresent path then do
    let text ← (tree.readText path).mapError .file
    let settings ← (parse text).mapError (.malformed text)
    settings.check.mapError .invalid
    return settings
  else
    .ok default

def saveTo (settings : Settings) (tree : FileTree) (path : String) : Except FileError FileTree :=
  tree.writeFile path settings.text.toUTF8

def read (tree : FileTree) (home : Option String) : Except Unusable Settings :=
  load tree ((DataDirectory.ofHome home).filePath fileName)

def save (settings : Settings) (tree : FileTree) (home : Option String) :
    Except FileError Unit × FileTree :=
  match (DataDirectory.ofHome home).prepare fileName tree with
  | (.error error, tree) => (.error error, tree)
  | (.ok path, tree) =>
    match settings.saveTo tree path with
    | .ok tree => (.ok (), tree)
    | .error error => (.error error, tree)

def delete (tree : FileTree) (home : Option String) : Except FileError FileTree :=
  let path := (DataDirectory.ofHome home).filePath fileName
  if tree.isPresent path then tree.removeFile path else .ok tree

end Settings

end Workday
