import Workday.FileTree
import Workday.Environment.Assignment

/-!
This module contains the environment variables of a run: those that are given, and those that a file
in the working directory adds to them. Nothing that is given is changed by the file.
-/

namespace Workday.Environment

def fileName : String := ".env"

/--
The bytes of the nearest file with variables, in a directory or in one around it.
-/
def nearestFile? (tree : FileTree) : Place → Option ByteArray
  | [] => fileIn []
  | name :: around =>
    match fileIn (name :: around) with
    | some data => some data
    | none => nearestFile? tree around
where
  fileIn (place : Place) : Option ByteArray :=
    match tree.node? (fileName :: place) with
    | some (.file data) => some data
    | _ => none

/--
Add the variables that lines assign, up to the first line that is malformed. `earlier` are the
variables that the lines before have assigned.
-/
def addLines (environment earlier : Environment) : List (List UInt8) → Environment
  | [] => environment
  | bytes :: lines =>
    match String.fromUTF8? ⟨bytes.toArray⟩ with
    | none => environment
    | some line =>
      match Assignment.ofLine? environment earlier line.toList with
      | none => environment
      | some none => addLines environment earlier lines
      | some (some (name, value)) =>
        let added :=
          if (environment.lookup name).isSome then environment else (name, value) :: environment
        addLines added ((name, value) :: earlier) lines

def complete (environment : Environment) (tree : FileTree) : Environment :=
  match nearestFile? tree tree.here with
  | some data => addLines environment [] (data.toList.splitOn 10)
  | none => environment

end Workday.Environment
