/-
  A working directory that starts empty.

  Files are written by relative names; a name with further parts needs
  directories, of which there are none but the directory itself and those
  above it.
-/
import RateIsolation.PathName
import RateIsolation.Table
import RateIsolation.World

namespace RateIsolation

/-- The files of a directory, by name. -/
abbrev Directory := Table String String

namespace Directory

/-- The longest part of a name that a directory takes, in bytes. -/
def maxNameBytes : Nat := 255

/-- Where a name leads: a file of the directory, or why nowhere. -/
def locate (d : Directory) (path : String) : Except FileFault (Option String) :=
  if path.toList.contains '\x00' then .error .nullInName
  else if path.isEmpty then .error .noSuchFile
  else
    let absolute := path.toList.head? = some '/'
    match PathName.parts path with
    | [] => .error .isADirectory
    | [name] =>
      if name = ".." then .error .isADirectory
      else if name.utf8ByteSize > maxNameBytes then .error .nameTooLong
      else if absolute then .ok none
      else if path.toList.getLast? = some '/' then .error .isADirectory
      else .ok (some name)
    | first :: rest =>
      if absolute then .error .noSuchFile
      else if first = ".." then
        if rest.all (· = "..") then .error .isADirectory else .error .noSuchFile
      else if Table.has first d then .error .notADirectory
      else .error .noSuchFile

/-- Write a file in place. -/
def write (path content : String) (d : Directory) : Except FileFault Unit × Directory :=
  match d.locate path with
  | .error f => (.error f, d)
  | .ok none => (.ok (), d)
  | .ok (some name) => (.ok (), Table.set name content d)

/-- Write a file beside and put it in place; the directory itself cannot be replaced. -/
def replace (path content : String) (d : Directory) : Except FileFault Unit × Directory :=
  match d.locate path with
  | .error .isADirectory =>
    (.error (if path.toList.getLast? = some '.' then .busy else .isADirectory), d)
  | .error f => (.error f, d)
  | .ok none => (.ok (), d)
  | .ok (some name) => (.ok (), Table.set name content d)

end Directory

end RateIsolation
