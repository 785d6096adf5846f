/-
This file defines files as commands see them: what keeps a file from being read or written, and a folder
with files in it.
-/

namespace ObjectMapping.CommandLine

/-- What keeps a file from being read or written. -/
inductive FileFault
  | missing
  /-- A file is used as a folder. -/
  | notFolder
  | isFolder
  /-- The file holds no text. -/
  | notText
  /-- What else the system says. -/
  | other (reason : String)
  deriving Repr, DecidableEq

def FileFault.message : FileFault → String
  | .missing => "No such file or directory (os error 2)"
  | .notFolder => "Not a directory (os error 20)"
  | .isFolder => "Is a directory (os error 21)"
  | .notText => "stream did not contain valid UTF-8"
  | .other reason => reason

/-- A folder without inner folders: its files with their texts. -/
structure Folder where
  files : List (String × String)
  deriving Repr, DecidableEq

/-- Where a path leads. -/
inductive Place
  | folder
  /-- An entry of the folder, which may not be there; blank parts may follow its name. -/
  | entry (name : String) (followed : Bool)
  | fault (fault : FileFault)
  deriving Repr, DecidableEq

namespace Folder

def text? (folder : Folder) (name : String) : Option String :=
  (folder.files.find? (·.1 == name)).map (·.2)

/-- Follows the parts of a path, of which blank ones and single dots stay where they are. -/
def follow (folder : Folder) : List String → Place
  | [] => .folder
  | part :: rest =>
      if part.isEmpty || part == "." then folder.follow rest
      else if part == ".." then .fault .missing
      else if rest.all (·.isEmpty) then .entry part (!rest.isEmpty)
      else if (folder.text? part).isSome then .fault .notFolder
      else .fault .missing

/-- Where a path leads; outside the folder there is nothing. -/
def place (folder : Folder) (path : String) : Place :=
  if path.startsWith "/" then .fault .missing else folder.follow (path.splitOn "/")

def read (folder : Folder) (path : String) : Except FileFault String :=
  match folder.place path with
  | .folder => .error .isFolder
  | .fault fault => .error fault
  | .entry name followed =>
      match folder.text? name with
      | none => .error .missing
      | some text => if followed then .error .notFolder else .ok text

/-- The folder after a file has been written. -/
def write (folder : Folder) (path text : String) : Except FileFault Folder :=
  match folder.place path with
  | .folder => .error .isFolder
  | .fault fault => .error fault
  | .entry _ true => .error .isFolder
  | .entry name false => .ok ⟨(name, text) :: folder.files.filter (·.1 != name)⟩

end Folder

end ObjectMapping.CommandLine
