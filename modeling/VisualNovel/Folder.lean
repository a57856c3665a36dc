import Std.Data.ExtTreeMap
import Std.Data.ExtTreeSet
import VisualNovel.Text

namespace VisualNovel

inductive FileError
  | notFound
  | isDirectory
  | notDirectory
  | nameTooLong
  | zeroInName
deriving DecidableEq, Repr

def FileError.message : FileError → String
  | .notFound => "No such file or directory (os error 2)"
  | .isDirectory => "Is a directory (os error 21)"
  | .notDirectory => "Not a directory (os error 20)"
  | .nameTooLong => "File name too long (os error 36)"
  | .zeroInName => "file name contained an unexpected NUL byte"

/-- Why something cannot be loaded from a file: the file itself, or what stands in it. -/
inductive LoadError
  | file (reason : FileError)
  | malformed
deriving DecidableEq, Repr

def LoadError.message : LoadError → String
  | .file reason => "IO error: " ++ reason.message
  | .malformed => "RON deserialization error: the data is malformed"

/-- The text files of a folder by location, and the locations of the folders among them. -/
structure Folder where
  files : Std.ExtTreeMap String String
  folders : Std.ExtTreeSet String

/-- Where a path leads. -/
inductive Place
  | file (location : String)
  | folder (location : String)
  /-- Nothing is there, but a file may be put there. -/
  | free (location : String)
  /-- The path ends with a slash and leads to no folder. -/
  | noFolder (reason : FileError)
deriving DecidableEq, Repr

namespace Folder

/-- The location of the folder itself. -/
def self : String := "."

def root : String := "/"

def empty : Folder := ⟨∅, .ofList [self]⟩

instance : Inhabited Folder := ⟨empty⟩

/-- The location of what has the given name in the folder at a location. -/
def child (location name : String) : String :=
  if location = self then name
  else if location = root then root ++ name
  else location ++ "/" ++ name

/-- The last name of a location. -/
def lastName (location : String) : String :=
  ((Text.fields '/' location).getLast?).getD ""

/-- The location of the folder that lies around the one at a location. -/
def parent (location : String) : String :=
  if location = self then ".."
  else if lastName location = ".." then location ++ "/.."
  else
    match location.toList.reverse.dropWhile (· != '/') with
    | [] => self
    | [_] => root
    | _ :: rest => String.ofList rest.reverse

/-- The folders around the folder itself are known to be there. -/
def isFolder (folder : Folder) (location : String) : Bool :=
  folder.folders.contains location || location == root || lastName location == ".."

/-- The longest name that a file or folder can have, in bytes. -/
def nameLimit : Nat := 255

/-- The longest path that can be followed, in bytes. -/
def pathLimit : Nat := 4095

/-- Follows the parts of a path. An empty part and one point stay where they are. -/
def follow (folder : Folder) (location : String) : List String → Except FileError Place
  | [] => .ok (.folder location)
  | part :: parts =>
      if part = "" ∨ part = "." then folder.follow location parts
      else if part = ".." then folder.follow (parent location) parts
      else if nameLimit < part.utf8ByteSize then .error .nameTooLong
      else
        let location := child location part
        if folder.isFolder location then folder.follow location parts
        else
          let isFile := folder.files.contains location
          let reason : FileError := if isFile then .notDirectory else .notFound
          if parts = [] then .ok (if isFile then .file location else .free location)
          else if parts.all (· = "") then .ok (.noFolder reason)
          else .error reason

/-- Where the parts of a path are counted from. -/
def base (path : String) : String :=
  if Text.startsWith path root then root else self

/-- Where a path leads from the folder. -/
def locate (folder : Folder) (path : String) : Except FileError Place :=
  if path = "" then .error .notFound
  else if path.toList.contains '\x00' then .error .zeroInName
  else if pathLimit < path.utf8ByteSize then .error .nameTooLong
  else folder.follow (base path) (Text.fields '/' path)

def exists? (folder : Folder) (path : String) : Bool :=
  match folder.locate path with
  | .ok (.file _) | .ok (.folder _) => true
  | _ => false

def read (folder : Folder) (path : String) : Except FileError String :=
  match folder.locate path with
  | .error reason | .ok (.noFolder reason) => .error reason
  | .ok (.folder _) => .error .isDirectory
  | .ok (.file location) | .ok (.free location) =>
      match folder.files[location]? with
      | some text => .ok text
      | none => .error .notFound

/-- Writes a file into a folder that exists. -/
def write (folder : Folder) (path text : String) : Except FileError Folder :=
  match folder.locate path with
  | .error reason => .error reason
  | .ok (.folder _) | .ok (.noFolder _) => .error .isDirectory
  | .ok (.file location) | .ok (.free location) =>
      .ok { folder with files := folder.files.insert location text }

/-- Reads a file and what stands in it. -/
def load (folder : Folder) (ofText? : String → Option α) (path : String) : Except LoadError α :=
  match folder.read path with
  | .error reason => .error (.file reason)
  | .ok text =>
      match ofText? text with
      | some value => .ok value
      | none => .error .malformed

end Folder

end VisualNovel
