import Labeling.Dict
import Labeling.Text.Basic

namespace Labeling.CommandLine

inductive FileFault where
  | notFound | denied | notDirectory | isDirectory | nameTooLong
  | notText
  | other (reason : String)
  deriving DecidableEq, Repr

def FileFault.message : FileFault → String
  | notFound => "No such file or directory (os error 2)"
  | denied => "Permission denied (os error 13)"
  | notDirectory => "Not a directory (os error 20)"
  | isDirectory => "Is a directory (os error 21)"
  | nameTooLong => "File name too long (os error 36)"
  | notText => "stream did not contain valid UTF-8"
  | other reason => reason

abbrev Files := String → Except FileFault String

abbrev Folder := Dict String

namespace Folder

def nameLimit : Nat := 255

def pathLimit : Nat := 4095

inductive Place where
  | inside
  /-- A folder around this one, of which nothing is known. -/
  | outside
  | file (text : String)

def follow (folder : Folder) : Place → String → Except FileFault Place
  | .file _, _ => .error .notDirectory
  | place, "" | place, "." => .ok place
  | _, ".." => .ok .outside
  | place, name =>
    if nameLimit < name.utf8ByteSize then .error .nameTooLong
    else match place, Dict.get? folder name with
      | .inside, some text => .ok (.file text)
      | _, _ => .error .notFound

/-- The file of the system that is always there and holds nothing. -/
def nothing : String := "/dev/null"

def read (folder : Folder) : Files := fun path => do
  if path = nothing then return ""
  if path = "" then throw .notFound
  if pathLimit < path.utf8ByteSize then throw .nameTooLong
  let start := if Text.beginsWith "/" path then Place.outside else .inside
  match ← (Text.pieces '/' path).foldlM (follow folder) start with
  | .file text => return text
  | _ => throw .isDirectory

end Folder

end Labeling.CommandLine
