import Labeling.CommandLine.Run

namespace Labeling.CommandLine

/-- Why reading a file failed. The system's number may come with a minus sign. -/
def faultOf (e : IO.Error) : FileFault :=
  let number (code : UInt32) := if code < 0x80000000 then code else 0 - code
  match e with
  | .noFileOrDirectory .. => .notFound
  | .permissionDenied .. => .denied
  | .inappropriateType _ code _ => if number code = 20 then .notDirectory else .isDirectory
  | .invalidArgument _ code _ => if number code = 36 then .nameTooLong else .other (toString e)
  | .userError _ => .notText
  | e => .other (toString e)

def readPath (path : String) : IO (Except FileFault String) := do
  try
    return .ok (← IO.FS.readFile path)
  catch e => return .error (faultOf e)

def idsOf (numbers : List Nat) (position : Nat) : String :=
  idOfNumbers ((numbers.drop (position * idLength)).take idLength)

end Labeling.CommandLine

open Labeling Labeling.CommandLine in
def main (args : List String) : IO UInt32 := do
  let contents ← (request args).paths.mapM fun path => return (path, ← readPath path)
  let files : Files := fun path => (contents.lookup path).getD (.error .notFound)
  -- a config has fewer controls than characters
  let size := contents.foldl (fun n c => n + (c.2.toOption.getD "").length) 0
  let bytes ← IO.getRandomBytes (USize.ofNat (idLength * size))
  let t := transcript files (idsOf (bytes.toList.map (·.toNat))) args
  (← IO.getStdout).putStr t.stdout
  (← IO.getStderr).putStr t.stderr
  return t.code.toUInt32
