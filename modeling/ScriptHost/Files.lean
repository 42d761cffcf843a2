import ScriptHost.Text.Utf8

/-! Files as far as the program looks at them: contents under paths. Directories are there
only as far as there is something in them. -/

namespace ScriptHost

/-- Files with their contents, by path. -/
abbrev Files := List (String × List UInt8)

inductive FileFault where
  | notFound | notDirectory | isDirectory | notText | addressInUse | nameTooLong
deriving DecidableEq, Repr, Inhabited

def FileFault.message : FileFault → String
  | .notFound => "No such file or directory (os error 2)"
  | .notDirectory => "Not a directory (os error 20)"
  | .isDirectory => "Is a directory (os error 21)"
  | .notText => "stream did not contain valid UTF-8"
  | .addressInUse => "Address already in use (os error 98)"
  | .nameTooLong => "path must be shorter than SUN_LEN"

namespace Files

/-- The names on the way to a file. -/
def parts (path : String) : List String :=
  (if path.startsWith "/" then ["/"] else [])
    ++ (path.splitOn "/").filter fun part => part != "" && part != "."

def get? (files : Files) (path : String) : Option (List UInt8) :=
  (files.find? fun file => parts file.1 == parts path).map Prod.snd

/-- Is there something in a directory of that path? -/
def isDirectory (files : Files) (path : List String) : Bool :=
  path.isEmpty || files.any fun file => path.isPrefixOf (parts file.1) && path != parts file.1

/-- Is there a file on the way to a path? -/
def isBlocked (files : Files) (path : List String) : Bool :=
  files.any fun file => (parts file.1).isPrefixOf path && path != parts file.1

/-- Reads a file as text. -/
def readText (files : Files) (path : String) : Except FileFault String :=
  match files.get? path with
  | some bytes => (Utf8.decode bytes).mapError fun _ => .notText
  | none =>
    if files.isDirectory (parts path) then .error .isDirectory
    else if files.isBlocked (parts path) then .error .notDirectory
    else .error .notFound

/-- What is in the way of writing a file. -/
def writeFault? (files : Files) (path : String) : Option FileFault :=
  let path := parts path
  if files.isDirectory path then some .isDirectory
  else if files.isBlocked path then some .notDirectory
  else if files.isDirectory path.dropLast then none
  else some .notFound

/-- What is in the way of making a directory. -/
def directoryFault? (files : Files) (path : String) : Option FileFault :=
  if files.isBlocked (parts path) then some .notDirectory else none

/-- How long the path of a socket may be. -/
def socketLimit : Nat := 108

/-- What is in the way of listening at a socket; a file that is there gives way. -/
def socketFault? (files : Files) (path : String) : Option FileFault :=
  if socketLimit ≤ path.utf8ByteSize then some .nameTooLong
  else
    match files.writeFault? path with
    | some .isDirectory => some .addressInUse
    | fault => fault

end Files

end ScriptHost
