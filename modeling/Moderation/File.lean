/-!
# Files

What stands at a path, and the two ways the bot opens it: to read a text, and to append to it.
-/

namespace Moderation

/-- What stands at a path; `unreachable` when the directory it should be in does not exist. -/
inductive FileState where
  | missing
  | unreachable
  | directory
  | file (content : ByteArray)

/-- Why a file cannot be used. -/
inductive FileFault where
  | notFound
  | isDirectory
  | notText
  deriving DecidableEq, Repr

/-- The text of a fault. -/
def FileFault.message : FileFault → String
  | .notFound => "No such file or directory (os error 2)"
  | .isDirectory => "Is a directory (os error 21)"
  | .notText => "stream did not contain valid UTF-8"

namespace FileState

/-- The text in a file. -/
def readText : FileState → Except FileFault String
  | .file content =>
    match String.fromUTF8? content with
    | some text => .ok text
    | none => .error .notText
  | .directory => .error .isDirectory
  | .missing => .error .notFound
  | .unreachable => .error .notFound

/-- The content of a file that is opened for appending; a file that is missing is made. -/
def openForAppend : FileState → Except FileFault ByteArray
  | .file content => .ok content
  | .missing => .ok .empty
  | .directory => .error .isDirectory
  | .unreachable => .error .notFound

end FileState
end Moderation
