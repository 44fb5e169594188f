/-!
What a path names, as far as a preprocessor needs to know: a regular file with its text, or
something that cannot be read as one. A run takes the answers for all paths as one function, so it
is a function of the files as they were when it started.
-/

namespace LineTemplate

inductive FileError where
  | notFound
  | isDirectory
  | notDirectory
  | nameTooLong
  | nulInPath
  | invalidText
  | other (message : String)
  deriving DecidableEq, Repr

def FileError.message : FileError → String
  | notFound => "No such file or directory (os error 2)"
  | isDirectory => "Is a directory (os error 21)"
  | notDirectory => "Not a directory (os error 20)"
  | nameTooLong => "File name too long (os error 36)"
  | nulInPath => "file name contained an unexpected NUL byte"
  | invalidText => "stream did not contain valid UTF-8"
  | other message => message

/-- A regular file, which may still be unreadable, or anything else, which always is. -/
inductive FileEntry where
  | regular (content : Except FileError String)
  | unreadable (error : FileError)

namespace FileEntry

def isRegular : FileEntry → Bool
  | regular _ => true
  | unreadable _ => false

def read : FileEntry → Except FileError String
  | regular content => content
  | unreadable error => .error error

end FileEntry

abbrev Files := String → FileEntry

/-- A path relative to a folder. An absolute path stands for itself. -/
def joinPath (folder path : String) : String :=
  if path.startsWith "/" || folder.isEmpty then path
  else if folder.endsWith "/" then folder ++ path
  else folder ++ "/" ++ path

end LineTemplate
