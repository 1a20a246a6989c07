/-!
Errors of the file system.
-/
namespace FlowConsole.Files

inductive Error
  | notFound
  | exists
  | notDirectory
  | isDirectory
  | linkLoop
  | nameTooLong
  | notText
  | nulInPath
  | other (message : String)
deriving DecidableEq, Repr

def Error.message : Error → String
  | .notFound => "No such file or directory (os error 2)"
  | .exists => "File exists (os error 17)"
  | .notDirectory => "Not a directory (os error 20)"
  | .isDirectory => "Is a directory (os error 21)"
  | .nameTooLong => "File name too long (os error 36)"
  | .linkLoop => "Too many levels of symbolic links (os error 40)"
  | .notText => "stream did not contain valid UTF-8"
  | .nulInPath => "file name contained an unexpected NUL byte"
  | .other message => message

end FlowConsole.Files
