/-!
# Errors of the file system

The causes for which reading or writing a file fails, with the texts and numbers that the operating
system gives them.
-/

namespace Dialogue.Storage

/-- Why an operation on files failed. -/
inductive OsError where
  /-- A part of the path, or what it names, does not exist. -/
  | notFound
  /-- What is to be made exists already. -/
  | alreadyExists
  /-- A part of the path is not a folder. -/
  | notAFolder
  /-- A folder stands where a file is wanted. -/
  | isAFolder
  /-- The path, or a part of it, is too long. -/
  | nameTooLong
  /-- The file does not hold UTF-8 text. -/
  | invalidText
  /-- The path holds a null character. -/
  | nullInPath
  /-- Any other cause, by its text. -/
  | other (text : String)
  deriving DecidableEq, Repr

/-- The text of an error. -/
def OsError.message : OsError → String
  | .notFound => "No such file or directory (os error 2)"
  | .alreadyExists => "File exists (os error 17)"
  | .notAFolder => "Not a directory (os error 20)"
  | .isAFolder => "Is a directory (os error 21)"
  | .nameTooLong => "File name too long (os error 36)"
  | .invalidText => "stream did not contain valid UTF-8"
  | .nullInPath => "file name contained an unexpected NUL byte"
  | .other text => text

end Dialogue.Storage
