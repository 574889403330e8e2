namespace GameShelf

inductive FileError
  | notFound
  | permissionDenied
  | alreadyExists
  | notDirectory
  | isDirectory
  | noSpace
  | nameTooLong
  | nulInName
  | notText
  | other (message : String)
deriving DecidableEq

def FileError.message : FileError → String
  | notFound => "No such file or directory (os error 2)"
  | permissionDenied => "Permission denied (os error 13)"
  | alreadyExists => "File exists (os error 17)"
  | notDirectory => "Not a directory (os error 20)"
  | isDirectory => "Is a directory (os error 21)"
  | noSpace => "No space left on device (os error 28)"
  | nameTooLong => "File name too long (os error 36)"
  | nulInName => "file name contained an unexpected NUL byte"
  | notText => "stream did not contain valid UTF-8"
  | other message => message

end GameShelf
