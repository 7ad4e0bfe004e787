/-!
# Faults of the file tree

The reasons for which a file operation is refused.  A fault that the operating
system reports carries its number in the message.
-/

namespace LegendReport

/-- Why a file operation was refused. -/
inductive FileFault where
  /-- Nothing is at the path. -/
  | missing
  /-- A part of the path that should be a folder is a file. -/
  | notFolder
  /-- A file was asked for at the path of a folder. -/
  | isFolder
  /-- The path names a folder that cannot be replaced, such as the working folder. -/
  | busy
  /-- A part of the path is longer than a file name can be. -/
  | nameTooLong
  /-- The path holds the character of code point zero. -/
  | zeroInPath
  /-- The operating system was given something that is no path. -/
  | invalid
  /-- The content of the file is not encoded text. -/
  | notText
  /-- Any other fault, with the text that describes it. -/
  | other (description : String)
  deriving DecidableEq, Repr

namespace FileFault

def message : FileFault → String
  | missing => "No such file or directory (os error 2)"
  | notFolder => "Not a directory (os error 20)"
  | isFolder => "Is a directory (os error 21)"
  | busy => "Device or resource busy (os error 16)"
  | nameTooLong => "File name too long (os error 36)"
  | zeroInPath => "file name contained an unexpected NUL byte"
  | invalid => "Invalid argument (os error 22)"
  | notText => "stream did not contain valid UTF-8"
  | other description => description

/-- The fault that is reported when a file cannot be moved; a character of code point zero in the
path is then noticed by the operating system. -/
def whenMoving : FileFault → FileFault
  | zeroInPath => invalid
  | fault => fault

end FileFault

end LegendReport
