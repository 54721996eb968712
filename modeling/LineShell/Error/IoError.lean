import LineShell.Error.Errno
/-!
# Failed input and output

Why something on the machine could not be read, written or entered: a call failed, or there was no
call, because a path cannot hold a NUL character, or the bytes found are no text.
-/

namespace LineShell

/-- Why reading or moving about in the file tree failed. -/
inductive IoError where
  /-- A call failed. -/
  | call (number : Errno)
  /-- The path holds a NUL character, so no call could be made. -/
  | nulInPath
  /-- The contents are not text. -/
  | notUtf8
  deriving DecidableEq, Repr

namespace IoError

/-- The wording of a cause. -/
def message : IoError → Text
  | call number => number.message
  | nulInPath => Text.lit "file name contained an unexpected NUL byte"
  | notUtf8 => Text.lit "stream did not contain valid UTF-8"

end IoError

end LineShell
