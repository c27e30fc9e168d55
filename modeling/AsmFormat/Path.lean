import AsmFormat.Text.Blank

/-!
# Paths

A path is a text: names with slashes between them, read from the root if it starts with a slash.
`Path.parent` is the directory that holds what a path names, told from the path alone.
-/

set_option autoImplicit false

namespace AsmFormat

/-- The name of a file as the user wrote it. Names are texts: a sequence of bytes that is not UTF-8
may name a file as well, but has no counterpart here. -/
abbrev Path := Text

namespace Path

/-- The names of a path. -/
def names (p : Path) : List Text :=
  (p.splitOn '/').filter fun name => !name.isEmpty

/-- Whether the path starts at the root. -/
def isAbsolute (p : Path) : Bool :=
  p.head? = some '/'

/-- Whether a slash follows the last name. -/
def endsInSlash (p : Path) : Bool :=
  p.getLast? = some '/'

/-- Whether a piece between slashes leads nowhere: it is empty or a single dot. -/
def leadsNowhere (piece : Text) : Bool :=
  piece.isEmpty || piece == ['.']

/-- The directory that holds what the path names, by the text of the path alone. Dots and slashes at
its end do not count, and the root and the workplace are held by the workplace. -/
def parent (p : Path) : Path :=
  let kept := (p.splitOn '/').reverse.dropWhile leadsNowhere
  let holders := (kept.drop 1).dropWhile leadsNowhere
  if holders.isEmpty then (if p.isAbsolute && !kept.isEmpty then ['/'] else ['.'])
  else ['/'].intercalate holders.reverse

end Path

end AsmFormat
