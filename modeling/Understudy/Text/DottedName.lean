/-!
# Dotted names

A name may be qualified by a path with dots: `typing.List`. What it names is said by its last part.
-/

namespace Understudy

/-- The part of a name behind its last dot. -/
def lastPart (name : List Char) : List Char :=
  (name.reverse.takeWhile (· ≠ '.')).reverse

end Understudy
