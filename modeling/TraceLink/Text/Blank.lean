/-!
# White space around a text

The characters with the Unicode property `White_Space`, and the text between the outermost
characters that lack it.
-/

namespace TraceLink.Blank

/-- The characters with the property `White_Space`. -/
def isBlank (c : Char) : Bool :=
  ('\x09' ≤ c && c ≤ '\x0d') || c == ' ' || c == '\u0085' || c == '\u00a0' || c == '\u1680' ||
  ('\u2000' ≤ c && c ≤ '\u200a') || c == '\u2028' || c == '\u2029' || c == '\u202f' ||
  c == '\u205f' || c == '\u3000'

/-- Drops the blanks before the first other character. -/
def trimLeft (cs : List Char) : List Char := cs.dropWhile isBlank

/-- Drops the blanks on both sides. -/
def trim (cs : List Char) : List Char := (trimLeft (trimLeft cs).reverse).reverse

example : trim " \u3000a b\u0085".toList = "a b".toList := by decide +kernel

end TraceLink.Blank
