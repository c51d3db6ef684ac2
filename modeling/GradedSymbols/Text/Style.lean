/-!
# Styles of numbers

A number is written as a sign and a body. A style says how many characters it is to fill at
least, with which character and on which side the rest is filled, whether a number that is not
negative has a plus sign, how many decimals a float has, and whether an integer is written in
hexadecimal. Padding by zeros goes between the sign and the body, and then the fill character and
the side do not count.

## Main definitions

* `GradedSymbols.Style` — the style of a number; `{}` is the default.
* `GradedSymbols.Style.pad` — a sign and a body, padded.
* `GradedSymbols.Style.signed`, `GradedSymbols.Style.unsigned` — a body with and without a sign.
-/

namespace GradedSymbols

/-- The side at which a padded number stands. In the middle, the extra one of an odd number of fill
characters goes to the right. -/
inductive Alignment where
  | left
  | right
  | center
deriving DecidableEq

/-- The letters of hexadecimal digits. -/
inductive LetterCase where
  | lower
  | upper
deriving DecidableEq

/-- How a number is written: the least number of characters, the character that fills them up and the
side at which the number stands, whether a number that is not negative has a plus sign, whether zeros
fill up the width behind the sign, the number of decimals of a float and the letters of an integer in
hexadecimal, where these are fixed, and whether outlines are broken into lines and hexadecimal integers
marked by `0x`. -/
structure Style where
  width : Nat := 0
  fill : Char := ' '
  alignment : Alignment := .right
  plus : Bool := false
  zeros : Bool := false
  precision : Option Nat := none
  hex : Option LetterCase := none
  alternate : Bool := false
deriving DecidableEq

namespace Style

/-- The text of `n` copies of a character. -/
def copies (n : Nat) (c : Char) : String := String.ofList (List.replicate n c)

/-- The sign of a number. -/
def sign (s : Style) (negative : Bool) : String :=
  if negative then "-" else if s.plus then "+" else ""

/-- A sign and a body, padded to the width of the style. -/
def pad (s : Style) (sign body : String) : String :=
  let gap := s.width - (sign.length + body.length)
  if s.zeros then sign ++ copies gap '0' ++ body
  else
    match s.alignment with
    | .left => sign ++ body ++ copies gap s.fill
    | .right => copies gap s.fill ++ sign ++ body
    | .center => copies (gap / 2) s.fill ++ sign ++ body ++ copies (gap - gap / 2) s.fill

/-- The padded text of a number that has a sign. -/
def signed (s : Style) (negative : Bool) (body : String) : String := s.pad (s.sign negative) body

/-- The padded text of a number that never has a sign. -/
def unsigned (s : Style) (body : String) : String := s.pad "" body

end Style

end GradedSymbols
