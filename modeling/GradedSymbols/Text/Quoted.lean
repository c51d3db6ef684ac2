import GradedSymbols.Text.Unprintable

/-!
# Quoted text

Texts and characters are quoted for reports: a text between double quotes, a character between
single ones. NUL, tab, line feed, carriage return and the backslash have two-character escapes, so
has the quote that encloses the text, and the other quote stands as it is. A character of
`GradedSymbols.Unprintable` is written as a backslash, `u`, and its code point in hexadecimal
between braces.

Everything is defined on lists of characters, one character at a time, and packed into strings at
the end.

## Main definitions

* `GradedSymbols.Quoted.escape` — the characters written for one character.
* `GradedSymbols.Quoted.string`, `GradedSymbols.Quoted.char` — a quoted text and a quoted
  character.
-/

namespace GradedSymbols

namespace Quoted

/-- The double quote, which encloses texts. -/
def doubleQuote : Char := '\x22'

/-- The single quote, which encloses characters. -/
def singleQuote : Char := '\x27'

/-- The backslash, which begins every escape. -/
def backslash : Char := '\x5c'

/-- The letter after the backslash in the escape of one of the four control characters that have
a short escape. -/
def shortEscape? (c : Char) : Option Char :=
  if c = '\x00' then some '0'
  else if c = '\t' then some 't'
  else if c = '\n' then some 'n'
  else if c = '\r' then some 'r'
  else none

/-- The digits of a code point: hexadecimal, lower case, without leading zeros. -/
def hexDigits (c : Char) : List Char := Nat.toDigits 16 c.toNat

/-- The characters written for the character `c` inside a text enclosed by `quote`. -/
def escape (quote c : Char) : List Char :=
  match shortEscape? c with
  | some letter => [backslash, letter]
  | none =>
    if c = backslash ∨ c = quote then [backslash, c]
    else if Unprintable.contains c then backslash :: 'u' :: '\x7b' :: hexDigits c ++ ['\x7d']
    else [c]

/-- The characters of a text enclosed by `quote`. -/
def enclose (quote : Char) (cs : List Char) : List Char :=
  quote :: cs.flatMap (escape quote) ++ [quote]

/-- A text between double quotes. -/
def string (s : String) : String := String.ofList (enclose doubleQuote s.toList)

/-- A character between single quotes. -/
def char (c : Char) : String := String.ofList (enclose singleQuote [c])

end Quoted

end GradedSymbols
