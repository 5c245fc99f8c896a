import HttpFetch.Text.PrintableTable
import HttpFetch.Text.Table

/-!
# Quoted text

Messages show a text between quotes: single ones, unless the text has a single quote and no
double one. The quote itself and the backslash are escaped, line ends and tabs by letter, and
what cannot be printed by number.
-/

namespace HttpFetch.Text

def unprintableSet : CharSet := .ofTable PrintableTable.unprintableRuns

/-- Whether a character shows as itself inside quotes. -/
def isPrintable (c : Char) : Bool :=
  if c.toNat < 127 then 32 ≤ c.toNat else !unprintableSet.contains c

/-- A character between quotes. -/
def escapeChar (quote c : Char) : Text :=
  if c = quote ∨ c = '\\' then ['\\', c]
  else if c = '\n' then ['\\', 'n']
  else if c = '\r' then ['\\', 'r']
  else if c = '\t' then ['\\', 't']
  else if isPrintable c then [c]
  else if c.toNat < 0x100 then '\\' :: 'x' :: padded 16 2 c.toNat
  else if c.toNat < 0x10000 then '\\' :: 'u' :: padded 16 4 c.toNat
  else '\\' :: 'U' :: padded 16 8 c.toNat

/-- The quote that a text is shown in. -/
def quoteFor (s : Text) : Char :=
  if s.elem '\'' && !s.elem '"' then '"' else '\''

/-- A text in quotes. -/
def quoted (s : Text) : Text :=
  let quote := quoteFor s
  quote :: s.flatMap (escapeChar quote) ++ [quote]

end HttpFetch.Text
