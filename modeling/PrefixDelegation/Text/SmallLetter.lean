/-!
# Small letters

Names that may be written in capital letters are compared in small ones. The letters are those of
the Latin, Greek and Cyrillic alphabets, and two signs that are letters by another name: the kelvin
and the ångström.
-/

namespace PrefixDelegation.Text

/-- The small letter of a letter; any other character stays as it is. -/
def smallLetter (c : Char) : Char :=
  let n := c.toNat
  if n = 0x212a then 'k'
  else if n = 0x212b then 'å'
  else if (0xc0 ≤ n && n ≤ 0xde && n ≠ 0xd7) || (0x391 ≤ n && n ≤ 0x3a9) ||
      (0x410 ≤ n && n ≤ 0x42f) then .ofNat (n + 0x20)
  else if 0x400 ≤ n && n ≤ 0x40f then .ofNat (n + 0x50)
  else c.toLower

/-- A text in small letters. -/
def inSmallLetters (s : String) : String := String.ofList (s.toList.map smallLetter)

end PrefixDelegation.Text
