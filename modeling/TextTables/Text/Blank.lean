import TextTables.Text.Ranges

/-!
# Blank characters

The characters that separate words and that trimming removes: those with the
Unicode property `White_Space`.  The zero-width space and the byte order mark
do not have it.
-/

namespace TextTables.Text

/-- The ranges of the property `White_Space`. -/
def blankRanges : List CodeRange :=
  [⟨0x9, 0xD⟩, ⟨0x20, 0x20⟩, ⟨0x85, 0x85⟩, ⟨0xA0, 0xA0⟩, ⟨0x1680, 0x1680⟩,
   ⟨0x2000, 0x200A⟩, ⟨0x2028, 0x2029⟩, ⟨0x202F, 0x202F⟩, ⟨0x205F, 0x205F⟩,
   ⟨0x3000, 0x3000⟩]

/-- A character that stands for empty space. -/
def isBlank (c : Char) : Bool :=
  inRanges blankRanges c

/-- Drops the blank characters at both ends. -/
def trimChars (cs : List Char) : List Char :=
  ((cs.dropWhile isBlank).reverse.dropWhile isBlank).reverse

/-- A text without the blank characters at its ends. -/
def trim (s : String) : String :=
  String.ofList (trimChars s.toList)

/-- A text of blank characters only. -/
def allBlank (s : String) : Bool :=
  s.toList.all isBlank

@[simp] theorem toList_trim (s : String) :
    (trim s).toList = trimChars s.toList := by
  simp [trim]

end TextTables.Text
