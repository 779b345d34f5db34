import RegexLiteral.Unicode.GeneralCategory
import RegexLiteral.Unicode.BinaryProperty

/-!
# Letters and numbers

The characters that names may be made of, in all scripts. Names follow the standard sooner than
classes do, so they may also have the letters and numbers that version 17.0 of it has added.
-/
namespace RegexLiteral.Unicode

/-- The characters of a row of a table; none if there is no such row. -/
def RangeTable.charSet (table : RangeTable) (name : String) : CharSet :=
  match table.find? fun row => row.long = name with
  | none => .empty
  | some row => row.charSet

/-- The alphabetic characters that version 17.0 has added. -/
def addedLetters : RangeRow :=
  ⟨"letters", "added_letters",
    "88f c5c cdc a7ce-a7cf a7d2 a7d4 a7f1 10940-10959 10ec5-10ec7 10efa-10efb 11b60-11b67
    11db0-11ddb 16ea0-16eb8 16ebb-16ed3 16ff2-16ff6 187f8-187ff 18d09-18d1e 18d80-18df2
    1e6c0-1e6de 1e6e0-1e6f5 1e6fe-1e6ff 2b73a-2b73f 2cea2-2cead 323b0-33479"⟩

/-- The numbers that version 17.0 has added. -/
def addedNumbers : RangeRow :=
  ⟨"numbers", "added_numbers",
    "11de0-11de9 16ff4-16ff6"⟩

def isAlphabetic (c : Char) : Bool :=
  if c.toNat ≤ 0x7F then c.isAlpha
  else (BinaryProperty.table.charSet "Alphabetic").contains c || addedLetters.charSet.contains c

def isNumeric (c : Char) : Bool :=
  if c.toNat ≤ 0x7F then c.isDigit
  else (["Decimal_Number", "Letter_Number", "Other_Number"].any fun name =>
    (GeneralCategory.table.charSet name).contains c) || addedNumbers.charSet.contains c

def isAlphanumeric (c : Char) : Bool := isAlphabetic c || isNumeric c

end RegexLiteral.Unicode
