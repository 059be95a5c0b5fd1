import HouseGate.DecimalText

namespace HouseGate.AsciiText

open DecimalText

/-!
# ASCII bytes and words

Names for the bytes that lexers compare with, letter case and words compared
without regard to case.  Nothing here refers to a particular language.
-/

@[simp] abbrev newline : UInt8 := 10
@[simp] abbrev space : UInt8 := 32
@[simp] abbrev bang : UInt8 := 33
@[simp] abbrev doubleQuote : UInt8 := 34
@[simp] abbrev hash : UInt8 := 35
@[simp] abbrev dollar : UInt8 := 36
@[simp] abbrev quote : UInt8 := 39
@[simp] abbrev leftParen : UInt8 := 40
@[simp] abbrev rightParen : UInt8 := 41
@[simp] abbrev star : UInt8 := 42
@[simp] abbrev comma : UInt8 := 44
@[simp] abbrev dash : UInt8 := 45
@[simp] abbrev dot : UInt8 := 46
@[simp] abbrev slash : UInt8 := 47
@[simp] abbrev semicolon : UInt8 := 59
@[simp] abbrev equals : UInt8 := 61
@[simp] abbrev backslash : UInt8 := 92
@[simp] abbrev underscore : UInt8 := 95
@[simp] abbrev backtick : UInt8 := 96
@[simp] abbrev leftBrace : UInt8 := 123
@[simp] abbrev rightBrace : UInt8 := 125

/-- The bytes of a text of ASCII characters. -/
def ascii (text : String) : Bytes := text.toList.map fun char => UInt8.ofNat char.toNat

variable (byte : UInt8)

def isUpper : Bool := 65 ≤ byte && byte ≤ 90

def isLower : Bool := 97 ≤ byte && byte ≤ 122

def isDigit : Bool := 48 ≤ byte && byte ≤ 57

/-- A letter or the underscore. -/
def isWordStart : Bool := byte == underscore || isUpper byte || isLower byte

def isWordPart : Bool := isWordStart byte || isDigit byte

def toUpperByte : UInt8 :=
  if isLower byte then byte - 32 else byte

def toUpper (text : Bytes) : Bytes := text.map toUpperByte

/-- Equality of ASCII words without regard to case. -/
def equalFold (first second : Bytes) : Bool := toUpper first == toUpper second

end HouseGate.AsciiText
