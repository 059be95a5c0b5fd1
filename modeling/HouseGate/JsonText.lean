import HouseGate.HexText
import HouseGate.JsonDocument
import HouseGate.AsciiText

namespace HouseGate.JsonText

open DecimalText AsciiText HexText JsonDocument

/-!
# The text of a JSON document

A document is written without blanks.  Quotes, backslashes and control
characters of a text are escaped, and so are the characters that are unsafe
inside a page.  A byte that does not start a well-formed encoding is written
as the escape of U+FFFD, whereas the character U+FFFD itself is copied; the two
separators U+2028 and U+2029 are escaped.
-/

/-- `\u` and four digits. -/
def unicodeEscape (codeUnit : Nat) : Bytes := ascii "\\u" ++
    [hexDigit (codeUnit / 4096 % 16), hexDigit (codeUnit / 256 % 16),
      hexDigit (codeUnit / 16 % 16), hexDigit (codeUnit % 16)]

/-- Characters of the ASCII range that are written as they are. -/
def isPlain (byte : UInt8) : Bool :=
  32 ≤ byte.toNat && byte != 34 && byte != 92 && byte != 60 && byte != 62 && byte != 38

def escapeAscii (byte : UInt8) : Bytes :=
  if isPlain byte then [byte]
  else if byte = 34 then ascii "\\\""
  else if byte = 92 then ascii "\\\\"
  else if byte = 8 then ascii "\\b"
  else if byte = 12 then ascii "\\f"
  else if byte = 10 then ascii "\\n"
  else if byte = 13 then ascii "\\r"
  else if byte = 9 then ascii "\\t"
  else unicodeEscape byte.toNat

/-- The code of a line or paragraph separator at the head of a text. -/
def separator? : Bytes → Option Nat
  | 0xE2 :: 0x80 :: 0xA8 :: _ => some 0x2028
  | 0xE2 :: 0x80 :: 0xA9 :: _ => some 0x2029
  | _ => none

/--
Write a text.  The counter is the number of bytes of the current encoding that
are still to be passed, and the flag says whether they are copied.
-/
def escapeFrom : Bool → Nat → Bytes → Bytes
  | _, _, [] => []
  | true, pending + 1, byte :: rest => byte :: escapeFrom true pending rest
  | false, pending + 1, _ :: rest => escapeFrom false pending rest
  | _, 0, byte :: rest =>
    if byte.toNat < 0x80 then
      escapeAscii byte ++ escapeFrom true 0 rest
    else
      match Utf8Text.trailingCount? (byte :: rest) with
      | none => unicodeEscape 0xFFFD ++ escapeFrom true 0 rest
      | some trailing =>
        match separator? (byte :: rest) with
        | some code => unicodeEscape code ++ escapeFrom false trailing rest
        | none => byte :: escapeFrom true trailing rest

def marshalText (text : Bytes) : Bytes := 34 :: (escapeFrom true 0 text ++ [34])

def marshalNumber : Int → Bytes
  | .ofNat value => formatUint value
  | .negSucc value => 45 :: formatUint (value + 1)

mutual

/-- `json.Marshal` of a document. -/
def marshal : Json → Bytes
  | .null => ascii "null"
  | .bool true => ascii "true"
  | .bool false => ascii "false"
  | .number value => marshalNumber value
  | .text value => marshalText value
  | .array items => 91 :: (marshalItems items ++ [93])
  | .object fields => 123 :: (marshalFields fields ++ [125])

def marshalItems : List Json → Bytes
  | [] => []
  | [item] => marshal item
  | item :: next :: rest => marshal item ++ 44 :: marshalItems (next :: rest)

def marshalFields : List (String × Json) → Bytes
  | [] => []
  | [(name, value)] => marshalText (ascii name) ++ 58 :: marshal value
  | (name, value) :: next :: rest =>
    marshalText (ascii name) ++ 58 :: (marshal value ++ 44 :: marshalFields (next :: rest))

end

end HouseGate.JsonText
