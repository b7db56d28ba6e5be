import MetesBounds.Text.Encoding.Chinese
import MetesBounds.Text.Encoding.Escaped
import MetesBounds.Text.Encoding.HostName
import MetesBounds.Text.Encoding.Iso2022
import MetesBounds.Text.Encoding.Korean
import MetesBounds.Text.Encoding.Name
import MetesBounds.Text.Encoding.Utf7
import MetesBounds.Text.Encoding.Utf8

/-!
# `Text/Encoding` — the text that bytes stand for

Call sheets come in UTF-8, with or without a byte order mark, in the other encodings of Unicode, in
an encoding of one byte for each character, in one for a script of East Asia, or with escapes in
ASCII. `Encoding.ofName?` finds the encoding of a name, and `decodeAs` reads bytes in it; some
encodings can say halves of characters, so what is read first are codes.
-/

set_option autoImplicit false

namespace MetesBounds.Text

/-- The encodings. -/
inductive Encoding where
  | utf8 | markedUtf8
  /-- In a byte order, or in the one that a mark tells. -/
  | utf16 (order : Option ByteOrder)
  | utf32 (order : Option ByteOrder)
  | utf7
  | ascii | latin1
  | page (p : Page)
  | multibyte (m : Multibyte)
  | escaped | rawEscaped
  | punycode | hostName
  /-- An encoding of nothing. -/
  | undefined
  /-- An encoding of bytes as other bytes, such as a compression. -/
  | ofBytes

/-- The encodings that have names of their own. -/
def Encoding.named : List (String × Encoding) := [
  ("utf_8", .utf8), ("utf_8_sig", .markedUtf8),
  ("utf_16", .utf16 none), ("utf_16_le", .utf16 (some .lowFirst)),
  ("utf_16_be", .utf16 (some .highFirst)),
  ("utf_32", .utf32 none), ("utf_32_le", .utf32 (some .lowFirst)),
  ("utf_32_be", .utf32 (some .highFirst)), ("utf_7", .utf7),
  ("ascii", .ascii), ("latin_1", .latin1), ("iso8859_1", .latin1), ("charmap", .latin1),
  ("unicode_escape", .escaped), ("raw_unicode_escape", .rawEscaped),
  ("punycode", .punycode), ("idna", .hostName), ("undefined", .undefined),
  ("base64_codec", .ofBytes), ("bz2_codec", .ofBytes), ("hex_codec", .ofBytes),
  ("quopri_codec", .ofBytes), ("rot_13", .ofBytes), ("uu_codec", .ofBytes),
  ("zlib_codec", .ofBytes)
]

/-- The encodings for the scripts of East Asia. -/
def Multibyte.all : List Multibyte := Japanese.all ++ Chinese.all ++ Korean.all ++ Iso2022.all

/-- The encoding for a script of East Asia that has a name. -/
def Multibyte.ofName? (name : String) : Option Multibyte := all.find? fun m => m.name == name

/-- The encoding of a name that is compared as it stands. -/
def Encoding.ofNormalName? (name : String) : Option Encoding :=
  ((named.find? fun e => e.1 == name).map Prod.snd) <|> (Page.ofName? name).map .page <|>
    (Multibyte.ofName? name).map .multibyte

/-- The encoding of a name. -/
def Encoding.ofName? (name : String) : Option Encoding :=
  (candidates name).findSome? ofNormalName?

/-- The codes of characters. -/
def plainCodes (r : Except Error (List Char)) : Except Error (List Nat) :=
  (fun cs => cs.map Char.toNat) <$> r

/-- The codes that bytes stand for in the encoding of a name. -/
def Encoding.codes (encoding : Encoding) (name : String) (bytes : List UInt8) :
    Except Error (List Nat) :=
  match encoding with
  | utf8 => plainCodes (Utf8.read bytes)
  | markedUtf8 => plainCodes (Utf8.read (Utf8.dropMark bytes))
  | utf16 (some order) => plainCodes (utf16From order 0 bytes)
  | utf16 none => plainCodes (markedUnits 2 utf16From "UTF-16" bytes)
  | utf32 (some order) => plainCodes (utf32From order 0 bytes)
  | utf32 none => plainCodes (markedUnits 4 utf32From "UTF-32" bytes)
  | utf7 => Utf7.read bytes
  | ascii => plainCodes (readAscii bytes)
  | latin1 => .ok (bytes.map UInt8.toNat)
  | page p => plainCodes (p.read bytes)
  | multibyte m => plainCodes (m.decode bytes)
  | escaped => Escaped.read bytes
  | rawEscaped => Escaped.readRaw bytes
  | punycode => Punycode.read bytes
  | hostName => HostName.read bytes
  | undefined => .error .undefinedEncoding
  | ofBytes => .error (.notATextEncoding name)

/-- The text that bytes stand for in the encoding of a name. -/
def decodeAs (name : String) (bytes : List UInt8) : Except Error String :=
  match Encoding.ofName? name with
  | some encoding => (fun ns => String.ofList (ofCodes ns)) <$> encoding.codes name bytes
  | none => .error (.unknownEncoding name)

end MetesBounds.Text
