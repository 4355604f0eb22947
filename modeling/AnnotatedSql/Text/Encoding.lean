/-!
# Encodings

Texts are decoded from bytes. Decoding stops at the first bytes that encode no character and
says which these are: for UTF-8 the longest beginning of an encoded character, for UTF-16 a
surrogate without its partner or what is left at the end.
-/

namespace AnnotatedSql.Text

/-- The encodings that files may have. -/
inductive Encoding where
  | utf8
  /-- UTF-8 with an optional mark in front. -/
  | utf8Mark
  | latin1
  | ascii
  /-- UTF-16 with a mark in front that gives the order of the bytes. -/
  | utf16
  | utf16LittleEndian
  | utf16BigEndian
  deriving DecidableEq, Repr

namespace Encoding

/-- The names of the encodings, in the form that names are looked up in. -/
def names : List (String × Encoding) :=
  [("utf_8", .utf8), ("utf_8_sig", .utf8Mark), ("latin_1", .latin1), ("ascii", .ascii),
    ("utf_16", .utf16), ("utf_16_le", .utf16LittleEndian), ("utf_16_be", .utf16BigEndian)]

/-- Other names of the encodings. -/
def otherNames : List (Encoding × List String) :=
  [(.utf8, ["u8", "utf", "utf8", "utf8_ucs2", "utf8_ucs4", "cp65001"]),
    (.latin1, ["8859", "cp819", "csisolatin1", "ibm819", "iso8859", "iso8859_1", "iso_8859_1",
      "iso_8859_1_1987", "iso_ir_100", "l1", "latin", "latin1"]),
    (.ascii, ["646", "ansi_x3.4_1968", "ansi_x3_4_1968", "ansi_x3.4_1986", "cp367", "csascii",
      "ibm367", "iso646_us", "iso_646.irv_1991", "iso_ir_6", "us", "us_ascii"]),
    (.utf16, ["u16", "utf16"]),
    (.utf16LittleEndian, ["unicodelittleunmarked", "utf_16le"]),
    (.utf16BigEndian, ["unicodebigunmarked", "utf_16be"])]

/-- The names of encodings of bytes as other bytes, which texts cannot have. -/
def binaryNames : List String :=
  ["base64", "base64_codec", "base_64", "bz2", "bz2_codec", "hex", "hex_codec", "quopri",
    "quopri_codec", "quoted_printable", "quotedprintable", "rot13", "rot_13", "uu", "uu_codec",
    "zip", "zlib", "zlib_codec"]

/-- A character that counts in the name of an encoding. -/
def isNameChar (c : Char) : Bool :=
  c == '.' || ('0' ≤ c && c ≤ '9') || ('a' ≤ c && c ≤ 'z') || ('A' ≤ c && c ≤ 'Z')

/-- The characters of a name that count, in lower case. What stands between two of them, however
much, is an underscore. -/
def normalize (started apart : Bool) : List Char → List Char
  | [] => []
  | c :: rest =>
    if isNameChar c then
      let kept := (if 'A' ≤ c && c ≤ 'Z' then Char.ofNat (c.toNat + 32) else c)
        :: normalize true false rest
      if started && apart then '_' :: kept else kept
    else normalize started true rest

/-- The form that a name is looked up in. -/
def normalized (name : String) : String :=
  String.ofList (normalize false false name.toList)

/-- The encoding of another name. -/
def ofOtherName? (name : String) : Option Encoding :=
  (otherNames.find? fun e => e.2.contains name).map Prod.fst

/-- The encoding of a name, whatever its case and however its parts are joined. In names other
than the first ones a point may stand for an underscore. -/
def ofName? (name : String) : Option Encoding :=
  let looked := normalized name
  let joined := String.ofList (looked.toList.map fun c => if c = '.' then '_' else c)
  (ofOtherName? looked) <|> (ofOtherName? joined) <|> (names.lookup looked)

/-- Why a name is that of no encoding of texts. -/
def refusal (name : String) : String :=
  if binaryNames.contains (normalized name) then
    "'" ++ name ++ "' is not a text encoding; use codecs.open() to handle arbitrary codecs"
  else "unknown encoding: " ++ name

end Encoding

/-- Why bytes do not decode. -/
inductive DecodeFault where
  /-- The bytes from the first up to before the last encode nothing, for a reason. -/
  | undecodable (codec : String) (first last : Nat) (reason : String)
  /-- The mark that gives the order of the bytes is missing. -/
  | missingMark
  deriving DecidableEq, Repr

/-- The character of a code point that is known to be one. -/
def charOf (code : Nat) : Char :=
  Char.ofNat code

/-- How many bytes a character takes whose first byte this is; none if it is no first byte. -/
def utf8Width (lead : Nat) : Option Nat :=
  if lead < 0x80 then some 1
  else if 0xC2 ≤ lead && lead < 0xE0 then some 2
  else if 0xE0 ≤ lead && lead < 0xF0 then some 3
  else if 0xF0 ≤ lead && lead < 0xF5 then some 4
  else none

/-- The byte may follow any other in the encoding of a character. -/
def isTail (b : UInt8) : Bool :=
  0x80 ≤ b && b < 0xC0

/-- The byte may be the second one after the given first one: there is one way to encode a
character, and none for surrogates and beyond the last code point. -/
def isSecond (lead : Nat) (b : UInt8) : Bool :=
  isTail b && (lead != 0xE0 || 0xA0 ≤ b) && (lead != 0xED || b < 0xA0)
    && (lead != 0xF0 || 0x90 ≤ b) && (lead != 0xF4 || b < 0x90)

/-- The six bits of a byte that follows. -/
def tailBits (b : UInt8) : Nat :=
  b.toNat % 64

/-- Decodes UTF-8 from a position on, where so many bytes end the text. -/
def decodeUtf8 (size : Nat) : (position : Nat) → List UInt8 → Except DecodeFault (List Char)
  | _, [] => .ok []
  | position, a :: rest =>
    let lead := a.toNat
    let invalid (count : Nat) : Except DecodeFault (List Char) :=
      .error (.undecodable "utf-8" position (position + count) "invalid continuation byte")
    let cut : Except DecodeFault (List Char) :=
      .error (.undecodable "utf-8" position size "unexpected end of data")
    match utf8Width lead with
    | none => .error (.undecodable "utf-8" position (position + 1) "invalid start byte")
    | some 1 => (decodeUtf8 size (position + 1) rest).map (charOf lead :: ·)
    | some 2 =>
      match rest with
      | [] => cut
      | b :: rest =>
        if isSecond lead b then
          (decodeUtf8 size (position + 2) rest).map
            (charOf (lead % 32 * 64 + tailBits b) :: ·)
        else invalid 1
    | some 3 =>
      match rest with
      | [] => cut
      | [b] => if isSecond lead b then cut else invalid 1
      | b :: c :: rest =>
        if !isSecond lead b then invalid 1
        else if !isTail c then invalid 2
        else
          (decodeUtf8 size (position + 3) rest).map
            (charOf ((lead % 16 * 64 + tailBits b) * 64 + tailBits c) :: ·)
    | some _ =>
      match rest with
      | [] => cut
      | [b] => if isSecond lead b then cut else invalid 1
      | [b, c] =>
        if !isSecond lead b then invalid 1 else if !isTail c then invalid 2 else cut
      | b :: c :: d :: rest =>
        if !isSecond lead b then invalid 1
        else if !isTail c then invalid 2
        else if !isTail d then invalid 3
        else
          (decodeUtf8 size (position + 4) rest).map
            (charOf (((lead % 8 * 64 + tailBits b) * 64 + tailBits c) * 64 + tailBits d) :: ·)

/-- Decodes ASCII from a position on. -/
def decodeAscii : (position : Nat) → List UInt8 → Except DecodeFault (List Char)
  | _, [] => .ok []
  | position, a :: rest =>
    if a < 0x80 then (decodeAscii (position + 1) rest).map (charOf a.toNat :: ·)
    else .error (.undecodable "ascii" position (position + 1) "ordinal not in range(128)")

/-- The unit of two bytes in the given order. -/
def unit16 (bigEndian : Bool) (a b : UInt8) : Nat :=
  if bigEndian then a.toNat * 256 + b.toNat else b.toNat * 256 + a.toNat

/-- The unit is the first of a surrogate pair. -/
def isHighSurrogate (n : Nat) : Bool :=
  0xD800 ≤ n && n < 0xDC00

/-- The unit is the second of a surrogate pair. -/
def isLowSurrogate (n : Nat) : Bool :=
  0xDC00 ≤ n && n < 0xE000

/-- Decodes UTF-16 from a position on, where so many bytes end the text. -/
def decodeUtf16 (bigEndian : Bool) (size : Nat) :
    (position : Nat) → List UInt8 → Except DecodeFault (List Char)
  | _, [] => .ok []
  | position, bytes =>
    let codec := if bigEndian then "utf-16-be" else "utf-16-le"
    let refuse (last : Nat) (reason : String) : Except DecodeFault (List Char) :=
      .error (.undecodable codec position last reason)
    match bytes with
    | [] => .ok []
    | [_] => refuse size "truncated data"
    | a :: b :: rest =>
      let high := unit16 bigEndian a b
      if isLowSurrogate high then refuse (position + 2) "illegal encoding"
      else if isHighSurrogate high then
        match rest with
        | [] | [_] => refuse size "unexpected end of data"
        | c :: d :: rest =>
          let low := unit16 bigEndian c d
          if isLowSurrogate low then
            (decodeUtf16 bigEndian size (position + 4) rest).map
              (charOf (0x10000 + (high - 0xD800) * 0x400 + (low - 0xDC00)) :: ·)
          else refuse (position + 2) "illegal UTF-16 surrogate"
      else (decodeUtf16 bigEndian size (position + 2) rest).map (charOf high :: ·)

/-- The mark in front of UTF-8. -/
def utf8MarkBytes : List UInt8 := [0xEF, 0xBB, 0xBF]

/-- The bytes after the mark of UTF-8, if it is there. Of a text that is only the beginning of a
mark nothing is left. -/
def withoutMark (bytes : List UInt8) : List UInt8 :=
  if bytes.length < 3 && bytes.isPrefixOf utf8MarkBytes then []
  else if utf8MarkBytes.isPrefixOf bytes then bytes.drop 3
  else bytes

/-- Decodes bytes. -/
def Encoding.decode (encoding : Encoding) (bytes : List UInt8) :
    Except DecodeFault (List Char) :=
  match encoding with
  | utf8 => decodeUtf8 bytes.length 0 bytes
  | utf8Mark => decodeUtf8 (withoutMark bytes).length 0 (withoutMark bytes)
  | latin1 => .ok (bytes.map fun b => charOf b.toNat)
  | ascii => decodeAscii 0 bytes
  | utf16LittleEndian => decodeUtf16 false bytes.length 0 bytes
  | utf16BigEndian => decodeUtf16 true bytes.length 0 bytes
  | utf16 =>
    match bytes with
    | 0xFF :: 0xFE :: rest => decodeUtf16 false bytes.length 2 rest
    | 0xFE :: 0xFF :: rest => decodeUtf16 true bytes.length 2 rest
    | _ =>
      match decodeUtf16 false bytes.length 0 bytes with
      | .ok [] => .ok []
      | .ok _ => .error .missingMark
      | .error e => .error e

/-- The bytes that the positions of a fault count in. -/
def Encoding.faultBytes (encoding : Encoding) (bytes : List UInt8) : List UInt8 :=
  match encoding with
  | utf8Mark => withoutMark bytes
  | _ => bytes

end AnnotatedSql.Text
