/-
  Encodings by their names.

  A decoder puts U+FFFD for what is ill-formed, but not every encoding has a
  decoder that does so: UTF-16 and UTF-32 without a byte order want a mark at
  the start, and some names stand for transformations of bytes or of text.

  * `Charset.ofName?` is the encoding of a name;
  * `Charset.decode` is the text of bytes, or why there is none: a
    `DecodeFault`.
-/
import RateIsolation.Text.CodePage
import RateIsolation.Text.Decoder

namespace RateIsolation

/-- Why bytes were not decoded: the kind of the failure and its words. -/
structure DecodeFault where
  kind : String
  message : String
deriving DecidableEq, Repr

namespace DecodeFault

/-- No byte order mark where one is needed, in the encoding of that name. -/
def unmarked (name : String) : DecodeFault :=
  ⟨"UnicodeError", name ++ " stream does not start with BOM"⟩

/-- A transformation of bytes, which replaces nothing. -/
def notText : DecodeFault := ⟨"AssertionError", ""⟩

/-- A transformation of text, which takes no bytes. -/
def notBytes : DecodeFault :=
  ⟨"TypeError", "descriptor 'translate' for 'str' objects doesn't apply to a 'bytes' object"⟩

/-- An encoding of host names, which replaces nothing. -/
def hostNames : DecodeFault := ⟨"UnicodeError", "Unsupported error handling replace"⟩

/-- The encoding that decodes nothing. -/
def undefined : DecodeFault := ⟨"UnicodeError", "undefined encoding"⟩

/-- A name with a zero character. -/
def zeroInName : DecodeFault := ⟨"ValueError", "embedded null character"⟩

end DecodeFault

/-- An encoding of text. -/
inductive Charset where
  | utf8
  /-- UTF-8 with a mark at the start that is no text. -/
  | markedUtf8
  /-- UTF-16, its byte order told by a mark unless it is given. -/
  | utf16 (order : Option ByteOrder)
  /-- UTF-32, its byte order told by a mark unless it is given. -/
  | utf32 (order : Option ByteOrder)
  /-- One character for each byte. -/
  | page (p : CodePage)
  /-- A name under which nothing is decoded. -/
  | refusing (f : DecodeFault)
deriving DecidableEq, Repr

namespace Charset

/-! ## Names -/

/-- An encoding under its usual name, with the others that it has. -/
structure Entry where
  name : String
  aliases : List String := []
  charset : Charset

/-- The encodings of more than one byte per character, and what decodes nothing. -/
def entries : List Entry := [
  ⟨"utf_8", ["utf8", "u8", "utf", "utf8_ucs2", "utf8_ucs4", "cp65001"], .utf8⟩,
  ⟨"utf_8_sig", [], .markedUtf8⟩,
  ⟨"utf_16", ["u16", "utf16"], .utf16 none⟩,
  ⟨"utf_16_be", ["unicodebigunmarked", "utf_16be"], .utf16 (some .big)⟩,
  ⟨"utf_16_le", ["unicodelittleunmarked", "utf_16le"], .utf16 (some .little)⟩,
  ⟨"utf_32", ["u32", "utf32"], .utf32 none⟩,
  ⟨"utf_32_be", ["utf_32be"], .utf32 (some .big)⟩,
  ⟨"utf_32_le", ["utf_32le"], .utf32 (some .little)⟩,
  ⟨"hex_codec", ["hex"], .refusing .notText⟩,
  ⟨"base64_codec", ["base64", "base_64"], .refusing .notText⟩,
  ⟨"bz2_codec", ["bz2"], .refusing .notText⟩,
  ⟨"quopri_codec", ["quopri", "quoted_printable", "quotedprintable"], .refusing .notText⟩,
  ⟨"uu_codec", ["uu"], .refusing .notText⟩,
  ⟨"zlib_codec", ["zip", "zlib"], .refusing .notText⟩,
  ⟨"rot_13", ["rot13"], .refusing .notBytes⟩,
  ⟨"idna", [], .refusing .hostNames⟩,
  ⟨"undefined", [], .refusing .undefined⟩]

/-- All encodings with their names. -/
def all : List Entry := entries ++ CodePage.all.map fun p => ⟨p.name, p.aliases, .page p⟩

/-- A name in lower case with one underscore for each run of other characters. -/
def normalName (cs : List Char) : List Char :=
  match cs with
  | [] => []
  | c :: rest =>
    if c.isAlphanum || c == '.' then c.toLower :: normalName rest
    else
      match normalName rest with
      | [] => []
      | d :: rest' => if d = '_' then d :: rest' else '_' :: d :: rest'

/-- The encoding that has a name besides its usual one. -/
def ofAlias? (name : List Char) : Option Charset :=
  (all.find? fun e => e.aliases.contains (String.ofList name)).map (·.charset)

/-- The encoding of a name. -/
def ofName? (name : String) : Option Charset :=
  if name.toList.contains '\x00' then some (.refusing .zeroInName)
  else
    let normal := (normalName name.toList).dropWhile (· == '_')
    let undotted := normal.map fun c => if c = '.' then '_' else c
    let usual := all.find? fun e => e.name == String.ofList normal
    (ofAlias? normal).or ((ofAlias? undotted).or (usual.map (·.charset)))

/-! ## Decoding -/

/-- The byte order that a mark at the start of UTF-16 tells, and the bytes after it. -/
def mark16? : List UInt8 → Option (ByteOrder × List UInt8)
  | 0xfe :: 0xff :: rest => some (.big, rest)
  | 0xff :: 0xfe :: rest => some (.little, rest)
  | _ => none

/-- The byte order that a mark at the start of UTF-32 tells, and the bytes after it. -/
def mark32? : List UInt8 → Option (ByteOrder × List UInt8)
  | 0 :: 0 :: 0xfe :: 0xff :: rest => some (.big, rest)
  | 0xff :: 0xfe :: 0 :: 0 :: rest => some (.little, rest)
  | _ => none

/-- The bytes after a mark at the start of UTF-8; a part of the mark alone is none. -/
def afterMark8 (bytes : List UInt8) : List UInt8 :=
  let mark : List UInt8 := [0xef, 0xbb, 0xbf]
  if bytes.isPrefixOf mark then [] else if mark.isPrefixOf bytes then bytes.drop 3 else bytes

/-- The text of bytes, with U+FFFD for what is ill-formed. -/
def decode (charset : Charset) (bytes : List UInt8) : Except DecodeFault String :=
  match charset with
  | .utf8 => .ok (Decoder.utf8Text bytes)
  | .markedUtf8 => .ok (Decoder.utf8Text (afterMark8 bytes))
  | .utf16 (some order) => .ok (Decoder.replacing (Decoder.utf16 order bytes))
  | .utf16 none =>
    match mark16? bytes with
    | some (order, rest) => .ok (Decoder.replacing (Decoder.utf16 order rest))
    | none =>
      -- too few bytes for a mark are ill-formed, as they are in any order
      if bytes.length < 2 then .ok (Decoder.replacing (Decoder.utf16 .little bytes))
      else .error (.unmarked "UTF-16")
  | .utf32 (some order) => .ok (Decoder.replacing (Decoder.utf32 order bytes))
  | .utf32 none =>
    match mark32? bytes with
    | some (order, rest) => .ok (Decoder.replacing (Decoder.utf32 order rest))
    | none =>
      if bytes.length < 4 then .ok (Decoder.replacing (Decoder.utf32 .little bytes))
      else .error (.unmarked "UTF-32")
  | .page p => .ok (p.decode bytes)
  | .refusing f => .error f

end Charset

end RateIsolation
