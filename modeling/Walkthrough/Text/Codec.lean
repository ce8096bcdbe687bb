import Walkthrough.Fault.Misuse

/-!
# Texts as bytes

A codec writes a text as bytes. Some codecs write every text, others only the characters up to some
code point. Bytes are shown between quotes, with everything that is not printable by its number.

## Main definitions

* `Text.showBytes` — bytes as a literal
* `Text.Codec`, `Text.codec?` — a codec, and the one that goes by a name
* `Text.encode` — a text as bytes
-/

namespace Walkthrough.Text

/-- One byte between the quotes `q`. -/
def showByte (q : Char) (byte : Nat) : List Char :=
  let c := Char.ofNat byte
  if c = q || c = '\\' then ['\\', c]
  else if c = '\n' then ['\\', 'n']
  else if c = '\r' then ['\\', 'r']
  else if c = '\t' then ['\\', 't']
  else if 0x20 ≤ byte && byte < 0x7F then [c]
  else '\\' :: 'x' :: hex 2 byte

/-- Bytes as a literal. -/
def showBytes (bytes : List Nat) : String :=
  let q := if 0x27 ∈ bytes && 0x22 ∉ bytes then '"' else '\''
  String.ofList ('b' :: q :: (bytes.flatMap (showByte q) ++ [q]))

/-- The codecs. -/
inductive Codec
  | ascii
  | latin
  | utf8 (marked : Bool)
  /-- Two bytes for a code point or for half of one, the low byte first or last. -/
  | utf16 (marked lowFirst : Bool)
  /-- Four bytes for a code point, the low byte first or last. -/
  | utf32 (marked lowFirst : Bool)
deriving DecidableEq, Repr

/-- The names of codecs, in lower case and with underscores. -/
def codecNames : List (Codec × List String) :=
  [(.utf8 false, ["utf_8", "utf8", "u8", "utf", "cp65001"]),
   (.utf8 true, ["utf_8_sig"]),
   (.ascii, ["ascii", "us_ascii", "us", "646", "ansi_x3.4_1968", "ansi_x3_4_1968", "ansi_x3.4_1986",
             "cp367", "csascii", "ibm367", "iso646_us", "iso_646.irv_1991", "iso_ir_6"]),
   (.latin, ["latin_1", "latin1", "latin", "l1", "8859", "cp819", "csisolatin1", "ibm819",
             "iso8859", "iso8859_1", "iso_8859_1", "iso_8859_1_1987", "iso_ir_100"]),
   (.utf16 true true, ["utf_16", "utf16", "u16"]),
   (.utf16 false true, ["utf_16_le", "utf_16le", "unicodelittleunmarked"]),
   (.utf16 false false, ["utf_16_be", "utf_16be", "unicodebigunmarked"]),
   (.utf32 true true, ["utf_32", "utf32", "u32"]),
   (.utf32 false true, ["utf_32_le", "utf_32le"]),
   (.utf32 false false, ["utf_32_be", "utf_32be"])]

/-- The names of codecs that write something else than texts. -/
def otherCodecNames : List String :=
  ["hex", "hex_codec", "base64", "base_64", "base64_codec", "bz2", "bz2_codec", "quopri",
   "quopri_codec", "quoted_printable", "quotedprintable", "rot13", "rot_13", "uu", "uu_codec",
   "zip", "zlib", "zlib_codec"]

/-- The name of a codec in lower case, with an underscore for every run of other characters. -/
def plainCodecName (name : String) : String :=
  let keep (c : Char) := c.isAlphanum || c = '.'
  let step (acc : List Char × Bool) (c : Char) :=
    if keep c then ((if acc.2 && !acc.1.isEmpty then c.toLower :: '_' :: acc.1
      else c.toLower :: acc.1), false)
    else (acc.1, true)
  String.ofList (name.toList.foldl step ([], false)).1.reverse

/-- The codec that goes by a name. -/
def codec? (name : String) : Except Misuse Codec :=
  let plain := plainCodecName name
  match codecNames.find? fun entry => plain ∈ entry.2 with
  | some (codec, _) => .ok codec
  | none => .error (if plain ∈ otherCodecNames then .notTextCodec name else .unknownCodec name)

/-- A character in one to four bytes. -/
def utf8Bytes (c : Char) : List Nat :=
  let n := c.toNat
  if n < 0x80 then [n]
  else if n < 0x800 then [0xC0 + n / 0x40, 0x80 + n % 0x40]
  else if n < 0x10000 then [0xE0 + n / 0x1000, 0x80 + n / 0x40 % 0x40, 0x80 + n % 0x40]
  else [0xF0 + n / 0x40000, 0x80 + n / 0x1000 % 0x40, 0x80 + n / 0x40 % 0x40, 0x80 + n % 0x40]

/-- A number in so many bytes. -/
def wordBytes (lowFirst : Bool) : Nat → Nat → List Nat
  | 0, _ => []
  | width + 1, n =>
    if lowFirst then n % 256 :: wordBytes lowFirst width (n / 256)
    else wordBytes lowFirst width (n / 256) ++ [n % 256]

/-- A character in two or four bytes. -/
def utf16Bytes (lowFirst : Bool) (c : Char) : List Nat :=
  let n := c.toNat
  if n < 0x10000 then wordBytes lowFirst 2 n
  else
    wordBytes lowFirst 2 (0xD800 + (n - 0x10000) / 0x400) ++
      wordBytes lowFirst 2 (0xDC00 + (n - 0x10000) % 0x400)

/-- A text whose characters are below a limit. -/
def limitedBytes (name : String) (limit : Nat) (cs : List Char) : Except Misuse (List Nat) :=
  let front := cs.takeWhile (·.toNat < limit)
  match cs.drop front.length with
  | [] => .ok (cs.map Char.toNat)
  | c :: rest =>
    let run := rest.takeWhile (limit ≤ ·.toNat)
    .error (.notWritable name c front.length (front.length + run.length) limit)

/-- A text as bytes. -/
def encode (codec : Codec) (t : String) : Except Misuse (List Nat) :=
  let cs := t.toList
  match codec with
  | .ascii => limitedBytes "ascii" 0x80 cs
  | .latin => limitedBytes "latin-1" 0x100 cs
  | .utf8 marked => .ok ((if marked then [0xEF, 0xBB, 0xBF] else []) ++ cs.flatMap utf8Bytes)
  | .utf16 marked lowFirst =>
    .ok ((if marked then wordBytes lowFirst 2 0xFEFF else []) ++ cs.flatMap (utf16Bytes lowFirst))
  | .utf32 marked lowFirst =>
    .ok ((if marked then wordBytes lowFirst 4 0xFEFF else []) ++
      cs.flatMap fun c => wordBytes lowFirst 4 c.toNat)

example : showBytes [0x61, 0xE9, 0x27] = "b\"a\\xe9'\"" := by decide +kernel
example : (encode (.utf8 false) "é").toOption = some [0xC3, 0xA9] := by decide +kernel

end Walkthrough.Text
