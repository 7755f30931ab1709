import ParamGate.Text.Charset.Backslash
import ParamGate.Text.Charset.Iso2022
import ParamGate.Text.Charset.NameTable
import ParamGate.Text.Charset.Punycode
import ParamGate.Text.Charset.Utf7
import ParamGate.Text.Trim
import ParamGate.Text.Utf8

/-!
# Character sets by name

`decodeNamed?` reads bytes in the character set of a name. Case does not matter in a name, nor which
signs stand between its letters and digits. Bytes that are not from the set, and bytes in a set that
is not known, are read as Latin-1.
-/

namespace ParamGate.Text.Charset

/-- Characters that names keep. -/
def isNameChar (c : Char) : Bool :=
  ('a' ≤ c && c ≤ 'z') || ('A' ≤ c && c ≤ 'Z') || ('0' ≤ c && c ≤ '9') || c == '.'

/-- The characters of a name, with one underscore for all signs between two of them; `gap` says that
signs came before. -/
def normalChars (started gap : Bool) : List Char → List Char
  | [] => []
  | c :: cs =>
      if isNameChar c then
        if gap && started then '_' :: c.toLower :: normalChars true false cs
        else c.toLower :: normalChars true false cs
      else normalChars started true cs

/-- A name in the form in which names are looked up. -/
def normalName (name : String) : String := String.ofList (normalChars false false name.toList)

/-- The set that has another name. -/
def otherName? (name : String) : Option String :=
  (otherNames.find? fun e => e.2.contains name).map Prod.fst

/-- The name of the set that a name in normal form denotes. -/
def knownName (name : String) : String :=
  let plain := String.ofList (name.toList.map fun c => if c = '.' then '_' else c)
  ((otherName? name) <|> (otherName? plain)).getD name

/-- Codes without surrogates. -/
def wellFormed (codes : Option (List Nat)) : Option (List Nat) :=
  codes.bind fun ns => if ns.any isSurrogate then none else some ns

/-- Codes of bytes in a one-byte set; `seen` is in reverse order. -/
def ByteTable.decode? (t : ByteTable) (seen : List Nat) : List Nat → Option (List Nat)
  | [] => some seen.reverse
  | b :: rest =>
      match t.code? b with
      | some n => t.decode? (n :: seen) rest
      | none => none

/-- Codes of bytes in UTF-16, after a mark of their order if there is one. -/
def utf16? : List UInt8 → Option (List Nat)
  | 0xFF :: 0xFE :: rest => decode16? false rest
  | 0xFE :: 0xFF :: rest => decode16? true rest
  | bs => decode16? false bs

/-- Codes of bytes in UTF-32, after a mark of their order if there is one. -/
def utf32? : List UInt8 → Option (List Nat)
  | 0xFF :: 0xFE :: 0x00 :: 0x00 :: rest => decode32? false rest
  | 0x00 :: 0x00 :: 0xFE :: 0xFF :: rest => decode32? true rest
  | bs => decode32? false bs

/-- Codes of bytes in UTF-8, after its mark if there is one. -/
def markedUtf8? : List UInt8 → Option (List Nat)
  | 0xEF :: 0xBB :: 0xBF :: rest => decodeCodes? false rest
  | bs => decodeCodes? false bs

/-- What bytes are in a set, if it is known. -/
def decodeKnown? (name : String) (bs : List UInt8) : Option Decoded :=
  let bytes := bs.map UInt8.toNat
  let result (codes : Option (List Nat)) : Option Decoded :=
    some ((codes.map .codes).getD .unreadable)
  match name with
  | "utf_8" => result (decodeCodes? false bs)
  | "utf_8_sig" => result (markedUtf8? bs)
  | "utf_16" => result (wellFormed (utf16? bs))
  | "utf_16_le" => result (wellFormed (decode16? false bs))
  | "utf_16_be" => result (wellFormed (decode16? true bs))
  | "utf_32" => result (wellFormed (utf32? bs))
  | "utf_32_le" => result (wellFormed (decode32? false bs))
  | "utf_32_be" => result (wellFormed (decode32? true bs))
  | "utf_7" => result (utf7? bytes)
  | "ascii" => result (if bytes.all fun b => decide (b < 128) then some bytes else none)
  | "latin_1" => result (some bytes)
  | "charmap" => result (some bytes)
  | "unicode_escape" => result (readAll escapedStep bytes)
  | "raw_unicode_escape" => result (readAll rawEscapedStep bytes)
  | "shift_jis" => result (readAll shiftJisStep bytes)
  | "cp932" => result (readAll windowsJapaneseStep bytes)
  | "euc_jp" => result (readAll eucJpStep bytes)
  | "shift_jisx0213" => result (readAll (shiftJis0213Step .of2000) bytes)
  | "shift_jis_2004" => result (readAll (shiftJis0213Step .of2004) bytes)
  | "euc_jisx0213" => result (readAll (eucJis0213Step .of2000) bytes)
  | "euc_jis_2004" => result (readAll (eucJis0213Step .of2004) bytes)
  | "euc_kr" => result (readAll eucKrStep bytes)
  | "cp949" => result (readAll windowsKoreanStep bytes)
  | "johab" => result (readAll johabStep bytes)
  | "gb2312" => result (readAll gb2312Step bytes)
  | "gbk" => result (readAll gbkStep bytes)
  | "gb18030" => result (readAll gb18030Step bytes)
  | "hz" => result (readSteps hzStep false 0 [] bytes)
  | "big5" => result (readAll (big5Step [big5]) bytes)
  | "cp950" => result (readAll (big5Step big5WindowsPlanes) bytes)
  | "big5hkscs" => result (readAll big5HkscsStep bytes)
  | "iso2022_jp" => result (readSteps (escapingStep iso2022Jp) .start 0 [] bytes)
  | "iso2022_jp_1" => result (readSteps (escapingStep iso2022Jp1) .start 0 [] bytes)
  | "iso2022_jp_2" => result (readSteps (escapingStep iso2022Jp2) .start 0 [] bytes)
  | "iso2022_jp_3" => result (readSteps (escapingStep iso2022Jp3) .start 0 [] bytes)
  | "iso2022_jp_2004" => result (readSteps (escapingStep iso2022Jp2004) .start 0 [] bytes)
  | "iso2022_jp_ext" => result (readSteps (escapingStep iso2022JpExt) .start 0 [] bytes)
  | "iso2022_kr" => result (readSteps (escapingStep iso2022Kr) .start 0 [] bytes)
  | "punycode" => some (punycode bytes)
  | "idna" => some (hostLabels (splitOn 46 bytes))
  | "undefined" => some .refused
  | _ => (byteTables.lookup name).bind fun t => result (t.decode? [] bytes)

/-- Codes of bytes in the set of a name, unless the set refuses to be read. A name may not hold the
character of code zero, and no bytes are no codes in any set. -/
def decodeNamed? (name : String) (bs : List UInt8) : Option (List Nat) :=
  if name.toList.any fun c => c.toNat == 0 then none
  else if bs.isEmpty then some []
  else
    match decodeKnown? (knownName (normalName name)) bs with
    | some (.codes ns) => some ns
    | some .refused => none
    | some .unreadable => some (bs.map UInt8.toNat)
    | none => some (bs.map UInt8.toNat)

end ParamGate.Text.Charset
