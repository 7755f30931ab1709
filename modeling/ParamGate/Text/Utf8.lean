import ParamGate.Text.Surrogate

/-!
# Decoding bytes

UTF-8 is read by a machine that takes one byte per step and knows how many bytes the code at hand
still needs and in which range the next one must be. A maximal part that starts no code is one
error. `decode?` refuses errors and `decodeLossy` replaces them. The wide encodings of 16 and 32
bits and the one-byte encoding Latin-1 are read here too.
-/

namespace ParamGate.Text

/-- A code of which `missing` more bytes are to come, the next one from `low` to `high`. -/
structure OpenChar where
  bits : Nat
  missing : Nat
  low : Nat
  high : Nat

/-- What one byte does. -/
inductive ByteStep where
  /-- It completes a code. -/
  | code (n : Nat)
  /-- It starts or continues a code. -/
  | need (o : OpenChar)
  | wrong

/-- A byte that starts a code. Surrogates are admitted or not. -/
def leadByte (surrogates : Bool) (b : Nat) : ByteStep :=
  if b < 0x80 then .code b
  else if b < 0xC2 then .wrong
  else if b < 0xE0 then .need ⟨b - 0xC0, 1, 0x80, 0xBF⟩
  else if b = 0xE0 then .need ⟨0, 2, 0xA0, 0xBF⟩
  else if b = 0xED then .need ⟨0xD, 2, 0x80, if surrogates then 0xBF else 0x9F⟩
  else if b < 0xF0 then .need ⟨b - 0xE0, 2, 0x80, 0xBF⟩
  else if b = 0xF0 then .need ⟨0, 3, 0x90, 0xBF⟩
  else if b < 0xF4 then .need ⟨b - 0xF0, 3, 0x80, 0xBF⟩
  else if b = 0xF4 then .need ⟨4, 3, 0x80, 0x8F⟩
  else .wrong

/-- A byte inside a code. -/
def tailByte (o : OpenChar) (b : Nat) : ByteStep :=
  if o.low ≤ b ∧ b ≤ o.high then
    let bits := o.bits * 64 + (b - 0x80)
    if o.missing ≤ 1 then .code bits else .need ⟨bits, o.missing - 1, 0x80, 0xBF⟩
  else .wrong

/-- Codes and errors after a byte that stands between codes, and the open code. -/
def between (surrogates : Bool) (b : Nat) : List (Option Nat) × Option OpenChar :=
  match leadByte surrogates b with
  | .code n => ([some n], none)
  | .need o => ([], some o)
  | .wrong => ([none], none)

/-- Codes and errors of bytes, after the given open code. An error is `none`. -/
def decodeFrom (surrogates : Bool) : Option OpenChar → List UInt8 → List (Option Nat)
  | none, [] => []
  | some _, [] => [none]
  | none, b :: bs =>
      let (out, next) := between surrogates b.toNat
      out ++ decodeFrom surrogates next bs
  | some o, b :: bs =>
      match tailByte o b.toNat with
      | .code n => some n :: decodeFrom surrogates none bs
      | .need next => decodeFrom surrogates (some next) bs
      | .wrong =>
          let (out, next) := between surrogates b.toNat
          none :: out ++ decodeFrom surrogates next bs

/-- Characters of UTF-8 bytes, with the replacement character for every error. -/
def decodeLossy (bs : List UInt8) : List Char :=
  (decodeFrom false none bs).map fun n => (n.map charOf).getD replacement

/-- All items, if none is missing. -/
def complete? {α : Type} (items : List (Option α)) : Option (List α) :=
  items.foldr (fun x rest => x.bind fun x => rest.map (x :: ·)) (some [])

/-- Codes of UTF-8 bytes without errors. Surrogates are admitted or not. -/
def decodeCodes? (surrogates : Bool) (bs : List UInt8) : Option (List Nat) :=
  complete? (decodeFrom surrogates none bs)

/-- Number of bytes of a code in UTF-8. -/
def codeSize (n : Nat) : Nat :=
  if n < 0x80 then 1 else if n < 0x800 then 2 else if n < 0x10000 then 3 else 4

/-- Number of bytes before the first error in UTF-8. -/
def validLength (bs : List UInt8) : Nat :=
  ((decodeFrom false none bs).takeWhile Option.isSome).foldl
    (fun size n => size + codeSize (n.getD 0)) 0

/-- Characters of UTF-8 bytes without errors. -/
def decode? (bs : List UInt8) : Option (List Char) := (decodeCodes? false bs).bind ofCodes?

/-- Characters of Latin-1 bytes. -/
def decodeLatin1 (bs : List UInt8) : List Char := bs.map fun b => Char.ofNat b.toNat

/-- Bytes of a text in UTF-8. -/
def encode (s : String) : List UInt8 := s.toUTF8.toList

/-- Units of two bytes; the order says which byte comes first. -/
def units16 (bigEndian : Bool) : List UInt8 → Option (List Nat)
  | [] => some []
  | a :: b :: rest =>
      let unit := if bigEndian then a.toNat * 256 + b.toNat else b.toNat * 256 + a.toNat
      (units16 bigEndian rest).map (unit :: ·)
  | _ => none

/-- Codes of units of two bytes. -/
def decode16? (bigEndian : Bool) (bs : List UInt8) : Option (List Nat) :=
  (units16 bigEndian bs).map joinPairs

/-- Codes of units of four bytes. -/
def decode32? (bigEndian : Bool) : List UInt8 → Option (List Nat)
  | [] => some []
  | a :: b :: c :: d :: rest =>
      let number (w x y z : UInt8) : Nat :=
        ((w.toNat * 256 + x.toNat) * 256 + y.toNat) * 256 + z.toNat
      let code := if bigEndian then number a b c d else number d c b a
      if code < 0x110000 then (decode32? bigEndian rest).map (code :: ·) else none
  | _ => none

/-- Codes of bytes in the encoding that their first bytes show: by a byte order mark, which is
dropped, or by the places of zero bytes; otherwise UTF-8. Surrogates are admitted. -/
def decodeDetected? : List UInt8 → Option (List Nat)
  | 0x00 :: 0x00 :: 0xFE :: 0xFF :: rest => decode32? true rest
  | 0xFF :: 0xFE :: 0x00 :: 0x00 :: rest => decode32? false rest
  | 0xFE :: 0xFF :: rest => decode16? true rest
  | 0xFF :: 0xFE :: rest => decode16? false rest
  | 0xEF :: 0xBB :: 0xBF :: rest => decodeCodes? true rest
  | bs =>
      match bs with
      | [a, b] => if a = 0 then decode16? true bs else if b = 0 then decode16? false bs
          else decodeCodes? true bs
      | a :: b :: c :: d :: _ =>
          if a = 0 then (if b = 0 then decode32? true bs else decode16? true bs)
          else if b = 0 then
            (if c = 0 ∧ d = 0 then decode32? false bs else decode16? false bs)
          else decodeCodes? true bs
      | _ => decodeCodes? true bs

end ParamGate.Text
