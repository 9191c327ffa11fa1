/-!
# Encoded text

Text as bytes. Reading is strict: the first byte that does not fit is reported, with the bytes before it
that begin the same character. Writing and reading UTF-8 are inverse on text.
-/
namespace Stencil.Text

abbrev Bytes := List UInt8

inductive Encoding where
  | utf8
  | latin1
  | ascii
  deriving DecidableEq, Repr

def Encoding.name : Encoding → String
  | utf8 => "utf-8"
  | latin1 => "latin-1"
  | ascii => "ascii"

inductive DecodeFlaw where
  | badStart
  | badContinuation
  | unexpectedEnd
  | outsideAscii
  deriving DecidableEq, Repr

def DecodeFlaw.detail : DecodeFlaw → String
  | badStart => "invalid start byte"
  | badContinuation => "invalid continuation byte"
  | unexpectedEnd => "unexpected end of data"
  | outsideAscii => "ordinal not in range(128)"

/-- The first bytes that stand for no character: where they are, how many, and which comes first. -/
structure Undecodable where
  encoding : Encoding
  flaw : DecodeFlaw
  offset : Nat
  count : Nat
  first : UInt8
  deriving DecidableEq, Repr

def byteText (b : UInt8) : String :=
  String.ofList ['0', 'x', Nat.digitChar (b.toNat / 16), Nat.digitChar (b.toNat % 16)]

def Undecodable.message (u : Undecodable) : String :=
  let start := s!"'{u.encoding.name}' codec can't decode "
  let last := u.offset + u.count - 1
  let place :=
    if u.count ≤ 1 then s!"byte {byteText u.first} in position {u.offset}: "
    else s!"bytes in position {u.offset}-{last}: "
  start ++ place ++ u.flaw.detail

/-! ### UTF-8 -/

/-- What a first byte says: its share of the code point, how many bytes follow, and the range of the
first of them. Sequences that a shorter one could replace and surrogates are out of range. -/
structure Lead where
  share : Nat
  tails : Nat
  low : UInt8
  high : UInt8

def lead? (b : UInt8) : Option Lead :=
  if b < 0x80 then some ⟨b.toNat, 0, 0x80, 0xBF⟩
  else if b < 0xC2 then none
  else if b < 0xE0 then some ⟨b.toNat - 0xC0, 1, 0x80, 0xBF⟩
  else if b = 0xE0 then some ⟨0, 2, 0xA0, 0xBF⟩
  else if b = 0xED then some ⟨0xD, 2, 0x80, 0x9F⟩
  else if b < 0xF0 then some ⟨b.toNat - 0xE0, 2, 0x80, 0xBF⟩
  else if b = 0xF0 then some ⟨0, 3, 0x90, 0xBF⟩
  else if b < 0xF4 then some ⟨b.toNat - 0xF0, 3, 0x80, 0xBF⟩
  else if b = 0xF4 then some ⟨4, 3, 0x80, 0x8F⟩
  else none

/-- The code point that the bytes to come complete. A failure tells how many bytes were good. -/
def readTails (share low high : Nat) (good : Nat) : Nat → Bytes → Except (DecodeFlaw × Nat) Nat
  | 0, _ => .ok share
  | _ + 1, [] => .error (.unexpectedEnd, good)
  | n + 1, b :: rest =>
    if low ≤ b.toNat && b.toNat ≤ high then
      readTails (share * 64 + b.toNat % 64) 0x80 0xBF (good + 1) n rest
    else .error (.badContinuation, good)

/-- Reads on from `offset`; `done` holds the characters before it, the last one first. -/
def decodeUtf8 (offset : Nat) (done : List Char) (bytes : Bytes) : Except Undecodable String :=
  match bytes with
  | [] => .ok (String.ofList done.reverse)
  | b :: rest =>
    match lead? b with
    | none => .error ⟨.utf8, .badStart, offset, 1, b⟩
    | some lead =>
      match readTails lead.share lead.low.toNat lead.high.toNat 1 lead.tails rest with
      | .error (flaw, good) => .error ⟨.utf8, flaw, offset, good, b⟩
      | .ok code =>
        decodeUtf8 (offset + 1 + lead.tails) (Char.ofNat code :: done) (rest.drop lead.tails)
  termination_by bytes.length
  decreasing_by
    simp only [List.length_drop, List.length_cons]
    omega

def encodeUtf8 (s : String) : Bytes := s.toUTF8.toList

/-! ### Encodings with one byte a character -/

def decodeAscii (offset : Nat) (done : List Char) : Bytes → Except Undecodable String
  | [] => .ok (String.ofList done.reverse)
  | b :: rest =>
    if b < 0x80 then decodeAscii (offset + 1) (Char.ofNat b.toNat :: done) rest
    else .error ⟨.ascii, .outsideAscii, offset, 1, b⟩

def decode : Encoding → Bytes → Except Undecodable String
  | .utf8, bytes => decodeUtf8 0 [] bytes
  | .latin1, bytes => .ok (String.ofList (bytes.map fun b => Char.ofNat b.toNat))
  | .ascii, bytes => decodeAscii 0 [] bytes

/-! ### Line ends -/

/-- Every line ends with a line feed: a carriage return, alone or before a line feed, becomes one. -/
def normalizeLines : List Char → List Char
  | '\r' :: '\n' :: rest => '\n' :: normalizeLines rest
  | '\r' :: rest => '\n' :: normalizeLines rest
  | c :: rest => c :: normalizeLines rest
  | [] => []

/-- The text of a file. -/
def read (encoding : Encoding) (bytes : Bytes) : Except Undecodable String :=
  (decode encoding bytes).map fun s => String.ofList (normalizeLines s.toList)

end Stencil.Text
