/-! UTF-8.  A reading takes bytes one by one and gives a character for each whole sequence, and
nothing in its place for each longest piece that could have started one.  `decode?` accepts well
formed byte strings alone; `decodeLossy` puts U+FFFD for what is malformed. -/

namespace OAuthEndpoint.Text.Utf8

/-- A sequence that has begun: the bits of its character so far, how many bytes are missing, and the
range of the next one. -/
structure Pending where
  bits : Nat
  missing : Nat
  low : UInt8
  high : UInt8
deriving DecidableEq, Repr

/-- What a byte above 0x7F begins.  The narrowed ranges shut out overlong forms, surrogates and
numbers above U+10FFFF. -/
def Pending.ofLead? (b : UInt8) : Option Pending :=
  if b < 0xC2 then none
  else if b < 0xE0 then some ⟨b.toNat - 0xC0, 1, 0x80, 0xBF⟩
  else if b = 0xE0 then some ⟨0, 2, 0xA0, 0xBF⟩
  else if b = 0xED then some ⟨0xD, 2, 0x80, 0x9F⟩
  else if b < 0xF0 then some ⟨b.toNat - 0xE0, 2, 0x80, 0xBF⟩
  else if b = 0xF0 then some ⟨0, 3, 0x90, 0xBF⟩
  else if b < 0xF4 then some ⟨b.toNat - 0xF0, 3, 0x80, 0xBF⟩
  else if b = 0xF4 then some ⟨4, 3, 0x80, 0x8F⟩
  else none

/-- Where a reading stands: what it read, in reverse, with `none` for malformed pieces, and the
sequence that has begun. -/
structure Reading where
  read : List (Option Char)
  pending : Option Pending
deriving DecidableEq, Repr

namespace Reading

def empty : Reading := ⟨[], none⟩

/-- A byte where no sequence has begun. -/
def start (read : List (Option Char)) (b : UInt8) : Reading :=
  if b < 0x80 then ⟨some (Char.ofNat b.toNat) :: read, none⟩
  else match Pending.ofLead? b with
    | none => ⟨none :: read, none⟩
    | some pending => ⟨read, some pending⟩

/-- A byte out of range ends the sequence and is then read as if none had begun. -/
def step (reading : Reading) (b : UInt8) : Reading :=
  match reading.pending with
  | none => start reading.read b
  | some pending =>
    if pending.low ≤ b ∧ b ≤ pending.high then
      let bits := pending.bits * 64 + (b.toNat - 0x80)
      if pending.missing = 1 then ⟨some (Char.ofNat bits) :: reading.read, none⟩
      else ⟨reading.read, some ⟨bits, pending.missing - 1, 0x80, 0xBF⟩⟩
    else start (none :: reading.read) b

/-- All that was read; a sequence that is not finished is malformed. -/
def finish (reading : Reading) : List (Option Char) :=
  match reading.pending with
  | none => reading.read.reverse
  | some _ => (none :: reading.read).reverse

end Reading

/-- The characters of a byte string, and `none` for each malformed piece. -/
def pieces (bytes : List UInt8) : List (Option Char) := (bytes.foldl Reading.step .empty).finish

/-- The characters of a well formed byte string. -/
def decode? (bytes : List UInt8) : Option (List Char) := (pieces bytes).mapM id

/-- The characters of any byte string. -/
def decodeLossy (bytes : List UInt8) : List Char :=
  (pieces bytes).map fun piece => piece.getD '\uFFFD'

def encode (text : List Char) : List UInt8 := text.flatMap String.utf8EncodeChar

end OAuthEndpoint.Text.Utf8
