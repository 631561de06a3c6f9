/-!
# UTF-8

Writing characters as bytes, and reading bytes that need not be well formed. The reader never fails:
each longest run of bytes that begins a character and does not complete it, and each byte that
begins none, is read as one replacement character. It takes one byte at a time, so how the bytes are
cut into chunks cannot matter.
-/

namespace Lodging.Text.Utf8

/-- What stands for bytes that make no character. -/
def replacement : Char := '\uFFFD'

def encode (s : List Char) : List UInt8 := s.flatMap String.utf8EncodeChar

/-- Between two characters, or inside one: how many bytes are missing, the bounds of the next one,
and the bits read so far. -/
inductive Reader where
  | between
  | inside (missing low high bits : Nat)
  deriving DecidableEq, Repr

/-- The effect of a byte between two characters. The bounds on the second byte exclude long forms,
surrogates and everything above the last character. -/
def Reader.first (b : Nat) : List Char × Reader :=
  if b < 0x80 then ([Char.ofNat b], .between)
  else if b < 0xC2 then ([replacement], .between)
  else if b < 0xE0 then ([], .inside 1 0x80 0xBF (b - 0xC0))
  else if b = 0xE0 then ([], .inside 2 0xA0 0xBF 0)
  else if b = 0xED then ([], .inside 2 0x80 0x9F 0xD)
  else if b < 0xF0 then ([], .inside 2 0x80 0xBF (b - 0xE0))
  else if b = 0xF0 then ([], .inside 3 0x90 0xBF 0)
  else if b < 0xF4 then ([], .inside 3 0x80 0xBF (b - 0xF0))
  else if b = 0xF4 then ([], .inside 3 0x80 0x8F 4)
  else ([replacement], .between)

/-- The characters a byte completes, and where the reader is after it. -/
def Reader.next (r : Reader) (b : Nat) : List Char × Reader :=
  match r with
  | .between => Reader.first b
  | .inside missing low high bits =>
    if low ≤ b ∧ b ≤ high then
      let bits := bits * 64 + (b - 0x80)
      if missing ≤ 1 then ([Char.ofNat bits], .between)
      else ([], .inside (missing - 1) 0x80 0xBF bits)
    else
      let (out, r) := Reader.first b
      (replacement :: out, r)

/-- What the end of the bytes leaves: a character that was begun is replaced. -/
def Reader.close : Reader → List Char
  | .between => []
  | .inside .. => [replacement]

/-- Reads on from `r`. -/
def decodeFrom (r : Reader) : List UInt8 → List Char
  | [] => r.close
  | b :: rest => let (out, r) := r.next b.toNat; out ++ decodeFrom r rest

def decode (bytes : List UInt8) : List Char := decodeFrom .between bytes

/-- ASCII characters are read as they are, whatever follows. -/
theorem decodeFrom_ascii_append {bytes : List UInt8} (h : ∀ b ∈ bytes, b.toNat < 0x80)
    (rest : List UInt8) : decodeFrom .between (bytes ++ rest) =
      bytes.map (fun b => Char.ofNat b.toNat) ++ decodeFrom .between rest := by
  induction bytes with
  | nil => rfl
  | cons b bytes ih =>
    obtain ⟨hb, htail⟩ := List.forall_mem_cons.mp h
    simp [decodeFrom, Reader.next, Reader.first, hb, ih htail]

end Lodging.Text.Utf8
