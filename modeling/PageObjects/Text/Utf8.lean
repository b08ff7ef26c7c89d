/-
  PageObjects.Text.Utf8

  Text as bytes. Bytes are numbers below 256.

    * `encodeChar` and `encode` give the one to four bytes of each character.
    * `next` reads one character, or the longest run of bytes that begins a
      character but does not end it, or a single byte that begins none.
    * `decode?` reads text without such runs; `decodeLossy` puts the replacement
      character in their place.
-/

namespace PageObjects
namespace Utf8

/-- The bytes of a character. -/
def encodeChar (c : Char) : List Nat :=
  let n := c.toNat
  if n < 0x80 then [n]
  else if n < 0x800 then [0xc0 + n / 0x40, 0x80 + n % 0x40]
  else if n < 0x10000 then [0xe0 + n / 0x1000, 0x80 + n / 0x40 % 0x40, 0x80 + n % 0x40]
  else [0xf0 + n / 0x40000, 0x80 + n / 0x1000 % 0x40, 0x80 + n / 0x40 % 0x40, 0x80 + n % 0x40]

/-- The bytes of a text. -/
def encode (s : List Char) : List Nat :=
  s.flatMap encodeChar

/-- Whether `b` continues a character. -/
def isContinuation (b : Nat) : Bool :=
  0x80 ≤ b && b < 0xc0

/-- The range of the second byte behind a first byte of a character of two to four bytes. -/
def secondRange (first : Nat) : Nat × Nat :=
  if first = 0xe0 then (0xa0, 0xbf)
  else if first = 0xed then (0x80, 0x9f)
  else if first = 0xf0 then (0x90, 0xbf)
  else if first = 0xf4 then (0x80, 0x8f)
  else (0x80, 0xbf)

/-- The number of bytes of the characters that begin with this byte; zero if there are none. -/
def width (first : Nat) : Nat :=
  if first < 0x80 then 1
  else if 0xc2 ≤ first ∧ first < 0xe0 then 2
  else if 0xe0 ≤ first ∧ first < 0xf0 then 3
  else if 0xf0 ≤ first ∧ first < 0xf5 then 4
  else 0

/-- Reads the continuation bytes of a character, `missing` of them, on top of the bits in `acc`. -/
def continued (acc : Nat) : (missing : Nat) → List Nat → Option Char × List Nat
  | 0, bytes => (some (Char.ofNat acc), bytes)
  | missing + 1, b :: bytes =>
    if isContinuation b then continued (acc * 0x40 + (b - 0x80)) missing bytes else (none, b :: bytes)
  | _ + 1, [] => (none, [])

/-- Reads the bytes behind the first byte of a character. -/
def behindFirst (first : Nat) (bytes : List Nat) : Option Char × List Nat :=
  match width first, bytes with
  | 0, _ => (none, bytes)
  | 1, _ => (some (Char.ofNat first), bytes)
  | _, [] => (none, [])
  | n + 2, b :: rest =>
    let (lo, hi) := secondRange first
    let lead := if n = 0 then first - 0xc0 else if n = 1 then first - 0xe0 else first - 0xf0
    if lo ≤ b && b ≤ hi then continued (lead * 0x40 + (b - 0x80)) n rest else (none, bytes)

theorem length_le_continued (acc missing : Nat) (bytes : List Nat) :
    (continued acc missing bytes).2.length ≤ bytes.length := by
  induction missing generalizing acc bytes with
  | zero => simp [continued]
  | succ n ih =>
    cases bytes with
    | nil => simp [continued]
    | cons b bytes =>
      simp only [continued]
      split
      · have := ih (acc * 0x40 + (b - 0x80)) bytes
        simp only [List.length_cons]
        omega
      · exact Nat.le_refl _

theorem length_le_behindFirst (first : Nat) (bytes : List Nat) :
    (behindFirst first bytes).2.length ≤ bytes.length := by
  unfold behindFirst
  split
  · exact Nat.le_refl _
  · exact Nat.le_refl _
  · exact Nat.le_refl _
  · rename_i n b rest h_width
    simp only
    split
    · have := length_le_continued
        ((if n = 0 then first - 0xc0 else if n = 1 then first - 0xe0 else first - 0xf0) * 0x40
          + (b - 0x80)) n rest
      simp only [List.length_cons]
      omega
    · exact Nat.le_refl _

/-- The characters of a text given by bytes, `none` for bytes that are no character. -/
def units : List Nat → List (Option Char)
  | [] => []
  | first :: bytes => (behindFirst first bytes).1 :: units (behindFirst first bytes).2
termination_by bytes => bytes.length
decreasing_by
  have := length_le_behindFirst first bytes
  simp only [List.length_cons]
  omega

/-- The text given by bytes, if they are all part of characters. -/
def decode? (bytes : List Nat) : Option (List Char) :=
  (units bytes).mapM id

/-- The text given by bytes, with the replacement character for bytes that are no character. -/
def decodeLossy (bytes : List Nat) : List Char :=
  (units bytes).map fun c => c.getD '\ufffd'

end Utf8
end PageObjects
