-- Bytes and characters. A text is written as bytes in UTF-8. Reading
-- bytes either refuses what is not UTF-8, or puts a replacement character
-- for each part that cannot belong to a character.

namespace ResultGateway.Text.Utf8

/-! ## Writing -/

def encode (cs : List Char) : List UInt8 := cs.flatMap String.utf8EncodeChar

/-- The number of bytes of a text. -/
def size (cs : List Char) : Nat := cs.foldl (fun n c => n + c.utf8Size) 0

/-! ## Reading -/

/-- How many bytes follow a first byte, and the least and the greatest second byte. -/
def following (first : Nat) : Option (Nat × Nat × Nat) :=
  if first < 0x80 then some (0, 0, 0)
  else if first < 0xc2 then none
  else if first < 0xe0 then some (1, 0x80, 0xbf)
  else if first = 0xe0 then some (2, 0xa0, 0xbf)
  else if first = 0xed then some (2, 0x80, 0x9f)
  else if first < 0xf0 then some (2, 0x80, 0xbf)
  else if first = 0xf0 then some (3, 0x90, 0xbf)
  else if first < 0xf4 then some (3, 0x80, 0xbf)
  else if first = 0xf4 then some (3, 0x80, 0x8f)
  else none

/-- The bits of a first byte that belong to the code point. -/
def leadBits (first count : Nat) : Nat :=
  match count with
  | 0 => first
  | 1 => first % 0x20
  | 2 => first % 0x10
  | _ => first % 0x08

/-- Reads the bytes that follow a first byte. Where one does not fit there is no character, and
reading goes on with that byte. -/
def readFollowing (point : Nat) : Nat → Nat → Nat → List UInt8 → Option Char × List UInt8
  | 0, _, _, bytes => (some (Char.ofNat point), bytes)
  | _ + 1, _, _, [] => (none, [])
  | count + 1, low, high, b :: bytes =>
    if low ≤ b.toNat && b.toNat ≤ high then
      readFollowing (0x40 * point + b.toNat % 0x40) count 0x80 0xbf bytes
    else (none, b :: bytes)

/-- Reads one character, or passes a part that belongs to none. -/
def readOne (first : UInt8) (bytes : List UInt8) : Option Char × List UInt8 :=
  match following first.toNat with
  | none => (none, bytes)
  | some (count, low, high) => readFollowing (leadBits first.toNat count) count low high bytes

theorem readFollowing_length (point count low high : Nat) (bytes : List UInt8) :
    (readFollowing point count low high bytes).2.length ≤ bytes.length := by
  fun_induction readFollowing point count low high bytes with
  | case1 | case2 | case4 => exact Nat.le_refl _
  | case3 _ _ _ _ _ _ _ ih => exact Nat.le_succ_of_le ih

theorem readOne_length (first : UInt8) (bytes : List UInt8) :
    (readOne first bytes).2.length ≤ bytes.length := by
  unfold readOne
  split
  · exact Nat.le_refl _
  · exact readFollowing_length _ _ _ _ _

/-- Reads all bytes, with `none` for each part that belongs to no character. -/
def readAll (found : List (Option Char)) (bytes : List UInt8) : List (Option Char) :=
  match bytes with
  | [] => found.reverse
  | b :: bytes => readAll ((readOne b bytes).1 :: found) (readOne b bytes).2
termination_by bytes.length
decreasing_by
  have := readOne_length b bytes
  simp only [List.length_cons]
  omega

/-- The text of bytes that are UTF-8. -/
def decode? (bytes : List UInt8) : Option (List Char) := (readAll [] bytes).mapM id

def replacement : Char := '\ufffd'

/-- The text of bytes, with replacement characters. -/
def decodeLossy (bytes : List UInt8) : List Char :=
  (readAll [] bytes).map fun c => c.getD replacement

end ResultGateway.Text.Utf8
