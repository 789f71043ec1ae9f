import CssColor.Text.Integer

/-!
# Bytes of text

- `Text.utf8`: the bytes of a text.
- `decodeUtf8`: the text of some bytes, refused at the first byte that no text
  can hold there.
- `Utf8Error`: where bytes stop being text, and why.
-/

namespace CssColor

/-- The bytes of a text. -/
def Text.utf8 (t : Text) : List UInt8 :=
  t.flatMap String.utf8EncodeChar

/-- Why bytes are no text. -/
inductive Utf8Fault where
  /-- No character begins with the byte. -/
  | start
  /-- A character is broken off by a byte that does not continue it. -/
  | continuation
  /-- The bytes end inside a character. -/
  | cut
  deriving DecidableEq, Repr

/-- The bytes from `position` on, `count` of them, are no text; `first` is the first of them. -/
structure Utf8Error where
  fault : Utf8Fault
  position : Nat
  count : Nat
  first : UInt8
  deriving DecidableEq, Repr

/-- The reason that a message gives for a fault. -/
def Utf8Fault.reason : Utf8Fault → Text
  | .start => "invalid start byte".toList
  | .continuation => "invalid continuation byte".toList
  | .cut => "unexpected end of data".toList

/-- The message of an error: it shows a single byte and the range of several. -/
def Utf8Error.message (e : Utf8Error) : Text :=
  "'utf-8' codec can't decode ".toList
    ++ (if e.count = 1 then
          "byte 0x".toList ++ hexDigits 2 e.first.toNat ++ " in position ".toList
            ++ natText e.position
        else
          "bytes in position ".toList ++ natText e.position ++ "-".toList
            ++ natText (e.position + e.count - 1))
    ++ ": ".toList ++ e.fault.reason

/-- What the first byte of a longer character settles: how many bytes follow, the range of the
next of them, and the character's leading bits. -/
structure Utf8Lead where
  follow : Nat
  least : Nat
  most : Nat
  bits : Nat

/-- The lead that a byte above 0x7f gives, if a character begins with it. -/
def utf8Lead? (b : Nat) : Option Utf8Lead :=
  if b < 0xc2 then none
  else if b < 0xe0 then some ⟨1, 0x80, 0xbf, b - 0xc0⟩
  else if b < 0xf0 then
    some ⟨2, if b = 0xe0 then 0xa0 else 0x80, if b = 0xed then 0x9f else 0xbf, b - 0xe0⟩
  else if b < 0xf5 then
    some ⟨3, if b = 0xf0 then 0x90 else 0x80, if b = 0xf4 then 0x8f else 0xbf, b - 0xf0⟩
  else none

/-- The character that a lead and the bytes after it give, with the bytes left; else the fault and
how many of the bytes belong to the broken character. -/
def utf8Follow : Utf8Lead → List UInt8 → Except (Utf8Fault × Nat) (Char × List UInt8)
  | ⟨0, _, _, bits⟩, rest => .ok (Char.ofNat bits, rest)
  | ⟨_ + 1, _, _, _⟩, [] => .error (.cut, 0)
  | ⟨n + 1, least, most, bits⟩, b :: rest =>
    if least ≤ b.toNat ∧ b.toNat ≤ most then
      match utf8Follow ⟨n, 0x80, 0xbf, bits * 64 + (b.toNat - 0x80)⟩ rest with
      | .ok done => .ok done
      | .error (fault, taken) => .error (fault, taken + 1)
    else .error (.continuation, 0)

/-- What is left after a character is no longer than what stood there. -/
theorem utf8Follow_length {lead : Utf8Lead} {bytes rest : List UInt8} {c : Char}
    (h : utf8Follow lead bytes = .ok (c, rest)) : rest.length ≤ bytes.length := by
  fun_induction utf8Follow lead bytes with
  | case1 => simp_all
  | case2 => simp at h
  | case3 n least most bits b more inside done hdone ih =>
    have := ih (by rw [hdone]; exact congrArg Except.ok (Except.ok.inj h))
    simp only [List.length_cons]
    omega
  | case4 => simp at h
  | case5 => simp at h

/-- The text of some bytes that begin at `position`. -/
def decodeUtf8From (position : Nat) (bytes : List UInt8) : Except Utf8Error Text :=
  match bytes with
  | [] => .ok []
  | b :: rest =>
    if b.toNat < 0x80 then
      match decodeUtf8From (position + 1) rest with
      | .ok t => .ok (Char.ofNat b.toNat :: t)
      | .error e => .error e
    else match utf8Lead? b.toNat with
      | none => .error ⟨.start, position, 1, b⟩
      | some lead =>
        match h : utf8Follow lead rest with
        | .error (fault, taken) => .error ⟨fault, position, taken + 1, b⟩
        | .ok (c, more) =>
          match decodeUtf8From (position + (rest.length + 1 - more.length)) more with
          | .ok t => .ok (c :: t)
          | .error e => .error e
termination_by bytes.length
decreasing_by
  · simp
  · have := utf8Follow_length h
    simp only [List.length_cons]
    omega

/-- The text of some bytes, or where and why they are none. -/
def decodeUtf8 (bytes : List UInt8) : Except Utf8Error Text :=
  decodeUtf8From 0 bytes

end CssColor
