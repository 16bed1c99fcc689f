import PhpHooks.Text.Basic

set_option autoImplicit false

/-!
Texts as bytes. Decoding reads one well-formed sequence after another; a byte that begins none is
a stray, which the strict reader refuses and the lenient one drops.
-/
namespace PhpHooks

/-- The content of a file. -/
abbrev Bytes := List UInt8

namespace Utf8

def encode (t : Text) : Bytes :=
  t.flatMap String.utf8EncodeChar

def isContinuation (b : UInt8) : Bool :=
  0x80 ≤ b && b ≤ 0xbf

/-- The two-byte sequence, which is never used for a character that one byte can hold. -/
def pair? (a b : UInt8) : Option Char :=
  if 0xc2 ≤ a && a ≤ 0xdf && isContinuation b then
    some (Char.ofNat ((a.toNat - 0xc0) * 0x40 + (b.toNat - 0x80)))
  else none

/-- The three-byte sequence; the range of `b` excludes long spellings and surrogates. -/
def triple? (a b c : UInt8) : Option Char :=
  let second :=
    if a == 0xe0 then 0xa0 ≤ b && b ≤ 0xbf
    else if a == 0xed then 0x80 ≤ b && b ≤ 0x9f
    else 0xe1 ≤ a && a ≤ 0xef && isContinuation b
  if second && isContinuation c then
    some (Char.ofNat ((a.toNat - 0xe0) * 0x1000 + (b.toNat - 0x80) * 0x40 + (c.toNat - 0x80)))
  else none

/-- The four-byte sequence; the range of `b` excludes long spellings and what lies past U+10FFFF. -/
def quadruple? (a b c d : UInt8) : Option Char :=
  let second :=
    if a == 0xf0 then 0x90 ≤ b && b ≤ 0xbf
    else if a == 0xf4 then 0x80 ≤ b && b ≤ 0x8f
    else 0xf1 ≤ a && a ≤ 0xf3 && isContinuation b
  if second && isContinuation c && isContinuation d then
    some (Char.ofNat ((a.toNat - 0xf0) * 0x40000 + (b.toNat - 0x80) * 0x1000 +
      (c.toNat - 0x80) * 0x40 + (d.toNat - 0x80)))
  else none

/-- The characters in order, with `none` for each stray byte. -/
def pieces : Bytes → List (Option Char)
  | [] => []
  | a :: rest =>
      if a < 0x80 then some (Char.ofNat a.toNat) :: pieces rest
      else
        match rest with
        | [] => [none]
        | b :: rest₁ =>
            match pair? a b with
            | some char => some char :: pieces rest₁
            | none =>
                match rest₁ with
                | [] => none :: pieces [b]
                | c :: rest₂ =>
                    match triple? a b c with
                    | some char => some char :: pieces rest₂
                    | none =>
                        match rest₂ with
                        | [] => none :: pieces [b, c]
                        | d :: rest₃ =>
                            match quadruple? a b c d with
                            | some char => some char :: pieces rest₃
                            | none => none :: pieces (b :: c :: d :: rest₃)

/-- The text of `bytes` with stray bytes dropped. -/
def decodeLenient (bytes : Bytes) : Text :=
  (pieces bytes).filterMap id

/-- All characters, or nothing if a stray byte is among the pieces. -/
def allPresent : List (Option Char) → Option Text
  | [] => some []
  | none :: _ => none
  | some c :: rest => (allPresent rest).map (c :: ·)

def decode? (bytes : Bytes) : Option Text :=
  allPresent (pieces bytes)

end Utf8
end PhpHooks
