import PhpHooks.Text.Utf8

set_option autoImplicit false

/-!
Texts are read back from their bytes: each character is the well-formed sequence at its place, so
the lenient reader drops nothing.
-/
namespace PhpHooks.Utf8

theorem toNat_byte {n : Nat} (small : n < 256) : (UInt8.ofNat n).toNat = n := by
  rw [UInt8.toNat_ofNat']
  exact Nat.mod_eq_of_lt small

section Sequences

variable {a b c d : UInt8} {v : Nat}

theorem isContinuation_of_toNat (tail : b.toNat = v % 64 + 0x80) : isContinuation b = true := by
  simp [isContinuation, UInt8.le_iff_toNat_le]
  omega

theorem pair?_eq (lead : a.toNat = v / 64 + 0xc0) (second : b.toNat = v % 64 + 0x80)
    (low : 0x7f < v) (high : v ≤ 0x7ff) : pair? a b = some (Char.ofNat v) := by
  have range : (0xc2 ≤ a && a ≤ 0xdf && isContinuation b) = true := by
    simp [isContinuation_of_toNat second, UInt8.le_iff_toNat_le]
    omega
  have value : (a.toNat - 0xc0) * 0x40 + (b.toNat - 0x80) = v := by omega
  rw [pair?, if_pos range, value]

theorem pair?_eq_none (lead : 0xdf < a.toNat) : pair? a b = none := by
  apply if_neg
  simp [UInt8.le_iff_toNat_le]
  omega

theorem triple?_eq (lead : a.toNat = v / 4096 + 0xe0) (second : b.toNat = v / 64 % 64 + 0x80)
    (third : c.toNat = v % 64 + 0x80) (low : 0x7ff < v) (high : v ≤ 0xffff)
    (valid : v < 0xd800 ∨ 0xdfff < v) : triple? a b c = some (Char.ofNat v) := by
  have value : (a.toNat - 0xe0) * 0x1000 + (b.toNat - 0x80) * 0x40 + (c.toNat - 0x80) = v := by
    omega
  rw [triple?, isContinuation_of_toNat second, isContinuation_of_toNat third, value]
  apply if_pos
  simp [← UInt8.toNat_inj, UInt8.le_iff_toNat_le]
  -- behind 0xe0 the low end keeps out long spellings, behind 0xed validity keeps out surrogates
  split
  · omega
  · split <;> omega

theorem triple?_eq_none (lead : 0xef < a.toNat) : triple? a b c = none := by
  apply if_neg
  simp [← UInt8.toNat_inj, UInt8.le_iff_toNat_le]
  split
  · omega
  · split <;> omega

theorem quadruple?_eq (lead : a.toNat = v / 262144 + 0xf0)
    (second : b.toNat = v / 4096 % 64 + 0x80) (third : c.toNat = v / 64 % 64 + 0x80)
    (fourth : d.toNat = v % 64 + 0x80) (low : 0xffff < v) (high : v < 0x110000) :
    quadruple? a b c d = some (Char.ofNat v) := by
  have value : (a.toNat - 0xf0) * 0x40000 + (b.toNat - 0x80) * 0x1000 +
      (c.toNat - 0x80) * 0x40 + (d.toNat - 0x80) = v := by omega
  rw [quadruple?, isContinuation_of_toNat second, isContinuation_of_toNat third,
    isContinuation_of_toNat fourth, value]
  apply if_pos
  simp [← UInt8.toNat_inj, UInt8.le_iff_toNat_le]
  split
  · omega
  · split <;> omega

theorem not_single (lead : 0x7f < a.toNat) : ¬a < 0x80 := by
  simp [UInt8.lt_iff_toNat_lt]
  omega

theorem pieces_single (rest : Bytes) (lead : a.toNat ≤ 0x7f) :
    pieces (a :: rest) = some (Char.ofNat a.toNat) :: pieces rest := by
  have short : a < 0x80 := by
    simp [UInt8.lt_iff_toNat_lt]
    omega
  rw [pieces.eq_def]
  simp only [if_pos short]

variable {char : Char}

theorem pieces_pair (rest : Bytes) (lead : 0x7f < a.toNat) (read : pair? a b = some char) :
    pieces (a :: b :: rest) = some char :: pieces rest := by
  rw [pieces.eq_def]
  simp only [if_neg (not_single lead)]
  simp only [read]

theorem pieces_triple (rest : Bytes) (lead : 0xdf < a.toNat) (read : triple? a b c = some char) :
    pieces (a :: b :: c :: rest) = some char :: pieces rest := by
  have long : ¬a < 0x80 := not_single (by omega)
  rw [pieces.eq_def]
  simp only [if_neg long, pair?_eq_none lead, read]

theorem pieces_quadruple (rest : Bytes) (lead : 0xef < a.toNat)
    (read : quadruple? a b c d = some char) :
    pieces (a :: b :: c :: d :: rest) = some char :: pieces rest := by
  have long : ¬a < 0x80 := not_single (by omega)
  have none : pair? a b = none := pair?_eq_none (by omega)
  rw [pieces.eq_def]
  simp only [if_neg long, none, triple?_eq_none lead, read]

end Sequences

theorem pieces_char (char : Char) (rest : Bytes) :
    pieces (String.utf8EncodeChar char ++ rest) = some char :: pieces rest := by
  have same : Char.ofNat char.val.toNat = char := Char.ofNat_toNat char
  have valid : char.val.toNat < 0xd800 ∨ 0xdfff < char.val.toNat ∧ char.val.toNat < 0x110000 :=
    char.valid
  unfold String.utf8EncodeChar
  generalize char.val.toNat = v at same valid ⊢
  rw [← same]
  have last : (UInt8.ofNat (v % 64 + 128)).toNat = v % 64 + 128 := toNat_byte (by omega)
  have inner : (UInt8.ofNat (v / 64 % 64 + 128)).toNat = v / 64 % 64 + 128 :=
    toNat_byte (by omega)
  -- one case for each length of a sequence, by the size of the code point
  dsimp only
  split
  case isTrue one =>
    have lead : (UInt8.ofNat v).toNat = v := toNat_byte (by omega)
    have read := pieces_single rest (lead ▸ one)
    rwa [lead] at read
  case isFalse =>
    split
    case isTrue two =>
      have lead : (UInt8.ofNat (v / 64 % 32 + 192)).toNat = v / 64 + 192 := by
        rw [toNat_byte] <;> omega
      exact pieces_pair rest (by omega) (pair?_eq lead last (by omega) two)
    case isFalse =>
      split
      case isTrue three =>
        have lead : (UInt8.ofNat (v / 4096 % 16 + 224)).toNat = v / 4096 + 224 := by
          rw [toNat_byte] <;> omega
        exact pieces_triple rest (by omega)
          (triple?_eq lead inner last (by omega) three (by omega))
      case isFalse =>
        have lead : (UInt8.ofNat (v / 262144 % 8 + 240)).toNat = v / 262144 + 240 := by
          rw [toNat_byte] <;> omega
        have second : (UInt8.ofNat (v / 4096 % 64 + 128)).toNat = v / 4096 % 64 + 128 :=
          toNat_byte (by omega)
        exact pieces_quadruple rest (by omega)
          (quadruple?_eq lead second inner last (by omega) (by omega))

theorem pieces_encode (t : Text) : pieces (encode t) = t.map some := by
  induction t with
  | nil => rfl
  | cons char rest ih =>
    rw [encode, List.flatMap_cons, pieces_char]
    exact congrArg (some char :: ·) ih

theorem decodeLenient_encode (t : Text) : decodeLenient (encode t) = t := by
  rw [decodeLenient, pieces_encode, List.filterMap_map]
  exact List.filterMap_some

end PhpHooks.Utf8
