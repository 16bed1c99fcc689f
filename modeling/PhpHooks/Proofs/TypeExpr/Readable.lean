import PhpHooks.Proofs.TypeExpr.Spelling
import PhpHooks.TypeExpr.Reading

set_option autoImplicit false

/-!
Texts that can be read to their end, be it as a type or as a malformed text, and texts that cannot
because an integer in them is too long or because they nest deeper than the stack allows.
-/
namespace PhpHooks

namespace TypeExpr

/-- Whether the reading of the text ends at an integer that is too long. -/
def overflows (t : Text) : Bool :=
  match parse t with
  | .error (.overflow _) => true
  | _ => false

theorem overflows_of_parse {t : Text} {cause : Numeral.Overflow}
    (parsed : parse t = .error (.overflow cause)) : overflows t = true := by
  rw [overflows, parsed]

theorem parse_of_overflows {t : Text} (beyond : overflows t = true) :
    ∃ cause, parse t = .error (.overflow cause) := by
  unfold overflows at beyond
  split at beyond
  · next cause parsed => exact ⟨cause, parsed⟩
  · cases beyond

/-- Only a text with such an integer among its tokens does so. -/
theorem exists_isLongInteger {t : Text} (beyond : overflows t = true) :
    ∃ tokens, Lexeme.tokens t = .ok tokens ∧ ∃ token ∈ tokens, token.isLongInteger = true := by
  obtain ⟨cause, refused⟩ := parse_of_overflows beyond
  cases lexed : Lexeme.tokens t with
  | error stray =>
      simp only [parse, lexed] at refused
      cases refused
  | ok tokens =>
      refine ⟨tokens, rfl, ?_⟩
      rw [parse_of_tokens lexed] at refused
      apply Classical.byContradiction
      intro none
      have short : ∀ token ∈ tokens, token.isLongInteger = false := by
        intro token inside
        rw [Bool.eq_false_iff]
        exact fun long => none ⟨token, inside, long⟩
      obtain ⟨other, same⟩ := malformed_of_ofTokens (clean_of_tokens lexed) short refused
      cases same

/-- The numeral of a number with too many digits is such a text. -/
theorem parse_ofInt_of_long {n : Int} (long : 10 ^ Numeral.maxDigits ≤ n.natAbs) :
    parse (Text.ofInt n) = .error (.overflow (.reading (Text.ofNat n.natAbs).length)) := by
  have tooLong : Numeral.maxDigits < (Text.ofNat n.natAbs).length := by
    apply Nat.lt_of_not_le
    intro short
    have below := (Nat.length_toDigits_le_iff (by decide) (by decide)).mp short
    omega
  have value : numberValue (Text.ofInt n) =
      .error (.overflow (.reading (Text.ofNat n.natAbs).length)) := by
    simp only [numberValue, Numeral.splitSign_ofInt, Numeral.natural?_ofNat, if_pos tooLong]
  have lexed := (Lexes.whole (whole_ofInt n) rfl).tokens_eq
  rw [parse_of_tokens lexed]
  simp [ofTokens, union, member, primary, value, bind, Except.bind]

theorem tokens_of_allBlank {t : Text} (blank : Text.allBlank t = true) :
    Lexeme.tokens t = .ok [] := by
  have nothing : (t ++ []).dropWhile Text.isBlank = [] :=
    Lexeme.dropWhile_run (List.all_eq_true.mp blank) (by simp [Lexeme.Stops])
  rw [List.append_nil] at nothing
  rw [← Lexeme.tokens_dropWhile, nothing]
  rfl

theorem parse_of_allBlank {t : Text} (blank : Text.allBlank t = true) :
    parse t = .error (.malformed .empty) := by
  rw [parse_of_tokens (tokens_of_allBlank blank)]
  rfl

@[simp] theorem hasRoom_boundless (t : Text) : Stack.hasRoom t = true := rfl

section Room

variable [Stack] {t : Text}

theorem parse?_of_hasRoom (room : Stack.hasRoom t = true) : parse? t = some (parse t) :=
  if_pos room

theorem parse?_of_full (full : Stack.hasRoom t = false) : parse? t = none := by
  simp [parse?, full]

theorem hasRoom_of_allBlank (blank : Text.allBlank t = true) : Stack.hasRoom t = true := by
  apply Stack.hasRoom_of_openings_le
  rw [openings, tokens_of_allBlank blank]
  exact Nat.zero_le _

/-- A text that there is no room for nests deeper than there is always room for. -/
theorem exists_openings (full : Stack.hasRoom t = false) :
    ∃ tokens, Lexeme.tokens t = .ok tokens ∧ Stack.depth < tokens.countP opens := by
  have deep : Stack.depth < openings t := by
    rw [← Nat.not_le]
    intro shallow
    rw [Stack.hasRoom_of_openings_le t shallow] at full
    cases full
  cases lexed : Lexeme.tokens t with
  | error stray =>
      rw [openings, lexed] at deep
      exact absurd deep (Nat.not_lt_zero _)
  | ok tokens =>
      rw [openings, lexed] at deep
      exact ⟨tokens, rfl, deep⟩

end Room

end TypeExpr

open TypeExpr (overflows)

def widened? (t : Option Text) : Option UnionType :=
  t.bind fun t => (TypeExpr.parse t).toOption.map UnionType.widen

/-- Whether the text is read to its end: there is room for it, and no integer in it is too long. -/
def isReadable [Stack] (t : Option Text) : Bool :=
  t.all fun t => Stack.hasRoom t && !overflows t

section Normalizing

variable [Stack] {t : Option Text}

theorem normalize_of_isReadable (readable : isReadable t = true) :
    normalize t = .ok (widened? t) := by
  cases t with
  | none => rfl
  | some t =>
      obtain ⟨room, short⟩ : Stack.hasRoom t = true ∧ overflows t = false := by
        simpa [isReadable] using readable
      cases blank : Text.allBlank t with
      | true =>
          simp [normalize, TypeReading.ofText, blank, TypeReading.type?, widened?,
            TypeExpr.parse_of_allBlank blank, Except.toOption]
      | false =>
          simp only [normalize, TypeReading.ofText, blank, Bool.false_eq_true, ↓reduceIte,
            widened?, Option.bind_some, TypeExpr.parse?_of_hasRoom room]
          cases parsed : TypeExpr.parse t with
          | ok u => rfl
          | error fault =>
              cases fault with
              | malformed cause => rfl
              | overflow cause =>
                  rw [TypeExpr.overflows_of_parse parsed] at short
                  cases short

theorem normalize_of_full {t : Text} (full : Stack.hasRoom t = false) :
    normalize (some t) = .error .exhausted := by
  have ink : Text.allBlank t = false := by
    rw [Bool.eq_false_iff]
    intro blank
    rw [TypeExpr.hasRoom_of_allBlank blank] at full
    cases full
  simp only [normalize, TypeReading.ofText, ink, Bool.false_eq_true, ↓reduceIte,
    TypeExpr.parse?_of_full full, TypeReading.type?]

theorem normalize_of_overflow {t : Text} {cause : Numeral.Overflow}
    (room : Stack.hasRoom t = true) (parsed : TypeExpr.parse t = .error (.overflow cause)) :
    normalize (some t) = .error (.overflow cause) := by
  have ink : Text.allBlank t = false := by
    rw [Bool.eq_false_iff]
    intro blank
    rw [TypeExpr.parse_of_allBlank blank] at parsed
    cases parsed
  simp only [normalize, TypeReading.ofText, ink, Bool.false_eq_true, ↓reduceIte,
    TypeExpr.parse?_of_hasRoom room, parsed, TypeReading.type?]

theorem normalize_of_not_isReadable (unreadable : isReadable t = false) :
    ∃ cause, normalize t = .error cause := by
  cases t with
  | none => cases unreadable
  | some t =>
      cases room : Stack.hasRoom t with
      | false => exact ⟨_, normalize_of_full room⟩
      | true =>
          have beyond : overflows t = true := by simpa [isReadable, room] using unreadable
          obtain ⟨cause, parsed⟩ := TypeExpr.parse_of_overflows beyond
          exact ⟨_, normalize_of_overflow room parsed⟩

theorem isReadable_of_normalize {u : Option UnionType} (read : normalize t = .ok u) :
    isReadable t = true := by
  cases readable : isReadable t with
  | true => rfl
  | false =>
      obtain ⟨cause, refused⟩ := normalize_of_not_isReadable readable
      rw [refused] at read
      cases read

end Normalizing

/-- A reader that normalizes a text for each element of a list and adds what it gets to what the
rest of the list gives. -/
structure ReadsEach [Stack] {α : Type} (text : α → Option Text)
    (add : Option UnionType → List UnionType → List UnionType)
    (read : List α → Except ReadingFault (List UnionType)) : Prop where
  nil : read [] = .ok []
  cons : ∀ x rest, read (x :: rest) = (normalize (text x)).bind fun u => (read rest).map (add u)

namespace ReadsEach

variable [Stack] {α : Type} {text : α → Option Text}
variable {add : Option UnionType → List UnionType → List UnionType}
variable {read : List α → Except ReadingFault (List UnionType)}

theorem eq_ok (reads : ReadsEach text add read) {xs : List α}
    (readable : ∀ x ∈ xs, isReadable (text x) = true) :
    read xs = .ok (xs.foldr (fun x => add (widened? (text x))) []) := by
  induction xs with
  | nil => exact reads.nil
  | cons x rest ih =>
      rw [List.forall_mem_cons] at readable
      rw [reads.cons, normalize_of_isReadable readable.1, ih readable.2]
      rfl

theorem eq_error (reads : ReadsEach text add read) {xs : List α}
    (unreadable : ∃ x ∈ xs, isReadable (text x) = false) : ∃ cause, read xs = .error cause := by
  induction xs with
  | nil => simp at unreadable
  | cons x rest ih =>
      rw [reads.cons]
      cases first : isReadable (text x) with
      | false =>
          obtain ⟨cause, refused⟩ := normalize_of_not_isReadable first
          exact ⟨cause, by rw [refused]; rfl⟩
      | true =>
          have later : ∃ x ∈ rest, isReadable (text x) = false := by
            simpa [first] using unreadable
          obtain ⟨cause, refused⟩ := ih later
          exact ⟨cause, by rw [normalize_of_isReadable first, refused]; rfl⟩

end ReadsEach

end PhpHooks
