import PhpHooks.Proofs.Text.Classes

set_option autoImplicit false

/-!
How a text falls into lexemes. The first lexeme is a beginning of the text, and it stays the first
lexeme when what follows it is replaced by nothing or by something that begins with a separator.
So texts can be scanned piece by piece.
-/
namespace PhpHooks.Lexeme

open Text (isBlank isDigit isWord)

/-- No first character of `rest` is of the class `p`. -/
def Stops (p : Char → Bool) (rest : Text) : Prop :=
  ∀ c ∈ rest.head?, p c = false

def Separated (rest : Text) : Prop :=
  ∀ c ∈ rest.head?, separates c = true

theorem Separated.nil : Separated [] := by
  intro c none
  cases none

theorem Separated.cons {c : Char} (rest : Text) (separator : separates c = true) :
    Separated (c :: rest) := by
  intro d first
  rw [List.head?_cons, Option.mem_some_iff] at first
  exact first ▸ separator

theorem Separated.stops_isDigit {rest : Text} (separated : Separated rest) : Stops isDigit rest :=
  fun c first => (separates_excludes (separated c first)).1

theorem Separated.stops_continuesName {rest : Text} (separated : Separated rest) :
    Stops continuesName rest :=
  fun c first => (separates_excludes (separated c first)).2.2.1

section Runs

variable {p : Char → Bool} {run rest : Text}

theorem takeWhile_of_stops (stops : Stops p rest) : rest.takeWhile p = [] := by
  cases rest with
  | nil => rfl
  | cons c rest => exact List.takeWhile_cons_of_neg (by simp [stops c rfl])

theorem dropWhile_of_stops (stops : Stops p rest) : rest.dropWhile p = rest := by
  cases rest with
  | nil => rfl
  | cons c rest => exact List.dropWhile_cons_of_neg (by simp [stops c rfl])

theorem stops_dropWhile (p : Char → Bool) (t : Text) : Stops p (t.dropWhile p) := by
  intro c first
  have stopped := List.head?_dropWhile_not p t
  rw [Option.mem_def.mp first] at stopped
  simpa using stopped

theorem stops_of_all (filled : run ≠ []) (all : ∀ c ∈ run, p c = false) (rest : Text) :
    Stops p (run ++ rest) := by
  obtain ⟨c, more, rfl⟩ := List.exists_cons_of_ne_nil filled
  intro d first
  rw [List.cons_append, List.head?_cons, Option.mem_some_iff] at first
  exact first ▸ all c List.mem_cons_self

theorem takeWhile_run (all : ∀ c ∈ run, p c = true) (stops : Stops p rest) :
    (run ++ rest).takeWhile p = run := by
  rw [List.takeWhile_append_of_pos all, takeWhile_of_stops stops, List.append_nil]

theorem dropWhile_run (all : ∀ c ∈ run, p c = true) (stops : Stops p rest) :
    (run ++ rest).dropWhile p = rest := by
  rw [List.dropWhile_append_of_pos all, dropWhile_of_stops stops]

theorem mem_takeWhile {t : Text} {c : Char} (inside : c ∈ t.takeWhile p) : p c = true := by
  have all := List.all_takeWhile (p := p) (l := t)
  exact List.all_eq_true.mp all c inside

end Runs

theorem stringTail?_cons {mark c : Char} (rest : Text) (ordinary : c ≠ '\\') :
    stringTail? mark (c :: rest) =
      if c == mark then some ([c], rest)
      else (stringTail? mark rest).map fun (tail, after) => (c :: tail, after) := by
  rw [stringTail?]
  · exact fun same _ => ordinary same
  · exact fun _ _ same _ => ordinary same

/-- A character that neither ends the text nor takes the next one with it is no backslash. -/
theorem ne_backslash {c : Char} {rest : Text} (alone : c = '\\' → rest = [] → False)
    (escape : ∀ d more, c = '\\' → rest = d :: more → False) : c ≠ '\\' := by
  intro same
  cases rest with
  | nil => exact alone same rfl
  | cons d more => exact escape d more same rfl

/-- A scanned string is a beginning of the text, whatever follows it. -/
theorem stringTail?_spec (mark : Char) (t : Text) {tail after : Text}
    (found : stringTail? mark t = some (tail, after)) :
    t = tail ++ after ∧ tail ≠ [] ∧
      ∀ rest, stringTail? mark (tail ++ rest) = some (tail, rest) := by
  fun_induction stringTail? mark t generalizing tail after with
  | case1 => cases found
  | case2 => cases found
  | case3 => cases found
  | case4 c rest ordinary ih =>
      obtain ⟨⟨inner, behind⟩, scanned, same⟩ := Option.map_eq_some_iff.mp found
      obtain ⟨split, -, anywhere⟩ := ih scanned
      simp only [Prod.mk.injEq] at same
      obtain ⟨rfl, rfl⟩ := same
      refine ⟨by rw [split]; rfl, by simp, ?_⟩
      intro more
      simp [stringTail?, ordinary, anywhere]
  | case5 c rest alone escape closing =>
      simp only [Option.some.injEq, Prod.mk.injEq] at found
      obtain ⟨rfl, rfl⟩ := found
      have ordinary := ne_backslash alone escape
      refine ⟨rfl, by simp, ?_⟩
      intro more
      rw [List.singleton_append, stringTail?_cons more ordinary, if_pos closing]
  | case6 c rest alone escape other ih =>
      obtain ⟨⟨inner, behind⟩, scanned, same⟩ := Option.map_eq_some_iff.mp found
      obtain ⟨split, -, anywhere⟩ := ih scanned
      simp only [Prod.mk.injEq] at same
      obtain ⟨rfl, rfl⟩ := same
      have ordinary := ne_backslash alone escape
      refine ⟨by rw [split]; rfl, by simp, ?_⟩
      intro more
      rw [List.cons_append, stringTail?_cons _ ordinary, if_neg other, anywhere, Option.map_some]

theorem string?_spec (t : Text) {text after : Text} (found : string? t = some (text, after)) :
    t = text ++ after ∧ text ≠ [] ∧ ∀ rest, string? (text ++ rest) = some (text, rest) := by
  cases t with
  | nil => cases found
  | cons c t =>
      simp only [string?] at found
      split at found
      · next quote =>
          obtain ⟨⟨tail, behind⟩, scanned, same⟩ := Option.map_eq_some_iff.mp found
          obtain ⟨split, -, anywhere⟩ := stringTail?_spec c t scanned
          simp only [Prod.mk.injEq] at same
          obtain ⟨rfl, rfl⟩ := same
          refine ⟨by rw [split]; rfl, by simp, ?_⟩
          intro rest
          simp only [List.cons_append, string?, quote, ↓reduceIte, anywhere, Option.map_some]
      · cases found

def startsMantissa (c : Char) : Bool :=
  isDigit c || c == '.'

def startsExponent (c : Char) : Bool :=
  c == 'e' || c == 'E'

theorem point_not_digit : isDigit '.' = false := by decide

theorem mantissa?_of_point {whole : Text} (more : Text) (digits : ∀ c ∈ whole, isDigit c = true)
    (some_digit : (whole.isEmpty && (more.takeWhile isDigit).isEmpty) = false) :
    mantissa? (whole ++ '.' :: more) =
      some (whole ++ '.' :: more.takeWhile isDigit, more.dropWhile isDigit) := by
  have point : Stops isDigit ('.' :: more) := by
    intro c first
    rw [List.head?_cons, Option.mem_some_iff] at first
    exact first ▸ point_not_digit
  simp only [mantissa?, takeWhile_run digits point, dropWhile_run digits point, some_digit,
    Bool.false_eq_true, ↓reduceIte]

theorem Stops.isDigit_of_startsMantissa {rest : Text} (stops : Stops startsMantissa rest) :
    Stops isDigit rest := by
  intro c first
  have neither := stops c first
  simp only [startsMantissa, Bool.or_eq_false_iff] at neither
  exact neither.1

theorem mantissa?_of_digits {whole rest : Text} (digits : ∀ c ∈ whole, isDigit c = true)
    (nonempty : whole ≠ []) (stops : Stops startsMantissa rest) :
    mantissa? (whole ++ rest) = some (whole, rest) := by
  have ended := stops.isDigit_of_startsMantissa
  have filled : whole.isEmpty = false := by simpa using nonempty
  simp only [mantissa?, takeWhile_run digits ended, dropWhile_run digits ended]
  split
  · exact absurd (stops '.' rfl) (by decide)
  · simp only [filled, Bool.false_eq_true, ↓reduceIte]

/-- A mantissa stays what it is in front of anything that does not go on with it. -/
theorem mantissa?_spec (t : Text) {text after : Text} (found : mantissa? t = some (text, after)) :
    t = text ++ after ∧ (∃ c tail, text = c :: tail ∧ startsMantissa c = true) ∧
      ∀ rest, Stops startsMantissa rest → mantissa? (text ++ rest) = some (text, rest) := by
  have digits : ∀ c ∈ t.takeWhile isDigit, isDigit c = true := fun c inside => mem_takeWhile inside
  have whole := List.takeWhile_append_dropWhile (p := isDigit) (l := t)
  simp only [mantissa?] at found
  split at found
  · next more point =>
      split at found
      · cases found
      · next filled =>
          simp only [Option.some.injEq, Prod.mk.injEq] at found
          obtain ⟨rfl, rfl⟩ := found
          have fraction : ∀ c ∈ more.takeWhile isDigit, isDigit c = true :=
            fun c inside => mem_takeWhile inside
          refine ⟨?_, ?_, ?_⟩
          · rw [List.append_assoc, List.cons_append, List.takeWhile_append_dropWhile, ← point,
              whole]
          · cases front : t.takeWhile isDigit with
            | nil => exact ⟨'.', _, rfl, by decide⟩
            | cons c tail =>
                have digit := digits c (by simp [front])
                exact ⟨c, _, rfl, by simp [startsMantissa, digit]⟩
          · intro rest stops
            have ended := stops.isDigit_of_startsMantissa
            have again := mantissa?_of_point (more.takeWhile isDigit ++ rest) digits
              (by simpa [takeWhile_run fraction ended] using filled)
            rw [takeWhile_run fraction ended, dropWhile_run fraction ended] at again
            rw [List.append_assoc, List.cons_append]
            exact again
  · next rest other =>
      split at found
      · cases found
      · next filled =>
          simp only [Option.some.injEq, Prod.mk.injEq] at found
          obtain ⟨rfl, rfl⟩ := found
          refine ⟨whole.symm, ?_, ?_⟩
          · cases front : t.takeWhile isDigit with
            | nil => exact absurd front (by simpa using filled)
            | cons c tail =>
                have digit := digits c (by simp [front])
                exact ⟨c, tail, rfl, by simp [startsMantissa, digit]⟩
          · intro more stops
            exact mantissa?_of_digits digits (by simpa using filled) stops

def exponentSign : Text → Text × Text
  | '+' :: more => (['+'], more)
  | '-' :: more => (['-'], more)
  | t => ([], t)

theorem exponent_cons (c : Char) (rest : Text) :
    exponent (c :: rest) =
      if startsExponent c then
        if ((exponentSign rest).2.takeWhile isDigit).isEmpty then ([], c :: rest)
        else (c :: (exponentSign rest).1 ++ (exponentSign rest).2.takeWhile isDigit,
          (exponentSign rest).2.dropWhile isDigit)
      else ([], c :: rest) := by
  fun_cases exponentSign rest with
  | case1 more => rfl
  | case2 more => rfl
  | case3 plus minus => simp only [exponent, startsExponent]

theorem exponentSign_spec (t : Text) :
    t = (exponentSign t).1 ++ (exponentSign t).2 ∧
      ∀ c tail, isDigit c = true →
        exponentSign ((exponentSign t).1 ++ c :: tail) = ((exponentSign t).1, c :: tail) := by
  fun_cases exponentSign t with
  | case1 more => exact ⟨rfl, fun _ _ _ => rfl⟩
  | case2 more => exact ⟨rfl, fun _ _ _ => rfl⟩
  | case3 plus minus =>
      refine ⟨rfl, ?_⟩
      intro c tail digit
      have noPlus : c ≠ '+' := by rintro rfl; exact absurd digit (by decide)
      have noMinus : c ≠ '-' := by rintro rfl; exact absurd digit (by decide)
      rw [List.nil_append, exponentSign]
      · exact fun more same => noPlus (List.cons.inj same).1
      · exact fun more same => noMinus (List.cons.inj same).1

theorem exponent_of_stops {rest : Text} (stops : Stops startsExponent rest) :
    exponent rest = ([], rest) := by
  cases rest with
  | nil => rfl
  | cons c rest => rw [exponent_cons, stops c rfl, if_neg (by decide)]

/-- An exponent stays what it is in front of anything that does not go on with it. -/
theorem exponent_spec (t : Text) :
    t = (exponent t).1 ++ (exponent t).2 ∧
      (∀ c ∈ (exponent t).1.head?, startsExponent c = true) ∧
      ∀ rest, Stops isDigit rest → Stops startsExponent rest →
        exponent ((exponent t).1 ++ rest) = ((exponent t).1, rest) := by
  have trivialCase : ∀ t : Text, exponent t = ([], t) →
      t = (exponent t).1 ++ (exponent t).2 ∧
        (∀ c ∈ (exponent t).1.head?, startsExponent c = true) ∧
        ∀ rest, Stops isDigit rest → Stops startsExponent rest →
          exponent ((exponent t).1 ++ rest) = ((exponent t).1, rest) := by
    intro t none
    rw [none]
    exact ⟨rfl, by simp, fun rest _ stops => exponent_of_stops stops⟩
  cases t with
  | nil => exact trivialCase [] rfl
  | cons c t =>
      by_cases starts : startsExponent c = true
      · cases run : (exponentSign t).2.takeWhile isDigit with
        | nil =>
            apply trivialCase
            rw [exponent_cons, if_pos starts, run]
            rfl
        | cons d tail =>
            have value : exponent (c :: t) = (c :: (exponentSign t).1 ++ d :: tail,
                (exponentSign t).2.dropWhile isDigit) := by
              rw [exponent_cons, if_pos starts, run, if_neg (by simp)]
            have digits : ∀ x ∈ d :: tail, isDigit x = true := by
              intro x inside
              rw [← run] at inside
              exact mem_takeWhile inside
            obtain ⟨split, again⟩ := exponentSign_spec t
            rw [value]
            refine ⟨?_, ?_, ?_⟩
            · rw [← run, List.cons_append, List.cons_append, List.append_assoc,
                List.takeWhile_append_dropWhile, ← split]
            · intro x first
              rw [List.cons_append, List.head?_cons, Option.mem_some_iff] at first
              exact first ▸ starts
            · intro rest stops _
              have signed := again d (tail ++ rest) (digits d List.mem_cons_self)
              have taken := takeWhile_run digits stops
              have dropped := dropWhile_run digits stops
              rw [List.cons_append] at taken dropped
              rw [List.cons_append, List.cons_append, List.append_assoc, List.cons_append,
                exponent_cons, if_pos starts, signed, taken, dropped, if_neg (by simp)]
              rfl
      · apply trivialCase
        rw [exponent_cons, if_neg starts]

def numberSign : Text → Text × Text
  | '-' :: rest => (['-'], rest)
  | t => ([], t)

theorem number?_eq (t : Text) :
    number? t = (mantissa? (numberSign t).2).map fun (mantissa, rest) =>
      ((numberSign t).1 ++ mantissa ++ (exponent rest).1, (exponent rest).2) := by
  fun_cases numberSign t with
  | case1 rest => rfl
  | case2 other => simp only [number?]

theorem numberSign_spec (t : Text) :
    t = (numberSign t).1 ++ (numberSign t).2 ∧
      (∀ c ∈ (numberSign t).1.head?, c = '-') ∧
      ∀ c tail, c ≠ '-' →
        numberSign ((numberSign t).1 ++ c :: tail) = ((numberSign t).1, c :: tail) := by
  fun_cases numberSign t with
  | case1 rest => exact ⟨rfl, by simp, fun _ _ _ => rfl⟩
  | case2 other =>
      refine ⟨rfl, by simp, ?_⟩
      intro c tail noMinus
      rw [List.nil_append, numberSign]
      exact fun more same => noMinus (List.cons.inj same).1

def startsNumber (c : Char) : Bool :=
  c == '-' || startsMantissa c

theorem Separated.stops_startsMantissa {rest : Text} (separated : Separated rest) :
    Stops startsMantissa rest := by
  intro c first
  obtain ⟨digit, -, -, point, -, -⟩ := separates_excludes (separated c first)
  simp [startsMantissa, digit, point]

theorem Separated.stops_startsExponent {rest : Text} (separated : Separated rest) :
    Stops startsExponent rest := by
  intro c first
  obtain ⟨-, -, -, -, small, capital⟩ := separates_excludes (separated c first)
  simp [startsExponent, small, capital]

/-- A number stays what it is in front of a separator. -/
theorem number?_spec (t : Text) {text after : Text} (found : number? t = some (text, after)) :
    t = text ++ after ∧ (∃ c tail, text = c :: tail ∧ startsNumber c = true) ∧
      ∀ rest, Separated rest → number? (text ++ rest) = some (text, rest) := by
  rw [number?_eq] at found
  obtain ⟨⟨mantissa, behind⟩, scanned, same⟩ := Option.map_eq_some_iff.mp found
  simp only [Prod.mk.injEq] at same
  obtain ⟨rfl, rfl⟩ := same
  obtain ⟨splitSign, minus, signed⟩ := numberSign_spec t
  obtain ⟨splitMantissa, ⟨c, tail, begins, starts⟩, mantissaAgain⟩ := mantissa?_spec _ scanned
  obtain ⟨splitPower, powerStarts, powerAgain⟩ := exponent_spec behind
  refine ⟨?_, ?_, ?_⟩
  · rw [List.append_assoc, List.append_assoc, ← splitPower, ← splitMantissa, ← splitSign]
  · cases sign : (numberSign t).1 with
    | nil =>
        exact ⟨c, tail ++ (exponent behind).1, by simp [begins], by simp [startsNumber, starts]⟩
    | cons d rest =>
        have here : d = '-' := minus d (by simp [sign])
        exact ⟨d, _, rfl, by simp [startsNumber, here]⟩
  · intro rest separated
    have noMinus : c ≠ '-' := by
      rintro rfl
      exact absurd starts (by decide)
    have ended : Stops startsMantissa ((exponent behind).1 ++ rest) := by
      intro x first
      cases power : (exponent behind).1 with
      | nil =>
          rw [power, List.nil_append] at first
          exact separated.stops_startsMantissa x first
      | cons y more =>
          rw [power, List.cons_append, List.head?_cons, Option.mem_some_iff] at first
          have letter := powerStarts y (by simp [power])
          rw [← first]
          simp only [startsExponent, Bool.or_eq_true, beq_iff_eq] at letter
          rcases letter with rfl | rfl <;> decide
    have unsigned : numberSign ((numberSign t).1 ++ mantissa ++ (exponent behind).1 ++ rest) =
        ((numberSign t).1, mantissa ++ ((exponent behind).1 ++ rest)) := by
      rw [List.append_assoc, List.append_assoc, begins, List.cons_append]
      exact signed c _ noMinus
    have power := powerAgain rest separated.stops_isDigit separated.stops_startsExponent
    rw [number?_eq, unsigned]
    simp only [mantissaAgain _ ended, Option.map_some, power]

theorem plainName?_spec (t : Text) {text after : Text}
    (found : plainName? t = some (text, after)) :
    t = text ++ after ∧ (∃ c tail, text = c :: tail ∧ startsName c = true) ∧
      ∀ rest, Separated rest → plainName? (text ++ rest) = some (text, rest) := by
  cases t with
  | nil => cases found
  | cons c t =>
      simp only [plainName?] at found
      split at found
      · next starts =>
          simp only [Option.some.injEq, Prod.mk.injEq] at found
          obtain ⟨rfl, rfl⟩ := found
          have run : ∀ d ∈ t.takeWhile continuesName, continuesName d = true :=
            fun d inside => mem_takeWhile inside
          refine ⟨?_, ⟨c, _, rfl, starts⟩, ?_⟩
          · rw [List.cons_append, List.takeWhile_append_dropWhile]
          · intro rest separated
            have ended := separated.stops_continuesName
            simp only [List.cons_append, plainName?, starts, ↓reduceIte, takeWhile_run run ended,
              dropWhile_run run ended]
      · cases found

/-- Characters that a name begins with, the variable and the leading backslash included. -/
def startsAnyName (c : Char) : Bool :=
  c == '$' || c == '\\' || startsName c

theorem name?_of_plain {c : Char} (tail : Text) (starts : startsName c = true) :
    name? (c :: tail) = plainName? (c :: tail) := by
  have noDollar : c ≠ '$' := by
    rintro rfl
    exact absurd starts (by decide)
  have noBackslash : c ≠ '\\' := by
    rintro rfl
    exact absurd starts (by decide)
  rw [name?]
  · exact fun more same => noDollar (List.cons.inj same).1
  · exact fun more same => noBackslash (List.cons.inj same).1

/-- A name stays what it is in front of a separator. -/
theorem name?_spec (t : Text) {text after : Text} (found : name? t = some (text, after)) :
    t = text ++ after ∧ (∃ c tail, text = c :: tail ∧ startsAnyName c = true) ∧
      ∀ rest, Separated rest → name? (text ++ rest) = some (text, rest) := by
  fun_cases name? t with
  | case1 rest word => simp [name?, word] at found
  | case2 rest noWord =>
      simp only [name?, noWord, Bool.false_eq_true, ↓reduceIte, Option.some.injEq,
        Prod.mk.injEq] at found
      obtain ⟨rfl, rfl⟩ := found
      refine ⟨rfl, ⟨'$', _, rfl, by decide⟩, ?_⟩
      intro more separated
      have ended : (more.head?.map isWord).getD false = false := by
        cases first : more.head? with
        | none => rfl
        | some c => exact (separates_excludes (separated c first)).2.1
      simp [name?, ended]
  | case3 rest =>
      simp only [name?] at found
      obtain ⟨⟨name, behind⟩, scanned, same⟩ := Option.map_eq_some_iff.mp found
      simp only [Prod.mk.injEq] at same
      obtain ⟨rfl, rfl⟩ := same
      obtain ⟨split, -, again⟩ := plainName?_spec rest scanned
      refine ⟨by rw [split]; rfl, ⟨'\\', _, rfl, by decide⟩, ?_⟩
      intro more separated
      simp only [List.cons_append, name?, again more separated, Option.map_some]
  | case4 _ noThis noBackslash =>
      rw [name?] at found
      · obtain ⟨split, ⟨c, tail, begins, starts⟩, again⟩ := plainName?_spec t found
        refine ⟨split, ⟨c, tail, begins, by simp [startsAnyName, starts]⟩, ?_⟩
        intro rest separated
        have plain := again rest separated
        rw [begins, List.cons_append] at plain ⊢
        rw [name?_of_plain _ starts, plain]
      · exact noThis
      · exact noBackslash

theorem isAsciiLetter_lt {c : Char} (letter : Text.isAsciiLetter c = true) : c.toNat < 128 := by
  simp only [Text.isAsciiLetter, Bool.or_eq_true, Bool.and_eq_true, decide_eq_true_eq, Char.le_def,
    UInt32.le_iff_toNat_le] at letter
  have small : ('z' : Char).val.toNat = 122 := rfl
  have capital : ('Z' : Char).val.toNat = 90 := rfl
  show c.val.toNat < 128
  omega

theorem startsAnyName_lt {c : Char} (starts : startsAnyName c = true) : c.toNat < 128 := by
  simp only [startsAnyName, startsName, Bool.or_eq_true, beq_iff_eq] at starts
  rcases starts with (rfl | rfl) | letter | rfl
  · decide
  · decide
  · exact isAsciiLetter_lt letter
  · decide

/-- Names begin with no blank, no quotation mark and nothing that a number begins with. -/
theorem startsAnyName_excludes {c : Char} (starts : startsAnyName c = true) :
    isBlank c = false ∧ c ≠ '\'' ∧ c ≠ '"' ∧ startsNumber c = false := by
  have all : ∀ n < 128, startsAnyName (Char.ofNat n) = true →
      isBlank (Char.ofNat n) = false ∧ Char.ofNat n ≠ '\'' ∧ Char.ofNat n ≠ '"' ∧
        startsNumber (Char.ofNat n) = false := by
    decide
  have listed := all c.toNat (startsAnyName_lt starts)
  rw [Char.ofNat_toNat] at listed
  exact listed starts

/-- Numbers begin with no blank and no quotation mark. -/
theorem startsNumber_excludes {c : Char} (starts : startsNumber c = true) :
    isBlank c = false ∧ c ≠ '\'' ∧ c ≠ '"' := by
  simp only [startsNumber, startsMantissa, Bool.or_eq_true, beq_iff_eq] at starts
  rcases starts with rfl | digit | rfl
  · decide
  · refine ⟨Text.isBlank_of_isDigit digit, ?_, ?_⟩
    · rintro rfl
      exact absurd digit (by decide)
    · rintro rfl
      exact absurd digit (by decide)
  · decide

theorem isMark_excludes {c : Char} (mark : isMark c = true) :
    isBlank c = false ∧ c ≠ '\'' ∧ c ≠ '"' ∧ startsNumber c = false ∧ startsAnyName c = false :=
  forall_mark (P := fun c => isBlank c = false ∧ c ≠ '\'' ∧ c ≠ '"' ∧
    startsNumber c = false ∧ startsAnyName c = false) (by decide) mark

section First

variable {c : Char} {t : Text}

theorem string?_eq_none (single : c ≠ '\'') (double : c ≠ '"') : string? (c :: t) = none := by
  simp [string?, single, double]

theorem number?_eq_none (starts : startsNumber c = false) : number? (c :: t) = none := by
  cases found : number? (c :: t) with
  | none => rfl
  | some result =>
      obtain ⟨split, ⟨d, tail, begins, number⟩, -⟩ := number?_spec _ found
      rw [begins, List.cons_append] at split
      rw [(List.cons.inj split).1, number] at starts
      cases starts

theorem name?_eq_none (starts : startsAnyName c = false) : name? (c :: t) = none := by
  cases found : name? (c :: t) with
  | none => rfl
  | some result =>
      obtain ⟨split, ⟨d, tail, begins, name⟩, -⟩ := name?_spec _ found
      rw [begins, List.cons_append] at split
      rw [(List.cons.inj split).1, name] at starts
      cases starts

theorem first?_of_blank (blank : isBlank c = true) :
    first? (c :: t) =
      some (⟨.blank, c :: t.takeWhile isBlank⟩, t.dropWhile isBlank) := by
  simp [first?, blank]

theorem first?_of_string {text rest : Text} (found : string? (c :: t) = some (text, rest)) :
    first? (c :: t) = some (⟨.string, text⟩, rest) := by
  have quote : c = '\'' ∨ c = '"' := by
    by_cases single : c = '\''
    · exact Or.inl single
    · by_cases double : c = '"'
      · exact Or.inr double
      · rw [string?_eq_none single double] at found
        cases found
  have filled : isBlank c = false := by
    rcases quote with rfl | rfl <;> decide
  simp [first?, filled, found]

theorem first?_of_number {text rest : Text} (found : number? (c :: t) = some (text, rest)) :
    first? (c :: t) = some (⟨.number, text⟩, rest) := by
  have starts : startsNumber c = true := by
    cases starts : startsNumber c with
    | true => rfl
    | false =>
        rw [number?_eq_none starts] at found
        cases found
  obtain ⟨filled, single, double⟩ := startsNumber_excludes starts
  simp [first?, filled, string?_eq_none single double, found]

theorem first?_of_name {text rest : Text} (found : name? (c :: t) = some (text, rest)) :
    first? (c :: t) = some (⟨.name, text⟩, rest) := by
  have starts : startsAnyName c = true := by
    cases starts : startsAnyName c with
    | true => rfl
    | false =>
        rw [name?_eq_none starts] at found
        cases found
  obtain ⟨filled, single, double, number⟩ := startsAnyName_excludes starts
  simp [first?, filled, string?_eq_none single double, number?_eq_none number, found]

theorem first?_of_mark (mark : isMark c = true) :
    first? (c :: t) = some (⟨.mark, [c]⟩, t) := by
  obtain ⟨filled, single, double, number, name⟩ := isMark_excludes mark
  simp [first?, filled, string?_eq_none single double, number?_eq_none number, name?_eq_none name,
    mark]

end First

/-- Every lexeme found is a beginning of the text, and a token stays the first lexeme in front of a
separator. -/
theorem first?_spec (t : Text) {lexeme : Lexeme} {after : Text}
    (found : first? t = some (lexeme, after)) :
    t = lexeme.text ++ after ∧ lexeme.text ≠ [] ∧
      (lexeme.isToken = true → ∀ rest, Separated rest →
        first? (lexeme.text ++ rest) = some (lexeme, rest)) := by
  cases t with
  | nil => cases found
  | cons c t =>
      by_cases blank : isBlank c = true
      · rw [first?_of_blank blank, Option.some.injEq, Prod.mk.injEq] at found
        obtain ⟨rfl, rfl⟩ := found
        refine ⟨?_, by simp, fun token => absurd token (by simp [isToken])⟩
        rw [List.cons_append, List.takeWhile_append_dropWhile]
      cases string : string? (c :: t) with
      | some result =>
          obtain ⟨text, behind⟩ := result
          rw [first?_of_string string, Option.some.injEq, Prod.mk.injEq] at found
          obtain ⟨rfl, rfl⟩ := found
          obtain ⟨split, filled, again⟩ := string?_spec _ string
          refine ⟨split, filled, fun _ rest _ => ?_⟩
          obtain ⟨d, tail, begins⟩ := List.exists_cons_of_ne_nil filled
          have scanned := again rest
          simp only [begins, List.cons_append] at scanned ⊢
          exact first?_of_string scanned
      | none =>
          cases number : number? (c :: t) with
          | some result =>
              obtain ⟨text, behind⟩ := result
              rw [first?_of_number number, Option.some.injEq, Prod.mk.injEq] at found
              obtain ⟨rfl, rfl⟩ := found
              obtain ⟨split, ⟨d, tail, begins, -⟩, again⟩ := number?_spec _ number
              refine ⟨split, by simp [begins], fun _ rest separated => ?_⟩
              have scanned := again rest separated
              simp only [begins, List.cons_append] at scanned ⊢
              exact first?_of_number scanned
          | none =>
              cases name : name? (c :: t) with
              | some result =>
                  obtain ⟨text, behind⟩ := result
                  rw [first?_of_name name, Option.some.injEq, Prod.mk.injEq] at found
                  obtain ⟨rfl, rfl⟩ := found
                  obtain ⟨split, ⟨d, tail, begins, -⟩, again⟩ := name?_spec _ name
                  refine ⟨split, by simp [begins], fun _ rest separated => ?_⟩
                  have scanned := again rest separated
                  simp only [begins, List.cons_append] at scanned ⊢
                  exact first?_of_name scanned
              | none =>
                  by_cases mark : isMark c = true
                  · rw [first?_of_mark mark, Option.some.injEq, Prod.mk.injEq] at found
                    obtain ⟨rfl, rfl⟩ := found
                    exact ⟨rfl, by simp, fun _ rest _ => first?_of_mark mark⟩
                  · simp [first?, blank, string, number, name, mark] at found

theorem length_after_lt {t : Text} {lexeme : Lexeme} {after : Text}
    (found : first? t = some (lexeme, after)) : after.length < t.length := by
  obtain ⟨split, filled, -⟩ := first?_spec t found
  have positive : 0 < lexeme.text.length := List.length_pos_iff.mpr filled
  rw [split, List.length_append]
  omega

theorem scanWithin_nil (bound : Nat) : scanWithin bound [] = .ok [] := by
  cases bound <;> rfl

-- Left transparent, the classes of characters would be unfolded to compare the two sides.
attribute [local irreducible] first? in
theorem scanWithin_cons (bound : Nat) (c : Char) (rest : Text) :
    scanWithin (bound + 1) (c :: rest) =
      match first? (c :: rest) with
      | none => .error c
      | some (lexeme, after) =>
          match scanWithin bound after with
          | .ok lexemes => .ok (lexeme :: lexemes)
          | .error stray => .error stray := rfl

/-- The bound on the search does not matter if it is not less than the length. -/
theorem scanWithin_eq (bound other : Nat) (t : Text) (enough : t.length ≤ bound)
    (also : t.length ≤ other) : scanWithin bound t = scanWithin other t := by
  induction bound generalizing other t with
  | zero =>
      have empty : t = [] := List.length_eq_zero_iff.mp (Nat.le_zero.mp enough)
      rw [empty, scanWithin_nil, scanWithin_nil]
  | succ bound ih =>
      cases t with
      | nil => rw [scanWithin_nil, scanWithin_nil]
      | cons c t =>
          obtain ⟨other, rfl⟩ : ∃ less, other = less + 1 :=
            ⟨other - 1, by rw [List.length_cons] at also; omega⟩
          rw [scanWithin_cons, scanWithin_cons]
          cases found : first? (c :: t) with
          | none => rfl
          | some result =>
              obtain ⟨lexeme, after⟩ := result
              have shorter := length_after_lt found
              simp only [ih other after (by omega) (by omega)]

theorem scan_of_first? {t : Text} {lexeme : Lexeme} {after : Text}
    (found : first? t = some (lexeme, after)) :
    scan t = (scan after).map (lexeme :: ·) := by
  have shorter := length_after_lt found
  cases t with
  | nil => cases found
  | cons c t =>
      rw [List.length_cons] at shorter
      have same := scanWithin_eq t.length after.length after (by omega) (Nat.le_refl _)
      rw [scan, List.length_cons, scanWithin_cons, found, scan]
      simp only [same]
      cases scanWithin after.length after <;> rfl

/-- The first lexeme of a scan is the first lexeme of the text. -/
theorem first?_of_scan {t : Text} {lexeme : Lexeme} {lexemes : List Lexeme}
    (scanned : scan t = .ok (lexeme :: lexemes)) :
    ∃ after, first? t = some (lexeme, after) ∧ scan after = .ok lexemes := by
  cases t with
  | nil => cases scanned
  | cons c t =>
      cases found : first? (c :: t) with
      | none =>
          rw [scan, List.length_cons, scanWithin_cons, found] at scanned
          cases scanned
      | some result =>
          obtain ⟨first, after⟩ := result
          rw [scan_of_first? found] at scanned
          cases rest : scan after with
          | error stray => simp [rest, Except.map] at scanned
          | ok others =>
              simp only [rest, Except.map, Except.ok.injEq, List.cons.injEq] at scanned
              obtain ⟨rfl, rfl⟩ := scanned
              exact ⟨after, rfl, rest⟩

theorem map_lexeme_placeFrom (start : Nat) (lexemes : List Lexeme) :
    (placeFrom start lexemes).map Placed.lexeme = lexemes := by
  induction lexemes generalizing start with
  | nil => rfl
  | cons lexeme rest ih => rw [placeFrom, List.map_cons, ih]

/-- Which lexemes are tokens does not depend on where they stand. -/
theorem tokens_eq_scan (t : Text) : tokens t = (scan t).map (List.filter isToken) := by
  rw [tokens, placedTokens]
  cases scan t with
  | error stray => rfl
  | ok lexemes =>
      have kept : ((placeFrom 0 lexemes).map Placed.lexeme).filter isToken =
          ((placeFrom 0 lexemes).filter (·.lexeme.isToken)).map Placed.lexeme :=
        List.filter_map
      rw [map_lexeme_placeFrom] at kept
      exact congrArg Except.ok kept.symm

theorem tokens_of_first? {t : Text} {lexeme : Lexeme} {after : Text}
    (found : first? t = some (lexeme, after)) :
    tokens t = (tokens after).map fun others =>
      if lexeme.isToken then lexeme :: others else others := by
  rw [tokens_eq_scan, scan_of_first? found, tokens_eq_scan]
  cases scan after with
  | error stray => rfl
  | ok lexemes => simp [Except.map, List.filter_cons]

theorem tokens_dropWhile (t : Text) : tokens (t.dropWhile isBlank) = tokens t := by
  cases t with
  | nil => rfl
  | cons c t =>
      by_cases blank : isBlank c = true
      · rw [tokens_of_first? (first?_of_blank blank), List.dropWhile_cons_of_pos blank]
        cases tokens (t.dropWhile isBlank) <;> rfl
      · rw [List.dropWhile_cons_of_neg blank]

theorem tokens_cons_blank {c : Char} (t : Text) (blank : isBlank c = true) :
    tokens (c :: t) = tokens t := by
  rw [← tokens_dropWhile, List.dropWhile_cons_of_pos blank, tokens_dropWhile]

theorem tokens_cons_mark {c : Char} (t : Text) (mark : isMark c = true) :
    tokens (c :: t) = (tokens t).map (⟨.mark, [c]⟩ :: ·) := by
  rw [tokens_of_first? (first?_of_mark mark)]
  rfl

end PhpHooks.Lexeme
