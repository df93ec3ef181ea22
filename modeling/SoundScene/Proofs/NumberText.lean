import SoundScene.Proofs.Literals

/-!
Numbers that are written and read again.  The reader of numbers takes the text of a literal to the
literal (`readUnsigned_chars`), so a number that is written is read as the same number, whatever
stands behind it (`readNumber_chars`).
-/

namespace SoundScene.Json

open Text (Symbol numeral digitsOf)

/-- Reading succeeds with the value and stops at the rest. -/
def Reads {α : Type} {start : Cursor} (outcome : Except Fault (Parsed α start)) (value : α)
    (rest : List Symbol) : Prop :=
  ∃ parsed, outcome = .ok parsed ∧ parsed.value = value ∧ parsed.next.rest = rest

def Keeps {α : Type} {start : Cursor} (outcome : Except Fault (Kept α start)) (value : α)
    (rest : List Symbol) : Prop :=
  ∃ kept, outcome = .ok kept ∧ kept.value = value ∧ kept.next.rest = rest

/-- What may stand behind a number: nothing that it could go on with. -/
def Ends (rest : List Symbol) : Prop :=
  ∀ symbol ∈ rest.head?, Cursor.isDigit symbol = false ∧ symbol ≠ .char '.' ∧
    symbol ≠ .char 'e' ∧ symbol ≠ .char 'E'

theorem Cursor.exists_place {start : Cursor} {symbols : List Symbol} (held : start.rest = symbols) :
    ∃ place, start = ⟨symbols, place⟩ :=
  ⟨start.place, held ▸ rfl⟩

theorem spanDigitsFrom_append {digits : List Char} (digital : ∀ c ∈ digits, c.isDigit = true)
    {rest : List Symbol} (stops : ∀ symbol ∈ rest.head?, Cursor.isDigit symbol = false)
    (place : Place) :
    ∃ stop, Cursor.spanDigitsFrom (digits.map .char ++ rest) place = (digits, ⟨rest, stop⟩) := by
  induction digits generalizing place with
  | nil =>
      refine ⟨place, ?_⟩
      cases rest with
      | nil => rfl
      | cons symbol rest =>
          have stop := stops symbol rfl
          cases symbol with
          | char c =>
              simp only [Cursor.isDigit] at stop
              simp [Cursor.spanDigitsFrom, stop]
          | stray byte => rfl
  | cons first rest ih =>
      have digit := digital first (by simp)
      obtain ⟨stop, spans⟩ := ih (fun c member => digital c (by simp [member]))
        (place.after (.char first))
      exact ⟨stop, by simp [Cursor.spanDigitsFrom, digit, spans]⟩

theorem spanDigits_append {start : Cursor} {digits : List Char} {rest : List Symbol}
    (held : start.rest = digits.map .char ++ rest) (digital : ∀ c ∈ digits, c.isDigit = true)
    (stops : ∀ symbol ∈ rest.head?, Cursor.isDigit symbol = false) :
    start.spanDigits.1 = digits ∧ start.spanDigits.2.rest = rest := by
  obtain ⟨stop, spans⟩ := spanDigitsFrom_append digital stops start.place
  rw [Cursor.spanDigits, held, spans]
  exact ⟨rfl, rfl⟩

theorem readWhole_append {start : Cursor} {whole : List Char} {rest : List Symbol}
    (held : start.rest = whole.map .char ++ rest) (digital : ∀ c ∈ whole, c.isDigit = true)
    (leading : whole = ['0'] ∨ ∃ first more, whole = first :: more ∧ first ≠ '0')
    (stops : ∀ symbol ∈ rest.head?, Cursor.isDigit symbol = false) :
    Reads (readWhole start) whole rest := by
  obtain ⟨place, rfl⟩ := Cursor.exists_place held
  rcases leading with rfl | ⟨first, more, rfl, nonzero⟩
  · have alone : (rest.head?.any Cursor.isDigit) = false := by
      cases rest with
      | nil => rfl
      | cons symbol rest => simpa using stops symbol rfl
    refine ⟨.piece ['0'] rfl, if_neg ?_, rfl, rfl⟩
    change ¬ rest.head?.any Cursor.isDigit = true
    simp [alone]
  · have digit := digital first (by simp)
    have different : Symbol.char first ≠ .char '0' := fun same => nonzero (Symbol.char.inj same)
    let next : Cursor := ⟨more.map .char ++ rest, place.after (.char first)⟩
    obtain ⟨spans, stop⟩ := @spanDigits_append next more rest rfl
      (fun c member => digital c (by simp [member])) stops
    refine ⟨_, (if_neg different).trans (if_pos digit), ?_, stop⟩
    exact congrArg (first :: ·) spans

theorem readFraction_some {start : Cursor} {digits : List Char} {rest : List Symbol}
    (held : start.rest = .char '.' :: (digits.map .char ++ rest)) (some : digits ≠ [])
    (digital : ∀ c ∈ digits, c.isDigit = true)
    (stops : ∀ symbol ∈ rest.head?, Cursor.isDigit symbol = false) :
    Keeps (readFraction start) (.some digits) rest := by
  obtain ⟨place, rfl⟩ := Cursor.exists_place held
  let next : Cursor := ⟨digits.map .char ++ rest, place.after (.char '.')⟩
  obtain ⟨spans, stop⟩ := @spanDigits_append next digits rest rfl digital stops
  have started : (Symbol.char '.' :: (digits.map .char ++ rest)).head? = .some (.char '.') := rfl
  have full : next.spanDigits.1 ≠ [] := spans ▸ some
  refine ⟨_, (if_pos started).trans (if_neg full), ?_, stop⟩
  exact congrArg Option.some spans

theorem readFraction_none {start : Cursor} (other : start.rest.head? ≠ some (.char '.')) :
    Keeps (readFraction start) none start.rest :=
  ⟨_, if_neg other, rfl, rfl⟩

theorem overflowPlace?_eq_none {digits : List Char} {value : Nat} {place : Place}
    (bounded : Nat.ofDigitChars 10 digits value ≤ exponentLimit) :
    overflowPlace? value digits place = none := by
  induction digits generalizing value place with
  | nil => rfl
  | cons first rest ih =>
      rw [Nat.ofDigitChars_cons, Nat.mul_comm] at bounded
      have grows : Nat.ofDigitChars 10 rest (value * 10 + (first.toNat - '0'.toNat)) =
          10 ^ rest.length * (value * 10 + (first.toNat - '0'.toNat)) +
            Nat.ofDigitChars 10 rest 0 := Nat.ofDigitChars_eq_ofDigitChars_zero
      have least := Nat.le_mul_of_pos_left (value * 10 + (first.toNat - '0'.toNat))
        (Nat.pow_pos (n := rest.length) (show 0 < 10 by decide))
      have small : ¬ exponentLimit < value * 10 + Text.digitValue first := by
        rw [Text.digitValue]
        omega
      exact (if_neg small).trans (ih bounded)

theorem readSign_next {start : Cursor} (negative : Bool) {rest : List Symbol}
    (held : start.rest = .char (if negative then '-' else '+') :: rest) :
    (readSign start).value = negative ∧ (readSign start).next.rest = rest := by
  obtain ⟨place, rfl⟩ := Cursor.exists_place held
  cases negative <;> exact ⟨rfl, rfl⟩

theorem readExponent_some {start : Cursor} {exponent : Int} {rest : List Symbol} (zero : Bool)
    (held : start.rest = .char 'e' :: .char (if exponent < 0 then '-' else '+') ::
      ((digitsOf exponent.natAbs).map .char ++ rest))
    (bounded : exponent.natAbs ≤ exponentLimit)
    (stops : ∀ symbol ∈ rest.head?, Cursor.isDigit symbol = false) :
    Keeps (readExponent zero start) (some exponent) rest := by
  obtain ⟨place, rfl⟩ := Cursor.exists_place held
  let next : Cursor := ⟨.char (if exponent < 0 then '-' else '+') ::
    ((digitsOf exponent.natAbs).map .char ++ rest), place.after (.char 'e')⟩
  obtain ⟨sign, behind⟩ := @readSign_next next (decide (exponent < 0))
    ((digitsOf exponent.natAbs).map .char ++ rest) (by simp [next])
  obtain ⟨spans, stop⟩ := spanDigits_append behind
    (fun c member => Text.isDigit_of_mem_digitsOf member) stops
  have full : (readSign next).next.spanDigits.1 ≠ [] := by
    rw [spans]
    exact Nat.toDigits_ne_nil
  have fits : overflowPlace? 0 (readSign next).next.spanDigits.1 (readSign next).next.place =
      none := by
    rw [spans]
    refine overflowPlace?_eq_none ?_
    change numeral (digitsOf exponent.natAbs) ≤ exponentLimit
    rwa [Text.numeral_digitsOf]
  have value : (if (readSign next).value then
      -(numeral (readSign next).next.spanDigits.1 : Int)
      else numeral (readSign next).next.spanDigits.1) = exponent := by
    rw [sign, spans, Text.numeral_digitsOf]
    simp only [decide_eq_true_eq]
    split <;> omega
  let ended (written : Int) : Kept (Option Int) ⟨.char 'e' :: next.rest, place⟩ :=
    ((readSign next).andThen (.reached (.some written) (readSign next).next.pastDigits)).ofAdvance
  refine ⟨ended exponent, (if_pos rfl).trans ((if_neg full).trans ?_), rfl, stop⟩
  dsimp only
  split
  · rename_i overflow
    cases overflow.symm.trans fits
  · exact congrArg (fun written => Except.ok (ended written)) value

theorem readExponent_none {start : Cursor} (zero : Bool) (other : startsExponent start = false) :
    Keeps (readExponent zero start) none start.rest :=
  ⟨_, if_neg (by simp [other]), rfl, rfl⟩

theorem readFraction_chars {start : Cursor} {fraction : Option (List Char)} {rest : List Symbol}
    (held : start.rest = (Literal.fractionChars fraction).map .char ++ rest)
    (some : fraction ≠ .some []) (digital : ∀ c ∈ fraction.getD [], c.isDigit = true)
    (stops : ∀ symbol ∈ rest.head?, Cursor.isDigit symbol = false ∧ symbol ≠ .char '.') :
    Keeps (readFraction start) fraction rest := by
  cases fraction with
  | none =>
      have same : start.rest = rest := held
      rw [← same]
      apply readFraction_none
      intro point
      rw [same] at point
      exact (stops _ point).2 rfl
  | some digits =>
      exact readFraction_some held (fun empty => some (congrArg Option.some empty)) digital
        fun symbol first => (stops symbol first).1

theorem readExponent_chars {start : Cursor} {exponent : Option Int} {rest : List Symbol}
    (zero : Bool) (held : start.rest = (Literal.exponentChars exponent).map .char ++ rest)
    (bounded : ∀ written, exponent = some written → written.natAbs ≤ exponentLimit)
    (ends : Ends rest) : Keeps (readExponent zero start) exponent rest := by
  cases exponent with
  | none =>
      have same : start.rest = rest := held
      rw [← same]
      refine readExponent_none zero ?_
      rw [startsExponent, same, Bool.or_eq_false_iff, decide_eq_false_iff_not,
        decide_eq_false_iff_not]
      exact ⟨fun small => (ends _ small).2.2.1 rfl, fun large => (ends _ large).2.2.2 rfl⟩
  | some written =>
      exact readExponent_some zero held (bounded written rfl) fun symbol first =>
        (ends symbol first).1

theorem head?_fractionChars_append {fraction : Option (List Char)} {rest : List Symbol}
    (stops : ∀ symbol ∈ rest.head?, Cursor.isDigit symbol = false) :
    ∀ symbol ∈ ((Literal.fractionChars fraction).map Symbol.char ++ rest).head?,
      Cursor.isDigit symbol = false := by
  cases fraction with
  | none => exact stops
  | some digits =>
      rintro symbol ⟨⟩
      rfl

theorem head?_exponentChars_append {exponent : Option Int} {rest : List Symbol} (ends : Ends rest) :
    ∀ symbol ∈ ((Literal.exponentChars exponent).map Symbol.char ++ rest).head?,
      Cursor.isDigit symbol = false ∧ symbol ≠ .char '.' := by
  cases exponent with
  | none => exact fun symbol first => ⟨(ends symbol first).1, (ends symbol first).2.1⟩
  | some written =>
      rintro symbol ⟨⟩
      exact ⟨rfl, by simp⟩

theorem readUnsigned_chars {start : Cursor} {literal : Literal} (plain : literal.Plain)
    (finite : literal.toFloat.isFinite = true) {rest : List Symbol} (ends : Ends rest)
    (held : start.rest = literal.chars.map .char ++ rest) :
    Reads (readUnsigned literal.negative start) literal rest := by
  have exponentHead := @head?_exponentChars_append literal.exponent rest ends
  have fractionHead := @head?_fractionChars_append literal.fraction _
    fun symbol first => (exponentHead symbol first).1
  rw [Literal.chars, List.map_append, List.map_append, List.append_assoc, List.append_assoc] at held
  have digital := plain.digital
  simp only [Literal.row, List.mem_append] at digital
  obtain ⟨whole, readsWhole, wholeValue, wholeRest⟩ :=
    readWhole_append held (fun c member => digital c (.inl member)) plain.leading fractionHead
  obtain ⟨fraction, readsFraction, fractionValue, fractionRest⟩ :=
    readFraction_chars wholeRest plain.fraction (fun c member => digital c (.inr member)) exponentHead
  obtain ⟨exponent, readsExponent, exponentValue, exponentRest⟩ :=
    readExponent_chars ((whole.value ++ fraction.value.getD []).all (· = '0')) fractionRest
      plain.exponent ends
  have same : Literal.mk literal.negative whole.value fraction.value exponent.value = literal := by
    rw [wholeValue, fractionValue, exponentValue]
  refine ⟨(whole.map fun _ => Literal.mk literal.negative whole.value fraction.value
    exponent.value).goTo (fraction.andThen exponent).onward, ?_, same, exponentRest⟩
  simp only [readUnsigned, readsWhole, readsFraction, readsExponent, bind, Except.bind, same]
  rw [if_pos finite]
  rfl

def Literal.signedChars (literal : Literal) : List Char :=
  if literal.negative then '-' :: literal.chars else literal.chars

theorem Literal.Plain.head_ne_minus {literal : Literal} (plain : literal.Plain) {rest : List Symbol} :
    (literal.chars.map Symbol.char ++ rest).head? ≠ some (.char '-') := by
  have digital := plain.digital
  have minus (first : Char) (more : List Char) (whole : literal.whole = first :: more) :
      (literal.chars.map Symbol.char ++ rest).head? ≠ some (.char '-') := by
    have digit := digital first (by simp [Literal.row, whole])
    simp only [Literal.chars, whole, List.cons_append, List.map_cons, List.head?_cons, ne_eq,
      Option.some.injEq, Symbol.char.injEq]
    rintro rfl
    cases digit
  rcases plain.leading with whole | ⟨first, more, whole, _⟩
  · exact minus _ _ whole
  · exact minus _ _ whole

theorem readNumber_signedChars {start : Cursor} {literal : Literal} (plain : literal.Plain)
    (finite : literal.toFloat.isFinite = true) {rest : List Symbol} (ends : Ends rest)
    (held : start.rest = literal.signedChars.map .char ++ rest) :
    Reads (readNumber start) literal.toNumber rest := by
  cases sign : literal.negative with
  | true =>
      rw [Literal.signedChars, if_pos sign] at held
      obtain ⟨place, rfl⟩ := Cursor.exists_place held
      let next : Cursor := ⟨literal.chars.map .char ++ rest, place.after (.char '-')⟩
      obtain ⟨parsed, reads, value, stop⟩ := @readUnsigned_chars next literal plain finite rest ends rfl
      rw [sign] at reads
      let signed (parsed : Parsed Literal next) : Parsed Number ⟨.char '-' :: next.rest, place⟩ :=
        .ofAdvance (parsed.map Literal.toNumber)
      refine ⟨signed parsed, (if_pos rfl).trans ?_, congrArg Literal.toNumber value, stop⟩
      change (readUnsigned true next >>= fun parsed => pure (signed parsed)) = _
      rw [reads]
      rfl
  | false =>
      rw [Literal.signedChars, if_neg (by simp [sign])] at held
      obtain ⟨parsed, reads, value, stop⟩ := readUnsigned_chars plain finite ends held
      rw [sign] at reads
      have minus : ¬ start.rest.head? = some (.char '-') := by
        rw [held]
        exact plain.head_ne_minus
      refine ⟨parsed.map Literal.toNumber, (if_neg minus).trans ?_,
        congrArg Literal.toNumber value, stop⟩
      rw [reads]
      rfl

def Literal.ofInt (n : Int) : Literal := ⟨n < 0, digitsOf n.natAbs, none, none⟩

/-- The numbers that have a text of their own. -/
def Number.Plain : Number → Prop
  | .int n => -2 ^ 63 ≤ n ∧ n < 2 ^ 64
  | .real x => x.isFinite = true

theorem signedChars_ofInt (n : Int) : (Literal.ofInt n).signedChars = intChars n := by
  cases n with
  | ofNat n => simp [Literal.ofInt, Literal.signedChars, Literal.chars, Literal.fractionChars,
      Literal.exponentChars, intChars]
  | negSucc n => simp [Literal.ofInt, Literal.signedChars, Literal.chars, Literal.fractionChars,
      Literal.exponentChars, intChars, Int.negSucc_lt_zero, Int.natAbs_negSucc]

theorem toNumber_ofInt {n : Int} (plain : (Number.int n).Plain) :
    (Literal.ofInt n).toNumber = .int n := by
  obtain ⟨low, high⟩ := plain
  have read : (Literal.ofInt n).toInt? = some n := by
    simp only [Literal.toInt?, Literal.ofInt, Text.numeral_digitsOf, Option.isSome_none,
      Bool.false_eq_true, or_self, ↓reduceIte, decide_eq_true_eq, Nat.pow_eq]
    split
    · rw [if_neg (by omega)]
      exact congrArg some (by omega)
    · rw [if_pos (by omega)]
      exact congrArg some (by omega)
  rw [Literal.toNumber, read]

theorem plain_ofInt (n : Int) : (Literal.ofInt n).Plain where
  digital := by
    intro c member
    exact Text.isDigit_of_mem_digitsOf (by simpa [Literal.row, Literal.ofInt] using member)
  leading := by
    rcases Nat.eq_zero_or_pos n.natAbs with zero | pos
    · exact .inl (congrArg digitsOf zero)
    · exact .inr (Text.digitsOf_head pos)
  fraction := nofun
  exponent := nofun

theorem finite_ofInt {n : Int} (plain : (Number.int n).Plain) :
    (Literal.ofInt n).toFloat.isFinite = true := by
  obtain ⟨low, high⟩ := plain
  have row : numeral (Literal.ofInt n).row = n.natAbs := by
    simp only [Literal.row, Literal.ofInt, Option.getD_none, List.append_nil, Text.numeral_digitsOf]
  have small : n.natAbs ≤ 2 ^ 64 := by omega
  have short : numeral (Literal.ofInt n).row < 10 ^ Literal.digitLimit := by
    rw [row]
    exact Nat.lt_of_le_of_lt small (by decide +kernel)
  have finite : (Literal.ofInt n).decimal.toFloat.isFinite = true := by
    rw [Literal.toFloat_decimal _ (plain_ofInt n).digital short, row]
    exact Decimal.isFinite_toFloat_whole (Nat.lt_of_le_of_lt small (by decide +kernel))
  rw [Literal.toFloat]
  split
  · exact Double.isFinite_neg finite
  · exact finite

theorem ofDecimal_toInt? (negative : Bool) (d : Decimal) :
    (Literal.ofDecimal negative d).toInt? = none := by
  rw [Literal.toInt?, if_pos]
  simp only [Literal.ofDecimal]
  split
  · split
    · exact .inl rfl
    · split <;> exact .inl rfl
  · exact .inr rfl

theorem exists_literal {x : Float} (finite : x.isFinite = true)
    (positive : Double.sign x = .positive) (negative : Bool) :
    ∃ literal : Literal, literal.negative = negative ∧ literal.Plain ∧
      literal.chars = sizeChars x ∧ literal.decimal.toFloat = x ∧ literal.toInt? = none := by
  rw [sizeChars]
  by_cases zero : (x == 0.0) = true
  · have empty := (Double.beq_zero_iff finite).1 zero
    rw [if_pos zero, Double.eq_zero_of_mantissa finite positive empty]
    refine ⟨⟨negative, ['0'], some ['0'], none⟩, rfl, ⟨?_, .inl rfl, by simp, nofun⟩, rfl, ?_, rfl⟩
    · simp [Literal.row]
    · exact if_pos rfl
  · have nonzero := fun empty => zero ((Double.beq_zero_iff finite).2 empty)
    have digits := Decimal.shortest_digits_ne_zero finite nonzero positive
    obtain ⟨low, high⟩ := Decimal.shortest_magnitude finite nonzero positive
    have limit : exponentLimit = 2147483647 := rfl
    have short : (Decimal.shortest x).digits < 10 ^ Literal.digitLimit := by
      rw [show Literal.digitLimit = 768 from rfl]
      exact Decimal.shortest_digits_lt finite nonzero
    rw [if_neg zero]
    refine ⟨Literal.ofDecimal negative (Decimal.shortest x), ?_,
      Literal.plain_ofDecimal negative (Nat.pos_of_ne_zero digits) (by omega),
      Literal.chars_ofDecimal .., ?_, ofDecimal_toInt? ..⟩
    · simp only [Literal.ofDecimal]
      split
      · split
        · rfl
        · split <;> rfl
      · rfl
    · rw [Literal.toFloat_ofDecimal negative short]
      exact Decimal.toFloat_shortest finite nonzero positive

theorem exists_signed_literal {x : Float} (finite : x.isFinite = true) :
    ∃ literal : Literal, literal.Plain ∧ literal.signedChars = floatChars x ∧
      literal.toFloat = x ∧ literal.toInt? = none := by
  rw [floatChars]
  by_cases negative : isNegative x = true
  · have below := (Double.isNegative_iff x).1 negative
    have above : Double.sign (-x) = .positive := by rw [Double.sign_neg finite, below]; rfl
    obtain ⟨literal, sign, plain, chars, value, real⟩ :=
      exists_literal (Double.isFinite_neg finite) above true
    rw [if_pos negative]
    refine ⟨literal, plain, ?_, ?_, real⟩
    · rw [Literal.signedChars, if_pos sign, chars]
    · rw [Literal.toFloat, if_pos sign, value, Double.neg_neg finite]
  · have above : Double.sign x = .positive := by
      cases sign : Double.sign x with
      | positive => rfl
      | negative => exact absurd ((Double.isNegative_iff x).2 sign) negative
    obtain ⟨literal, sign, plain, chars, value, real⟩ := exists_literal finite above false
    rw [if_neg negative]
    refine ⟨literal, plain, ?_, ?_, real⟩
    · rw [Literal.signedChars, if_neg (by simp [sign]), chars]
    · rw [Literal.toFloat, if_neg (by simp [sign]), value]

theorem Number.exists_literal {n : Number} (plain : n.Plain) :
    ∃ literal : Literal, literal.Plain ∧ literal.signedChars = n.chars ∧
      literal.toFloat.isFinite = true ∧ literal.toNumber = n := by
  cases n with
  | int n =>
      exact ⟨.ofInt n, plain_ofInt n, signedChars_ofInt n, finite_ofInt plain, toNumber_ofInt plain⟩
  | real x =>
      have finite : x.isFinite = true := plain
      obtain ⟨literal, plain, chars, value, real⟩ := exists_signed_literal finite
      refine ⟨literal, plain, chars, value ▸ finite, ?_⟩
      rw [Literal.toNumber, real, value]

theorem Number.chars_head {n : Number} (plain : n.Plain) :
    ∃ first more, n.chars = first :: more ∧ (first = '-' ∨ first.isDigit = true) := by
  obtain ⟨literal, plain, chars, _, _⟩ := n.exists_literal plain
  rw [← chars, Literal.signedChars]
  split
  · exact ⟨'-', _, rfl, .inl rfl⟩
  · have digital := plain.digital
    rcases plain.leading with whole | ⟨first, more, whole, _⟩
    · exact ⟨'0', _, by rw [Literal.chars, whole]; rfl, .inr rfl⟩
    · exact ⟨first, _, by rw [Literal.chars, whole]; rfl, .inr (digital first (by
        simp [Literal.row, whole]))⟩

theorem readNumber_chars {start : Cursor} {n : Number} (plain : n.Plain) {rest : List Symbol}
    (ends : Ends rest) (held : start.rest = n.chars.map .char ++ rest) :
    Reads (readNumber start) n rest := by
  obtain ⟨literal, plain, chars, finite, number⟩ := n.exists_literal plain
  rw [← chars] at held
  rw [← number]
  exact readNumber_signedChars plain finite ends held

end SoundScene.Json
