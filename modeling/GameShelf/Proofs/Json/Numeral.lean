import GameShelf.Json.Numeral
import GameShelf.Proofs.Binary64.Shortest
import GameShelf.Proofs.Text.Digits

namespace GameShelf.Numeral

/-- A numeral that is written by the rules of the format. -/
structure IsProper (n : Numeral) : Prop where
  whole : isWhole n.whole = true
  fraction (c : Char) (member : c ∈ n.fraction) : c.isDigit = true

theorem IsProper.digits {n : Numeral} (proper : n.IsProper) :
    n.whole ≠ [] ∧ ∀ c ∈ n.whole, c.isDigit = true := by
  have whole := proper.whole
  rw [isWhole, Bool.and_eq_true, isDigits_iff] at whole
  exact whole.1

/-- What follows a number must not carry it on. -/
def Stops (rest : List Char) : Prop :=
  ∀ c ∈ rest.head?, c.isDigit = false ∧ c ≠ '.' ∧ c.toLower ≠ 'e'

theorem Stops.nil : Stops [] :=
  nofun

theorem Stops.cons {c : Char} (mark : c.isDigit = false ∧ c ≠ '.' ∧ c.toLower ≠ 'e')
    (rest : List Char) : Stops (c :: rest) := by
  rintro _ ⟨⟩
  exact mark

/-- The text of the exponent, if there is one. -/
def exponentPart (e : Option Int) : List Char :=
  (e.map exponentText).getD []

theorem readExponent?_exponentPart (e : Option Int) {rest : List Char} (stops : Stops rest) :
    readExponent? (exponentPart e ++ rest) = some (e, rest) := by
  cases e with
  | none =>
    cases rest with
    | nil => rfl
    | cons c rest =>
      have noLetter : c.toLower ≠ 'e' := (stops c rfl).2.2
      simp [exponentPart, readExponent?, noLetter]
  | some e =>
    obtain ⟨taken, left⟩ :=
      span_digits (toDigits_all e.natAbs) (fun c first => (stops c first).1)
    have nonempty : (Nat.toDigits 10 e.natAbs).isEmpty = false := by
      simp [Nat.toDigits_ne_nil]
    have letter : 'e'.toLower = 'e' := by decide
    by_cases negative : e < 0
    · simp [exponentPart, exponentText, readExponent?, letter, negative, Decimal.splitSign, taken,
        left, nonempty, digitsValue_toDigits, abs_of_neg negative]
    · simp [exponentPart, exponentText, readExponent?, letter, negative, Decimal.splitSign, taken,
        left, nonempty, digitsValue_toDigits, abs_of_nonneg (not_lt.mp negative)]

theorem head_exponentPart (e : Option Int) {rest : List Char} (stops : Stops rest) :
    ∀ c ∈ (exponentPart e ++ rest).head?, c.isDigit = false ∧ c ≠ '.' := by
  cases e with
  | none => exact fun c first => ⟨(stops c first).1, (stops c first).2.1⟩
  | some e =>
    rintro c ⟨⟩
    decide

/-- The text of the fraction, if there is one. -/
def fractionPart (fraction : List Char) : List Char :=
  if fraction.isEmpty then [] else '.' :: fraction

theorem readFraction?_fractionPart {fraction tail : List Char}
    (all : ∀ c ∈ fraction, c.isDigit = true)
    (stop : ∀ c ∈ tail.head?, c.isDigit = false ∧ c ≠ '.') :
    readFraction? (fractionPart fraction ++ tail) = some (fraction, tail) := by
  cases fraction with
  | nil =>
    cases tail with
    | nil => rfl
    | cons c tail =>
      have noPoint : c ≠ '.' := (stop c rfl).2
      simp [fractionPart, readFraction?, noPoint]
  | cons digit digits =>
    obtain ⟨taken, left⟩ := span_digits all (fun c first => (stop c first).1)
    have written : fractionPart (digit :: digits) = '.' :: digit :: digits := rfl
    simp only [written, List.cons_append, readFraction?]
    rw [List.cons_append] at taken left
    simp [taken, left]

theorem head_fractionPart (fraction : List Char) {tail : List Char}
    (stop : ∀ c ∈ tail.head?, c.isDigit = false) :
    ∀ c ∈ (fractionPart fraction ++ tail).head?, c.isDigit = false := by
  cases fraction with
  | nil => exact stop
  | cons digit digits =>
    rintro c ⟨⟩
    decide

theorem readMinus_of_digit (negative : Bool) {c : Char} (digit : c.isDigit = true)
    (rest : List Char) :
    readMinus ((if negative then ['-'] else []) ++ c :: rest) = (negative, c :: rest) := by
  cases negative with
  | true => rfl
  | false =>
    have noMinus : c ≠ '-' := by
      rintro rfl
      cases digit
    simp [readMinus, noMinus]

theorem text_eq (n : Numeral) (rest : List Char) :
    n.text ++ rest = (if n.negative then ['-'] else []) ++
      (n.whole ++ (fractionPart n.fraction ++ (exponentPart n.exponent ++ rest))) := by
  simp [text, fractionPart, exponentPart, List.append_assoc]

/-- The characters that a number may begin with. -/
def Begins (c : Char) : Prop :=
  c = '-' ∨ c.isDigit = true

theorem exists_cons_text {n : Numeral} (proper : n.IsProper) :
    ∃ first body, n.text = first :: body ∧ Begins first := by
  obtain ⟨nonempty, all⟩ := proper.digits
  obtain ⟨first, tail, shape⟩ := List.exists_cons_of_ne_nil nonempty
  rw [text, shape]
  cases n.negative with
  | true => exact ⟨'-', _, rfl, Or.inl rfl⟩
  | false => exact ⟨first, _, rfl, Or.inr (all first (by rw [shape]; exact List.mem_cons_self))⟩

theorem read?_text {n : Numeral} (proper : n.IsProper) {rest : List Char} (stops : Stops rest) :
    read? (n.text ++ rest) = some (n, rest) := by
  have head := head_exponentPart n.exponent stops
  have fraction := readFraction?_fractionPart proper.fraction head
  have stop := head_fractionPart n.fraction fun c first => (head c first).1
  obtain ⟨nonempty, digits⟩ := proper.digits
  obtain ⟨taken, left⟩ := span_digits digits stop
  obtain ⟨first, tail, shape⟩ := List.exists_cons_of_ne_nil nonempty
  have sign : readMinus (n.text ++ rest) = (n.negative,
      n.whole ++ (fractionPart n.fraction ++ (exponentPart n.exponent ++ rest))) := by
    rw [text_eq, shape, List.cons_append]
    exact readMinus_of_digit n.negative (digits first (by rw [shape]; exact List.mem_cons_self)) _
  simp only [read?, sign, taken, left, proper.whole, fraction, Bool.not_true, Bool.false_eq_true,
    if_false, readExponent?_exponentPart n.exponent stops, Option.map_some]

theorem isWhole_cons {first : Char} {tail : List Char}
    (all : ∀ c ∈ first :: tail, c.isDigit = true) (start : tail = [] ∨ first ≠ '0') :
    isWhole (first :: tail) = true := by
  have digits : isDigits (first :: tail) = true := isDigits_iff.mpr ⟨List.cons_ne_nil _ _, all⟩
  rcases start with rfl | nonzero
  · simp [isWhole, digits]
  · simp [isWhole, digits, nonzero]

theorem isProper_ofInt (n : Int) : (ofInt n).IsProper := by
  refine ⟨?_, nofun⟩
  have all := toDigits_all n.natAbs
  rw [ofInt]
  rcases Nat.eq_zero_or_pos n.natAbs with zero | positive
  · rw [zero]
    exact (by decide : isWhole ['0'] = true)
  · obtain ⟨first, tail, shape, nonzero⟩ := head_toDigits positive
    rw [shape] at all ⊢
    exact isWhole_cons all (Or.inr nonzero)

section Place

variable {first : Char} {tail : List Char} (all : ∀ c ∈ first :: tail, c.isDigit = true)
  (nonzero : first ≠ '0') (negative : Bool) (point : Int)

include all nonzero

theorem isProper_place : (place negative (first :: tail) point).IsProper := by
  have zeros (n : Nat) : ∀ c ∈ List.replicate n '0', c.isDigit = true := by
    intro c member
    rw [List.eq_of_mem_replicate member]
    decide
  simp only [place]
  split
  · refine ⟨?_, by simp⟩
    rw [List.cons_append]
    refine isWhole_cons (fun c member => ?_) (Or.inr nonzero)
    rw [← List.cons_append, List.mem_append] at member
    exact member.elim (all c) (zeros _ c)
  · split
    case isTrue _ inside =>
      simp only [Bool.and_eq_true, decide_eq_true_eq] at inside
      obtain ⟨before, same⟩ := Nat.exists_eq_add_one.mpr (show 0 < point.toNat by omega)
      rw [same, List.take_succ_cons]
      refine ⟨isWhole_cons (fun c member => all c ?_) (Or.inr nonzero), fun c member => ?_⟩
      · rw [← List.take_succ_cons] at member
        exact List.mem_of_mem_take member
      · exact all c (List.mem_of_mem_drop member)
    · split
      · refine ⟨(by decide : isWhole ['0'] = true), fun c member => ?_⟩
        exact (List.mem_append.mp member).elim (zeros _ c) (all c)
      · refine ⟨isWhole_cons (fun c member => all c ?_) (Or.inr nonzero), fun c member => ?_⟩
        · exact List.mem_of_mem_take (show c ∈ (first :: tail).take 1 from member)
        · exact all c (List.mem_of_mem_drop member)

end Place

/-- The number that is placed is the one of the digits. Zeros are added to it only in front of the
point, and one behind. -/
theorem toDecimal_place (negative : Bool) {digits : List Char} (nonempty : digits ≠ [])
    (point : Int) :
    ∃ zeros : Nat, (zeros = 0 ∨ digits.length + zeros ≤ 17) ∧
      (place negative digits point).toDecimal =
        ⟨negative, digitsValue digits * 10 ^ zeros, point - digits.length - zeros⟩ := by
  have size : 0 < digits.length := List.length_pos_iff.mpr nonempty
  simp only [place]
  split
  case isTrue outside =>
    simp only [Bool.and_eq_true, decide_eq_true_eq] at outside
    refine ⟨(point - digits.length).toNat + 1, Or.inr (by omega), ?_⟩
    have padded :
        digitsValue (digits ++ List.replicate (point - digits.length).toNat '0' ++ ['0']) =
          digitsValue digits * 10 ^ ((point - digits.length).toNat + 1) := by
      rw [List.append_assoc, ← List.replicate_succ', digitsValue_append,
        digitsValue_replicate_zero, List.length_replicate, Nat.add_zero]
    simp only [toDecimal, padded, Option.getD_none, List.length_singleton, Decimal.mk.injEq,
      true_and]
    omega
  case isFalse before =>
    refine ⟨0, Or.inl rfl, ?_⟩
    rw [Nat.pow_zero, Nat.mul_one]
    simp only [Bool.and_eq_true, decide_eq_true_eq] at before
    split
    case isTrue inside =>
      simp only [Bool.and_eq_true, decide_eq_true_eq] at inside
      simp only [toDecimal, List.take_append_drop, Option.getD_none, List.length_drop,
        Decimal.mk.injEq, true_and]
      omega
    case isFalse _ =>
      split
      case isTrue behind =>
        simp only [Bool.and_eq_true, decide_eq_true_eq] at behind
        have padded : digitsValue (['0'] ++ (List.replicate (-point).toNat '0' ++ digits)) =
            digitsValue digits := by
          have zero : digitsValue ['0'] = 0 := by decide
          rw [digitsValue_append, digitsValue_append, digitsValue_replicate_zero, zero,
            Nat.zero_mul, Nat.zero_mul, Nat.zero_add, Nat.zero_add]
        simp only [toDecimal, padded, Option.getD_none, List.length_append, List.length_replicate,
          Decimal.mk.injEq, true_and]
        omega
      case isFalse _ =>
        simp only [toDecimal, List.take_append_drop, Option.getD_some, List.length_drop,
          Decimal.mk.injEq, true_and]
        omega

/-- The numeral of a double other than zero is that of its shortest decimal. -/
theorem ofFinite_eq {x : Binary64} (nonzero : 0 < x.magnitude) :
    ∃ first tail, Nat.toDigits 10 x.shortest.coefficient = first :: tail ∧ first ≠ '0' ∧
      ofFinite x =
        place x.negative (first :: tail) ((first :: tail).length + x.shortest.exponent) := by
  obtain ⟨-, positive, -, -⟩ := Binary64.shortest_spec nonzero
  obtain ⟨first, tail, shape, leading⟩ := head_toDigits positive
  refine ⟨first, tail, shape, leading, ?_⟩
  rw [ofFinite, if_neg (Nat.pos_iff_ne_zero.mp nonzero), ← shape]

theorem ofFinite_zero {x : Binary64} (zero : x.magnitude = 0) :
    ofFinite x = ⟨x.negative, ['0'], ['0'], none⟩ := by
  rw [ofFinite, if_pos zero]

theorem isProper_ofFinite (x : Binary64) : (ofFinite x).IsProper := by
  rcases Nat.eq_zero_or_pos x.magnitude with zero | nonzero
  · rw [ofFinite_zero zero]
    exact ⟨(by decide : isWhole ['0'] = true), List.forall_mem_singleton.mpr (by decide)⟩
  · obtain ⟨first, tail, shape, leading, placed⟩ := ofFinite_eq nonzero
    have all := toDigits_all x.shortest.coefficient
    rw [shape] at all
    rw [placed]
    exact isProper_place all leading x.negative _

/-- The numeral of a double other than zero denotes its shortest decimal, perhaps with zeros after
its digits. They are not too many for a word of 64 bits. -/
theorem toDecimal_ofFinite {x : Binary64} (nonzero : 0 < x.magnitude) :
    ∃ zeros : Nat, (ofFinite x).toDecimal =
        ⟨x.negative, x.shortest.coefficient * 10 ^ zeros, x.shortest.exponent - zeros⟩ ∧
      x.shortest.coefficient * 10 ^ zeros < UInt64.size := by
  obtain ⟨-, -, bound, -⟩ := Binary64.shortest_spec nonzero
  obtain ⟨first, tail, shape, -, placed⟩ := ofFinite_eq nonzero
  obtain ⟨zeros, few, value⟩ := toDecimal_place x.negative (List.cons_ne_nil first tail)
    ((first :: tail).length + x.shortest.exponent)
  rw [← shape, digitsValue_toDigits, shape] at value
  refine ⟨zeros, ?_, ?_⟩
  · rw [placed, value]
    simp only [Decimal.mk.injEq, true_and]
    omega
  · rcases few with rfl | short
    · simp only [UInt64.size]
      omega
    · have digits : x.shortest.coefficient < 10 ^ (first :: tail).length := by
        rw [← shape]
        exact (Nat.length_toDigits_le_iff (by decide) Nat.length_toDigits_pos).mp (Nat.le_refl _)
      calc x.shortest.coefficient * 10 ^ zeros
          < 10 ^ (first :: tail).length * 10 ^ zeros :=
            Nat.mul_lt_mul_of_pos_right digits (Nat.pow_pos (by decide))
        _ = 10 ^ ((first :: tail).length + zeros) := (Nat.pow_add 10 _ _).symm
        _ ≤ 10 ^ 17 := Nat.pow_le_pow_right (by decide) short
        _ < UInt64.size := by decide

/-- What the numeral of a double says of the double it is written for. -/
theorem ofFinite_spec (x : Binary64) :
    (ofFinite x).negative = x.negative ∧ (ofFinite x).toDecimal.coefficient < UInt64.size ∧
      Binary64.Nearest x.magnitude
        ((ofFinite x).toDecimal.coefficient * (Binary64.tenTo (ofFinite x).toDecimal.exponent).1 *
          Binary64.unitsPerOne)
        (Binary64.tenTo (ofFinite x).toDecimal.exponent).2 := by
  rcases Nat.eq_zero_or_pos x.magnitude with zero | nonzero
  · have coefficient : (ofFinite x).toDecimal.coefficient = 0 := by
      rw [ofFinite_zero zero]
      exact (by decide : digitsValue (['0'] ++ ['0']) = 0)
    have nothing := Binary64.nearest_unitsOf 0 _
      (Binary64.tenTo_pos (ofFinite x).toDecimal.exponent).2
    rw [Binary64.unitsOf_of_lt Binary64.fractionCount_pos, Nat.zero_mul] at nothing
    refine ⟨by rw [ofFinite_zero zero], by rw [coefficient]; decide, ?_⟩
    rwa [coefficient, zero, Nat.zero_mul, Nat.zero_mul]
  · obtain ⟨-, -, -, nearest⟩ := Binary64.shortest_spec nonzero
    obtain ⟨zeros, value, small⟩ := toDecimal_ofFinite nonzero
    have sign : (ofFinite x).negative = x.negative := congrArg Decimal.negative value
    refine ⟨sign, by rwa [value], ?_⟩
    rw [value]
    refine nearest.of_same_value (Binary64.tenTo_pos _).2 (Binary64.tenTo_pos _).2 ?_
    have shifted := Binary64.tenTo_zeros x.shortest.exponent zeros
    calc x.shortest.coefficient * (Binary64.tenTo x.shortest.exponent).1 * Binary64.unitsPerOne *
          (Binary64.tenTo (x.shortest.exponent - zeros)).2
        = x.shortest.coefficient * ((Binary64.tenTo x.shortest.exponent).1 *
            (Binary64.tenTo (x.shortest.exponent - zeros)).2) * Binary64.unitsPerOne := by ring
      _ = x.shortest.coefficient * 10 ^ zeros * (Binary64.tenTo (x.shortest.exponent - zeros)).1 *
            Binary64.unitsPerOne * (Binary64.tenTo x.shortest.exponent).2 := by
          rw [← shifted]
          ring

end GameShelf.Numeral
