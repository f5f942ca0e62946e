import SqlLexer.Proofs.Lexeme.Longest

/-!
# The grammar of numeric literals

A numeral is a radix mark with digits of that radix, or decimal digits with an optional fraction
and an optional exponent.  The number at the head of a text is the longest numeral there.
-/

namespace SqlLexer
namespace Lexeme

/-- One or more characters of a class. -/
structure Run (condition : Char → Bool) (text : Text) : Prop where
  nonempty : text ≠ []
  all : ∀ c ∈ text, condition c

/-- A dot and digits, or nothing. -/
inductive Fraction : Text → Prop
  | absent : Fraction []
  | point {digits : Text}
      (run : Run isDigit digits) :
      Fraction ('.' :: digits)

/-- A plus, a minus or nothing. -/
inductive Sign : Text → Prop
  | absent : Sign []
  | plus : Sign ['+']
  | minus : Sign ['-']

/-- The letter `e` in either case, a sign and digits, or nothing. -/
inductive Exponent : Text → Prop
  | absent : Exponent []
  | power {mark : Char} {signed digits : Text}
      (isMark : mark = 'e' ∨ mark = 'E')
      (sign : Sign signed)
      (run : Run isDigit digits) :
      Exponent (mark :: (signed ++ digits))

/-- Decimal digits with an optional fraction and an optional exponent. -/
inductive Decimal : Text → Prop
  | parts {whole part power : Text}
      (run : Run isDigit whole)
      (fraction : Fraction part)
      (exponent : Exponent power) :
      Decimal (whole ++ (part ++ power))

/-- Numeric literals. -/
inductive Numeral : Text → Prop
  | radix {mark : Char} {radix : Radix} {digits : Text}
      (stands : Radix.ofMark? mark = some radix)
      (run : Run radix.isDigit digits) :
      Numeral ('0' :: mark :: digits)
  | decimal {text : Text}
      (decimal : Decimal text) :
      Numeral text

/-! ## What is read is a numeral -/

theorem run_takeWhile
    {condition : Char → Bool}
    {text : Text}
    (nonempty : text.takeWhile condition ≠ []) :
    Run condition (text.takeWhile condition) :=
  ⟨nonempty, fun _ => List.mem_takeWhile_imp⟩

theorem fraction_belongs (text : Text) : Fraction (fraction text) := by
  unfold fraction
  split
  · split
    · split
      · exact .absent
      · rename_i nonempty
        subst_vars
        exact .point (run_takeWhile nonempty)
    · exact .absent
  · exact .absent

theorem sign_belongs (text : Text) : Sign (sign text) := by
  unfold sign
  split
  · split
    · rename_i isSign
      rcases isSign with rfl | rfl
      · exact .plus
      · exact .minus
    · exact .absent
  · exact .absent

theorem exponent_belongs (text : Text) : Exponent (exponent text) := by
  unfold exponent
  split
  · split
    · split
      · exact .absent
      · rename_i isMark _ nonempty
        exact .power isMark (sign_belongs _) (run_takeWhile nonempty)
    · exact .absent
  · exact .absent

/-- The decimal number that is read is one of the grammar. -/
theorem decimalLiteral_belongs
    {c : Char}
    {rest : Text}
    (digit : isDigit c) :
    Decimal (decimalLiteral (c :: rest)) := by
  unfold decimalLiteral
  dsimp only
  rw [List.append_assoc]
  exact .parts (run_takeWhile (by simp [digit])) (fraction_belongs _) (exponent_belongs _)

/-- The literal that is read behind a radix mark is a number of the grammar. -/
theorem radixLiteral?_belongs
    {text literal : Text}
    (found : radixLiteral? text = some literal) :
    Numeral literal := by
  obtain ⟨mark, rest, radix, _, stands, nonempty, rfl⟩ := radixLiteral?_eq_some found
  exact .radix stands (run_takeWhile nonempty)

/-! ## No numeral is longer -/

/-- A run at the head of a text is part of what is taken there. -/
theorem Run.isPrefix_takeWhile
    {condition : Char → Bool}
    {word text : Text}
    (run : Run condition word)
    (here : word <+: text) :
    word <+: text.takeWhile condition ∧ text.takeWhile condition ≠ [] := by
  have within := SqlLexer.isPrefix_takeWhile run.all here
  exact ⟨within, fun empty => run.nonempty (List.prefix_nil.mp (empty ▸ within))⟩

/-- No fraction of the grammar at the head of a text is longer than the one that is read. -/
theorem Fraction.isPrefix
    {word text : Text}
    (isFraction : Fraction word)
    (here : word <+: text) :
    word <+: fraction text := by
  cases isFraction with
  | absent => exact List.nil_prefix
  | @point digits run =>
      obtain ⟨rest, rfl⟩ := here
      obtain ⟨within, nonempty⟩ := run.isPrefix_takeWhile (List.prefix_append digits rest)
      have taken : fraction ('.' :: digits ++ rest) =
          '.' :: (digits ++ rest).takeWhile isDigit := by
        simp only [fraction, List.cons_append, if_true]
      rw [taken]
      exact List.cons_prefix_cons.mpr ⟨rfl, within⟩

/-- The sign before a run of digits is the one that is read. -/
theorem Sign.sign_append
    {signed digits : Text}
    (isSign : Sign signed)
    (run : Run isDigit digits)
    (rest : Text) :
    sign (signed ++ (digits ++ rest)) = signed := by
  cases isSign with
  | absent =>
      obtain ⟨c, digits, rfl⟩ := List.exists_cons_of_ne_nil run.nonempty
      have digit := run.all c List.mem_cons_self
      have notPlus := ne_of_class digit '+' (by decide)
      have notMinus := ne_of_class digit '-' (by decide)
      simp [sign, notPlus, notMinus]
  | plus => rfl
  | minus => rfl

/-- No exponent of the grammar at the head of a text is longer than the one that is read. -/
theorem Exponent.isPrefix
    {word text : Text}
    (isExponent : Exponent word)
    (here : word <+: text) :
    word <+: exponent text := by
  cases isExponent with
  | absent => exact List.nil_prefix
  | @power mark signed digits isMark isSign run =>
      obtain ⟨rest, rfl⟩ := here
      obtain ⟨within, nonempty⟩ := run.isPrefix_takeWhile (List.prefix_append digits rest)
      have taken : exponent (mark :: (signed ++ digits) ++ rest) =
          mark :: (signed ++ (digits ++ rest).takeWhile isDigit) := by
        simp only [exponent, List.cons_append, List.append_assoc, isMark, if_true,
          isSign.sign_append run, List.drop_left]
      rw [taken]
      refine List.cons_prefix_cons.mpr ⟨rfl, ?_⟩
      exact (List.prefix_append_right_inj signed).mpr within

/-- Neither a fraction nor what may follow it starts with a digit. -/
theorem Fraction.head_append
    {part power : Text}
    (isFraction : Fraction part)
    (isExponent : Exponent power) :
    ∀ c ∈ (part ++ power).head?, isDigit c = false := by
  cases isFraction with
  | absent =>
      cases isExponent with
      | absent => simp
      | power isMark _ _ => rcases isMark with rfl | rfl <;> simp <;> decide
  | point _ =>
      simp only [List.cons_append, List.head?_cons, Option.mem_def, Option.some.injEq]
      rintro c rfl
      decide

/-- An exponent starts with no character of a fraction. -/
theorem Exponent.head_not_mem
    {part power : Text}
    (isExponent : Exponent power)
    (isFraction : Fraction part) :
    ∀ c ∈ part, c ∉ power.head? := by
  cases isExponent with
  | absent => simp
  | @power mark signed digits isMark _ _ =>
      have notDigit : isDigit mark = false := by
        rcases isMark with rfl | rfl <;> decide
      have notPoint : mark ≠ '.' := by
        rcases isMark with rfl | rfl <;> decide
      rintro c member isHead
      cases isHead
      cases isFraction with
      | absent => simp at member
      | point run =>
          rcases List.mem_cons.mp member with isPoint | inDigits
          · exact notPoint isPoint
          · simp [run.all mark inDigits] at notDigit

/-- No decimal number of the grammar at the head of a text is longer than the one that is read. -/
theorem Decimal.length_le
    {word text : Text}
    (decimal : Decimal word)
    (here : word <+: text) :
    word.length ≤ (decimalLiteral text).length := by
  cases decimal with
  | @parts whole part power run isFraction isExponent =>
      obtain ⟨afterWhole, splitWhole⟩ := List.takeWhile_prefix (l := text) isDigit
      obtain ⟨afterPart, splitPart⟩ := fraction_initial afterWhole
      have dropWhole : text.drop (text.takeWhile isDigit).length = afterWhole :=
        (congrArg (List.drop _) splitWhole).symm.trans List.drop_left
      have dropPart : afterWhole.drop (fraction afterWhole).length = afterPart :=
        (congrArg (List.drop _) splitPart).symm.trans List.drop_left
      rw [decimalLiteral, dropWhole, dropPart, List.append_assoc]
      have isWhole := isPrefix_takeWhile run.all ((List.prefix_append whole _).trans here)
      refine length_append_le_of_longest isWhole (splitWhole ▸ here) (fun hereAfter => ?_) ?_
      · have isPart := isFraction.isPrefix ((List.prefix_append part power).trans hereAfter)
        refine length_append_le_of_longest isPart (splitPart ▸ hereAfter) (fun herePower => ?_) ?_
        · exact (isExponent.isPrefix herePower).length_le
        · exact isExponent.head_not_mem (fraction_belongs afterWhole)
      · intro c member isHead
        have digit := List.mem_takeWhile_imp member
        simp [isFraction.head_append isExponent c isHead] at digit

/-- A radix mark starts neither digits nor a fraction nor an exponent. -/
theorem decimalLiteral_of_ofMark?
    {mark : Char}
    {radix : Radix}
    (stands : Radix.ofMark? mark = some radix)
    (rest : Text) :
    decimalLiteral ('0' :: mark :: rest) = ['0'] := by
  have isMark : mark = 'x' ∨ mark = 'X' ∨ mark = 'b' ∨ mark = 'B' ∨ mark = 'o' ∨ mark = 'O' := by
    grind [Radix.ofMark?]
  have outside : isDigit mark = false ∧ mark ≠ '.' ∧ mark ≠ 'e' ∧ mark ≠ 'E' := by
    rcases isMark with rfl | rfl | rfl | rfl | rfl | rfl <;> decide
  obtain ⟨notDigit, notPoint, notLower, notUpper⟩ := outside
  have zero : isDigit '0' := by decide
  simp [decimalLiteral, fraction, exponent, zero, notDigit, notPoint, notLower, notUpper]

theorem radixLiteral?_of_run
    {mark : Char}
    {radix : Radix}
    {digits : Text}
    (stands : Radix.ofMark? mark = some radix)
    (run : Run radix.isDigit digits)
    (rest : Text) :
    radixLiteral? ('0' :: mark :: (digits ++ rest)) =
      some ('0' :: mark :: (digits ++ rest).takeWhile radix.isDigit) := by
  obtain ⟨_, nonempty⟩ := run.isPrefix_takeWhile (List.prefix_append digits rest)
  simp only [radixLiteral?, stands, if_true]

/-- The number at the head of a text is the longest numeral there. -/
theorem number_isLongest
    {c : Char}
    {rest : Text}
    (digit : isDigit c) :
    IsLongest Numeral (c :: rest) (number (c :: rest)).text where
  belongs := by
    unfold number
    cases found : radixLiteral? (c :: rest) with
    | none => exact .decimal (decimalLiteral_belongs digit)
    | some literal => exact radixLiteral?_belongs found
  initial := number_text_initial _
  longest := by
    intro other numeral here
    unfold number
    cases numeral with
    | @radix mark radix digits stands run =>
        obtain ⟨after, split⟩ := here
        have found := radixLiteral?_of_run stands run after
        have within := (run.isPrefix_takeWhile (List.prefix_append digits after)).1.length_le
        rw [← split, List.cons_append, List.cons_append, found]
        simpa using within
    | decimal decimal =>
        have short := decimal.length_le here
        cases found : radixLiteral? (c :: rest) with
        | none => exact short
        | some literal =>
            have nonempty := List.length_pos_iff.mpr (radixLiteral?_ne_nil found)
            obtain ⟨mark, after, radix, split, stands, _⟩ := radixLiteral?_eq_some found
            rw [split, decimalLiteral_of_ofMark? stands, List.length_singleton] at short
            exact short.trans nonempty

/-! ## Numerals hold no space -/

theorem Run.not_mem
    {condition : Char → Bool}
    {text : Text}
    (run : Run condition text)
    {c : Char}
    (outside : condition c = false) :
    c ∉ text := by
  intro member
  simp [run.all c member] at outside

theorem Decimal.space_not_mem {text : Text} (decimal : Decimal text) : ' ' ∉ text := by
  cases decimal with
  | parts run isFraction isExponent =>
      simp only [List.mem_append, not_or]
      refine ⟨run.not_mem (by decide), ?_, ?_⟩
      · cases isFraction with
        | absent => simp
        | point digits => simpa using digits.not_mem (by decide)
      · cases isExponent with
        | absent => simp
        | power isMark isSign digits =>
            have inDigits := digits.not_mem (c := ' ') (by decide)
            rcases isMark with rfl | rfl <;> cases isSign <;> simpa using inDigits

theorem Numeral.space_not_mem {text : Text} (numeral : Numeral text) : ' ' ∉ text := by
  cases numeral with
  | @radix mark radix digits stands run =>
      have inDigits := run.not_mem (c := ' ') (by cases radix <;> decide)
      have notMark : mark ≠ ' ' := by
        rintro rfl
        simp [Radix.ofMark?] at stands
      simp [inDigits, notMark.symm]
  | decimal decimal => exact decimal.space_not_mem

end Lexeme
end SqlLexer
