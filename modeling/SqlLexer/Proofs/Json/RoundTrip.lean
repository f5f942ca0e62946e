import SqlLexer.Proofs.Json.Reader

/-!
# Documents read back

What is read from the indented form of a value is that value.  Every part of the form is read back
in front of any text that does not go on with a digit, since a digit could belong to a number.
-/

namespace SqlLexer
namespace Json

open Text (readQuoted)

/-! ## Whitespace and numbers -/

theorem skipSpace_append
    {space : Text}
    (isSpace : ∀ c ∈ space, isWhitespace c)
    (text : Text) :
    skipSpace (space ++ text) = skipSpace text :=
  List.dropWhile_append_of_pos isSpace

theorem skipSpace_cons
    {c : Char}
    (solid : isWhitespace c = false)
    (rest : Text) :
    skipSpace (c :: rest) = c :: rest :=
  List.dropWhile_cons_of_neg (by simp [solid])

theorem isWhitespace_newLine (level : Nat) : ∀ c ∈ newLine level, isWhitespace c := by
  intro c member
  rcases List.mem_cons.mp member with rfl | indent
  · rfl
  · rw [List.eq_of_mem_replicate indent]
    rfl

theorem isDigit_of_isWhitespace {c : Char} (blank : isWhitespace c) : c.isDigit = false := by
  simp only [isWhitespace, Bool.or_eq_true, decide_eq_true_eq, or_assoc] at blank
  rcases blank with rfl | rfl | rfl | rfl <;> rfl

/-- A text in front of which a number ends: it does not go on with a digit. -/
def EndsNumber (text : Text) : Prop :=
  ∀ c ∈ text.head?, c.isDigit = false

theorem endsNumber_cons
    {c : Char}
    (noDigit : c.isDigit = false)
    (rest : Text) :
    EndsNumber (c :: rest) := by
  rintro d isHead
  rwa [← Option.some.inj isHead]

/-- A number is read back from its decimal digits. -/
theorem readNumber_decimal
    (number : Nat)
    {after : Text}
    (ends : EndsNumber after) :
    readNumber (Text.decimal number ++ after) = some (.number number, after) := by
  have digits : ∀ c ∈ Text.decimal number, c.isDigit := fun _ member =>
    Text.isDigit_of_mem_decimal member
  have taken : after.takeWhile Char.isDigit = [] := by
    cases after with
    | nil => rfl
    | cons c rest => exact List.takeWhile_cons_of_neg (by simp [ends c rfl])
  have left : after.dropWhile Char.isDigit = after := by
    cases after with
    | nil => rfl
    | cons c rest => exact List.dropWhile_cons_of_neg (by simp [ends c rfl])
  have canonical : ¬(Text.decimal number = [] ∨
      (Text.decimal number).head? = some '0' ∧ Text.decimal number ≠ ['0']) := by
    rintro (empty | ⟨leading, several⟩)
    · exact Nat.toDigits_ne_nil empty
    · rcases Nat.eq_zero_or_pos number with rfl | positive
      · exact several rfl
      · exact Text.head_decimal_ne positive leading
  rw [readNumber, List.takeWhile_append_of_pos digits, List.dropWhile_append_of_pos digits, taken,
    left, List.append_nil]
  simp only [if_neg canonical, Text.ofDecimal_decimal]

/-- A string is read back from its escapes. -/
theorem readQuoted_renderString (text after : Text) :
    readQuoted stringEscapes.readChar (text.flatMap stringChar ++ '\x22' :: after) =
      some (text, after) :=
  Text.readQuoted_flatMap isReadBack_stringChar text after

/-! ## Items -/

section

variable {α : Type} {read : Text → Option (α × Text)} {write : α → Text} {closing : Char}

/-- The written form of an item that is read back in front of any text but a digit. -/
def ReadsBack
    (read : Text → Option (α × Text))
    (write : α → Text)
    (item : α) : Prop :=
  ∀ after, EndsNumber after → read (write item ++ after) = some (item, after)

/-- A mark that may close a row of items. -/
structure IsClosing (closing : Char) : Prop where
  notComma : closing ≠ ','
  solid : isWhitespace closing = false
  noDigit : closing.isDigit = false

/-- Space and a closing bracket end a number. -/
theorem endsNumber_space_append
    {space : Text}
    (isSpace : ∀ c ∈ space, isWhitespace c)
    (closes : IsClosing closing)
    (after : Text) :
    EndsNumber (space ++ closing :: after) := by
  cases space with
  | nil => exact endsNumber_cons closes.noDigit after
  | cons c rest =>
      exact endsNumber_cons (isDigit_of_isWhitespace (isSpace c List.mem_cons_self)) _

/-- Items that are read back one by one are read back in a row. -/
theorem readItems_flatMap
    {space : Text}
    {first : α}
    {rest : List α}
    (closes : IsClosing closing)
    (isSpace : ∀ c ∈ space, isWhitespace c)
    (reads : ∀ item ∈ first :: rest, ReadsBack read write item)
    (after : Text) :
    readItems read closing
        (write first ++ ((rest.flatMap fun item => ',' :: write item) ++
          (space ++ closing :: after))) =
      some (first :: rest, after) := by
  induction rest generalizing first with
  | nil =>
      rw [List.flatMap_nil, List.nil_append, readItems,
        reads first List.mem_cons_self _ (endsNumber_space_append isSpace closes after)]
      simp [skipSpace_append isSpace, skipSpace_cons closes.solid]
  | cons next others inductionHypothesis =>
      rw [List.forall_mem_cons] at reads
      rw [List.flatMap_cons, readItems, List.cons_append, List.cons_append, List.append_assoc]
      rw [reads.1 _ (endsNumber_cons (by decide) _)]
      simp only [skipSpace_cons (c := ',') (by decide), if_neg closes.notComma.symm, if_true]
      rw [dif_pos, inductionHypothesis reads.2]
      · rfl
      · simp only [List.length_append, List.length_cons]
        omega

theorem readSequence_nil
    (read : Text → Option (α × Text))
    (closes : IsClosing closing)
    (after : Text) :
    readSequence read closing (closing :: after) = some ([], after) := by
  simp [readSequence, skipSpace_cons closes.solid]

/-- A row of items is not taken for an empty one when its first item does not start like its
end. -/
theorem readSequence_flatMap
    {space : Text}
    {first : α}
    {rest : List α}
    (closes : IsClosing closing)
    (isSpace : ∀ c ∈ space, isWhitespace c)
    (reads : ∀ item ∈ first :: rest, ReadsBack read write item)
    (starts : ∀ behind, ∃ c tail, skipSpace (write first ++ behind) = c :: tail ∧ c ≠ closing)
    (after : Text) :
    readSequence read closing
        (write first ++ ((rest.flatMap fun item => ',' :: write item) ++
          (space ++ closing :: after))) =
      some (first :: rest, after) := by
  rw [← readItems_flatMap closes isSpace reads after]
  obtain ⟨c, tail, split, notClosing⟩ := starts
    ((rest.flatMap fun item => ',' :: write item) ++ (space ++ closing :: after))
  simp only [readSequence, split, if_neg notClosing]

end

/-! ## Values -/

/-- Values with no more than some levels of others in them. -/
inductive Fits : Nat → Json → Prop
  | null {depth : Nat} : Fits depth .null
  | bool {depth : Nat} (value : Bool) : Fits depth (.bool value)
  | number {depth : Nat} (value : Nat) : Fits depth (.number value)
  | string {depth : Nat} (value : Text) : Fits depth (.string value)
  | array {depth : Nat} {elements : List Json}
      (each : ∀ element ∈ elements, Fits depth element) :
      Fits (depth + 1) (.array elements)
  | object {depth : Nat} {fields : List (Text × Json)}
      (each : ∀ field ∈ fields, Fits depth field.2) :
      Fits (depth + 1) (.object fields)

theorem Fits.mono
    {depth more : Nat}
    {value : Json}
    (fits : Fits depth value)
    (le : depth ≤ more) :
    Fits more value := by
  induction fits generalizing more with
  | null => exact .null
  | bool value => exact .bool value
  | number value => exact .number value
  | string value => exact .string value
  | array _ inductionHypothesis =>
      obtain ⟨more, rfl⟩ : ∃ less, more = less + 1 := ⟨more - 1, by omega⟩
      exact .array fun element member => inductionHypothesis element member (by omega)
  | object _ inductionHypothesis =>
      obtain ⟨more, rfl⟩ : ∃ less, more = less + 1 := ⟨more - 1, by omega⟩
      exact .object fun field member => inductionHypothesis field member (by omega)

/-- An element of an array, on a line of its own. -/
def renderElement (level : Nat) (element : Json) : Text :=
  newLine level ++ render level element

/-- A field of an object, on a line of its own. -/
def renderField (level : Nat) (field : Text × Json) : Text :=
  newLine level ++ renderString field.1 ++ [':', ' '] ++ render level field.2

theorem renderElements_eq (level : Nat) (elements : List Json) :
    renderElements level elements =
      elements.flatMap fun element => ',' :: renderElement level element := by
  induction elements with
  | nil => rfl
  | cons element rest inductionHypothesis =>
      rw [renderElements, List.flatMap_cons, inductionHypothesis]
      rfl

theorem renderFields_eq (level : Nat) (fields : List (Text × Json)) :
    renderFields level fields = fields.flatMap fun field => ',' :: renderField level field := by
  induction fields with
  | nil => rfl
  | cons field rest inductionHypothesis =>
      rw [renderFields, List.flatMap_cons, inductionHypothesis]
      rfl

/-- An array that is not empty is its first element and the others, each behind a comma. -/
theorem render_array_cons (level : Nat) (first : Json) (rest : List Json) (after : Text) :
    render level (.array (first :: rest)) ++ after =
      '[' :: (renderElement (level + 1) first ++
        ((rest.flatMap fun element => ',' :: renderElement (level + 1) element) ++
          (newLine level ++ ']' :: after))) := by
  simp [render, renderElements_eq, renderElement]

/-- An object that is not empty is its first field and the others, each behind a comma. -/
theorem render_object_cons
    (level : Nat)
    (first : Text × Json)
    (rest : List (Text × Json))
    (after : Text) :
    render level (.object (first :: rest)) ++ after =
      '\x7b' :: (renderField (level + 1) first ++
        ((rest.flatMap fun field => ',' :: renderField (level + 1) field) ++
          (newLine level ++ '\x7d' :: after))) := by
  simp [render, renderFields_eq, renderField]

/-- A digit does not start anything but a number. -/
theorem solid_of_isDigit
    {c : Char}
    (digit : c.isDigit) :
    isWhitespace c = false ∧ c ∉ ['[', ']', '\x7b', '\x22'] := by
  constructor
  · rw [Bool.eq_false_iff]
    intro blank
    rw [isDigit_of_isWhitespace blank] at digit
    contradiction
  · intro member
    simp only [List.mem_cons, List.not_mem_nil, or_false] at member
    rcases member with rfl | rfl | rfl | rfl <;> exact absurd digit (by decide)

theorem exists_decimal_eq_cons (number : Nat) :
    ∃ c rest, Text.decimal number = c :: rest ∧ c.isDigit := by
  have nonempty : Text.decimal number ≠ [] := Nat.toDigits_ne_nil
  obtain ⟨c, rest, split⟩ := List.exists_cons_of_ne_nil nonempty
  exact ⟨c, rest, split, Text.isDigit_of_mem_decimal (split ▸ List.mem_cons_self)⟩

/-- No value starts like whitespace or like the end of an array. -/
theorem exists_render_eq_cons (level : Nat) (value : Json) :
    ∃ c rest, render level value = c :: rest ∧ isWhitespace c = false ∧ c ≠ ']' := by
  cases value with
  | null => exact ⟨_, _, rfl, by decide, by decide⟩
  | bool value => cases value <;> exact ⟨_, _, rfl, by decide, by decide⟩
  | string value => exact ⟨_, _, rfl, by decide, by decide⟩
  | array elements => cases elements <;> exact ⟨_, _, rfl, by decide, by decide⟩
  | object fields => cases fields <;> exact ⟨_, _, rfl, by decide, by decide⟩
  | number value =>
      obtain ⟨c, rest, split, digit⟩ := exists_decimal_eq_cons value
      obtain ⟨solid, noMark⟩ := solid_of_isDigit digit
      refine ⟨c, rest, split, solid, ?_⟩
      rintro rfl
      exact noMark (by decide)

theorem readValue_space
    {space : Text}
    (isSpace : ∀ c ∈ space, isWhitespace c)
    (depth : Nat)
    (text : Text) :
    readValue depth (space ++ text) = readValue depth text := by
  cases depth <;> simp only [readValue, skipSpace_append isSpace]

theorem readValue_of_scalar
    {c : Char}
    (solid : isWhitespace c = false)
    (noArray : c ≠ '[')
    (noObject : c ≠ '\x7b')
    (depth : Nat)
    (rest : Text) :
    readValue depth (c :: rest) = readScalar (c :: rest) := by
  cases depth <;> simp [readValue, skipSpace_cons solid, noArray, noObject]

theorem readValue_decimal
    (depth number : Nat)
    {after : Text}
    (ends : EndsNumber after) :
    readValue depth (Text.decimal number ++ after) = some (.number number, after) := by
  have isRead := readNumber_decimal number ends
  obtain ⟨c, rest, split, digit⟩ := exists_decimal_eq_cons number
  obtain ⟨solid, noMark⟩ := solid_of_isDigit digit
  simp only [List.mem_cons, List.not_mem_nil, or_false, not_or] at noMark
  rw [split, List.cons_append] at isRead ⊢
  rw [readValue_of_scalar solid noMark.1 noMark.2.2.1, readScalar, if_neg noMark.2.2.2,
    if_pos digit, isRead]

/-- A value is read back from a quoted string. -/
theorem readValue_renderString (depth : Nat) (text after : Text) :
    readValue depth (renderString text ++ after) = some (.string text, after) := by
  have isRead := readQuoted_renderString text after
  rw [renderString, List.cons_append, List.append_assoc,
    readValue_of_scalar (by decide) (by decide) (by decide), readScalar, if_pos rfl]
  rw [List.singleton_append, isRead]
  rfl

/-- Whitespace in front of a written form is skipped by the reader of values. -/
theorem ReadsBack.space_append
    {depth : Nat}
    {space : Text}
    {write : Json → Text}
    {value : Json}
    (reads : ReadsBack (readValue depth) write value)
    (isSpace : ∀ c ∈ space, isWhitespace c) :
    ReadsBack (readValue depth) (fun value => space ++ write value) value := by
  intro after ends
  rw [List.append_assoc, readValue_space isSpace, reads after ends]

theorem readsBack_renderField
    {depth level : Nat}
    {field : Text × Json}
    (reads : ReadsBack (readValue depth) (render level) field.2) :
    ReadsBack (readField (readValue depth)) (renderField level) field := by
  intro after ends
  obtain ⟨key, value⟩ := field
  have isKey := readQuoted_renderString key (':' :: ' ' :: (render level value ++ after))
  have oneSpace : ∀ c ∈ [' '], isWhitespace c := List.forall_mem_singleton.mpr rfl
  have isValue := reads.space_append oneSpace after ends
  have split : renderField level (key, value) ++ after =
      newLine level ++ '\x22' :: (key.flatMap stringChar ++ '\x22' ::
        ':' :: ' ' :: (render level value ++ after)) := by
    simp [renderField, renderString]
  rw [split, readField, skipSpace_append (isWhitespace_newLine level), skipSpace_cons (by decide)]
  simp only [isKey, skipSpace_cons (c := ':') (by decide)]
  rw [List.append_assoc, List.singleton_append] at isValue
  rw [isValue]
  rfl

/-- Behind its space, an element begins with a character that closes no array. -/
theorem starts_renderElement (level : Nat) (element : Json) (behind : Text) :
    ∃ c tail, skipSpace (renderElement level element ++ behind) = c :: tail ∧ c ≠ ']' := by
  obtain ⟨c, rest, split, solid, notClosing⟩ := exists_render_eq_cons level element
  rw [renderElement, List.append_assoc, skipSpace_append (isWhitespace_newLine level), split,
    List.cons_append, skipSpace_cons solid]
  exact ⟨c, _, rfl, notClosing⟩

/-- Behind its space, a field begins with a character that closes no object. -/
theorem starts_renderField (level : Nat) (field : Text × Json) (behind : Text) :
    ∃ c tail, skipSpace (renderField level field ++ behind) = c :: tail ∧ c ≠ '\x7d' := by
  simp only [renderField, renderString, List.append_assoc, List.cons_append]
  rw [skipSpace_append (isWhitespace_newLine level), skipSpace_cons (by decide)]
  exact ⟨_, _, rfl, by decide⟩

/-- A value is read back from its indented form. -/
theorem Fits.readsBack
    {depth : Nat}
    {value : Json}
    (fits : Fits depth value)
    (level : Nat) :
    ReadsBack (readValue depth) (render level) value := by
  induction fits generalizing level with
  | null =>
      intro after _
      exact readValue_of_scalar (c := 'n') (by decide) (by decide) (by decide) _ _
  | bool value =>
      intro after _
      cases value with
      | true => exact readValue_of_scalar (c := 't') (by decide) (by decide) (by decide) _ _
      | false => exact readValue_of_scalar (c := 'f') (by decide) (by decide) (by decide) _ _
  | number value =>
      intro after ends
      exact readValue_decimal _ value ends
  | string value =>
      intro after _
      exact readValue_renderString _ value after
  | @array depth elements _ inductionHypothesis =>
      intro after _
      have closes : IsClosing ']' := ⟨by decide, by decide, by decide⟩
      cases elements with
      | nil =>
          have empty := readSequence_nil (readValue depth) closes after
          simp [render, readValue, skipSpace_cons (c := '[') rfl, empty]
      | cons first rest =>
          have reads : ∀ element ∈ first :: rest,
              ReadsBack (readValue depth) (renderElement (level + 1)) element :=
            fun element member => (inductionHypothesis element member (level + 1)).space_append
              (isWhitespace_newLine (level + 1))
          have isRead := readSequence_flatMap closes (isWhitespace_newLine level) reads
            (starts_renderElement (level + 1) first) after
          rw [render_array_cons]
          simp [readValue, skipSpace_cons (c := '[') rfl, isRead]
  | @object depth fields _ inductionHypothesis =>
      intro after _
      have closes : IsClosing '\x7d' := ⟨by decide, by decide, by decide⟩
      cases fields with
      | nil =>
          have empty := readSequence_nil (readField (readValue depth)) closes after
          simp [render, readValue, skipSpace_cons (c := '\x7b') rfl, empty]
      | cons first rest =>
          have reads : ∀ field ∈ first :: rest,
              ReadsBack (readField (readValue depth)) (renderField (level + 1)) field :=
            fun field member => readsBack_renderField (inductionHypothesis field member (level + 1))
          have isRead := readSequence_flatMap closes (isWhitespace_newLine level) reads
            (starts_renderField (level + 1) first) after
          rw [render_object_cons]
          simp [readValue, skipSpace_cons (c := '\x7b') rfl, isRead]

mutual

/-- A value has no more levels than characters in its indented form. -/
theorem fits_render (level : Nat) : (value : Json) → Fits (render level value).length value
  | .null => .null
  | .bool value => .bool value
  | .number value => .number value
  | .string value => .string value
  | .array [] => .array (List.forall_mem_nil _)
  | .array (first :: rest) => by
      have firstFits := fits_render (level + 1) first
      have restFit := fits_renderElements (level + 1) rest
      have each : ∀ element ∈ first :: rest,
          Fits ((render (level + 1) first).length + (renderElements (level + 1) rest).length)
            element :=
        List.forall_mem_cons.mpr ⟨firstFits.mono (Nat.le_add_right _ _),
          fun element member => (restFit element member).mono (Nat.le_add_left _ _)⟩
      refine (Fits.array each).mono ?_
      simp only [render, List.length_cons, List.length_append]
      omega
  | .object [] => .object (List.forall_mem_nil _)
  | .object ((key, value) :: rest) => by
      have firstFits := fits_render (level + 1) value
      have restFit := fits_renderFields (level + 1) rest
      have each : ∀ field ∈ (key, value) :: rest,
          Fits ((render (level + 1) value).length + (renderFields (level + 1) rest).length)
            field.2 :=
        List.forall_mem_cons.mpr ⟨firstFits.mono (Nat.le_add_right _ _),
          fun field member => (restFit field member).mono (Nat.le_add_left _ _)⟩
      refine (Fits.object each).mono ?_
      simp only [render, List.length_cons, List.length_append]
      omega

/-- The text of an array is long enough for the depths of its elements. -/
theorem fits_renderElements (level : Nat) :
    (elements : List Json) →
      ∀ element ∈ elements, Fits (renderElements level elements).length element
  | [] => List.forall_mem_nil _
  | first :: rest => by
      have firstFits := fits_render level first
      have restFit := fits_renderElements level rest
      simp only [renderElements, List.length_cons, List.length_append]
      exact List.forall_mem_cons.mpr ⟨firstFits.mono (by omega),
        fun element member => (restFit element member).mono (by omega)⟩

theorem fits_renderFields (level : Nat) :
    (fields : List (Text × Json)) →
      ∀ field ∈ fields, Fits (renderFields level fields).length field.2
  | [] => List.forall_mem_nil _
  | (key, value) :: rest => by
      have firstFits := fits_render level value
      have restFit := fits_renderFields level rest
      simp only [renderFields, List.length_cons, List.length_append]
      exact List.forall_mem_cons.mpr ⟨firstFits.mono (by omega),
        fun field member => (restFit field member).mono (by omega)⟩

end

/-- Every value is read back from its document, with whitespace behind it or without. -/
theorem parse?_pretty_append
    (value : Json)
    {space : Text}
    (isSpace : ∀ c ∈ space, isWhitespace c) :
    parse? (value.pretty ++ space) = some value := by
  have ends : EndsNumber space := fun c isHead =>
    isDigit_of_isWhitespace (isSpace c (List.mem_of_head? isHead))
  have fits : Fits (value.pretty ++ space).length value :=
    (fits_render 0 value).mono (by simp [pretty])
  have isRead : readValue (value.pretty ++ space).length (value.pretty ++ space) =
      some (value, space) :=
    fits.readsBack 0 space ends
  have nothingLeft : skipSpace space = [] := by
    rw [← List.append_nil space, skipSpace_append isSpace]
    rfl
  simp only [parse?, isRead, nothingLeft, if_true]

-- Other whitespace and other escapes than those of the indented form.
example : parse? "[ 10 ,\x7b\"\\ud83d\\ude00\":\"\\u00E9\\/\"\x7d\r]".toList =
    some (.array [.number 10, .object [("😀".toList, .string "é/".toList)]]) := by
  cbv

end Json
end SqlLexer
