import HostRouting.Proofs.JsonReading
import HostRouting.Proofs.Numerals

/-!
# JSON texts are read back

Reading the text of a value gives the value, for all strings and however deep the value is nested.
So the text tells the value: two values with the same text are one value.

Each part of a text is followed to its end, whatever stands behind it, from characters to strings
and from members to rows of members.  Only a number has to know what follows, because it ends where
no more characters can belong to it.
-/

namespace HostRouting.Json

/-! ## Strings -/

/-- The part of a string as which a character is written. -/
def pieceOf (character : Char) : Piece :=
  if character.toNat < 0x20 ∧ character ∉ ['\x08', '\t', '\n', '\x0C', '\r'] then
    .unit character.toNat
  else .character character

theorem inBase?_character {value : Nat} (hvalue : value < 16) :
    Digit.inBase? 16 (Digit.character value) = some value := by
  revert value
  decide

/-- A control character is written as a unit with its number. -/
theorem readPiece_numbered {character : Char} (hcontrol : character.toNat < 0x20)
    (rest : List Char) :
    readPiece (['\\', 'u', '0', '0', Digit.character (character.toNat / 16),
      Digit.character (character.toNat % 16)] ++ rest) = some (.unit character.toNat, rest) := by
  have hzero : Digit.inBase? 16 '0' = some 0 := by decide
  have hhigh : Digit.inBase? 16 (Digit.character (character.toNat / 16)) =
      some (character.toNat / 16) := inBase?_character (by omega)
  have hlow : Digit.inBase? 16 (Digit.character (character.toNat % 16)) =
      some (character.toNat % 16) := inBase?_character (by omega)
  have hcode : Digit.number 16 [0, 0, character.toNat / 16, character.toNat % 16] =
      character.toNat := by
    simp only [Digit.number, List.foldl_cons, List.foldl_nil]
    omega
  simp [readPiece, readEscape, hzero, hhigh, hlow, hcode]

theorem readPiece_escaped (character : Char) (rest : List Char) :
    readPiece (escaped character ++ rest) = some (pieceOf character, rest) := by
  by_cases hquote : character = '\x22'
  · subst hquote; rfl
  by_cases hbackslash : character = '\\'
  · subst hbackslash; rfl
  by_cases hback : character = '\x08'
  · subst hback; rfl
  by_cases htab : character = '\t'
  · subst htab; rfl
  by_cases hline : character = '\n'
  · subst hline; rfl
  by_cases hfeed : character = '\x0C'
  · subst hfeed; rfl
  by_cases hreturn : character = '\r'
  · subst hreturn; rfl
  have hlong : character ∉ ['\x08', '\t', '\n', '\x0C', '\r'] := by
    simp [hback, htab, hline, hfeed, hreturn]
  rw [escaped, if_neg hquote, if_neg hbackslash, if_neg hback, if_neg htab, if_neg hline,
    if_neg hfeed, if_neg hreturn, pieceOf]
  by_cases hcontrol : character.toNat < 0x20
  · rw [if_pos hcontrol, if_pos ⟨hcontrol, hlong⟩, readPiece_numbered hcontrol]
  · rw [if_neg hcontrol, if_neg fun hunit => hcontrol hunit.1]
    simp [readPiece, hbackslash, hcontrol]

/-- What a character is written as does not look like the end of a string. -/
theorem head?_escaped_ne (character : Char) (rest : List Char) :
    (escaped character ++ rest).head? ≠ some '\x22' := by
  unfold escaped
  split_ifs with hquote <;> simp_all

theorem readPieces_flatMap_escaped {content : List Char} {count : Nat}
    (hcount : content.length < count) (rest : List Char) :
    readPieces count (content.flatMap escaped ++ '\x22' :: rest) =
      some (content.map pieceOf, rest) := by
  induction content generalizing count with
  | nil =>
      obtain ⟨count, rfl⟩ := Nat.exists_eq_add_one_of_ne_zero (Nat.ne_of_gt hcount)
      rfl
  | cons character others ih =>
      obtain ⟨count, rfl⟩ := Nat.exists_eq_add_one_of_ne_zero (Nat.ne_zero_of_lt hcount)
      rw [List.length_cons, Nat.succ_lt_succ_iff] at hcount
      rw [List.flatMap_cons, List.append_assoc, readPieces,
        if_neg (head?_escaped_ne character _), readPiece_escaped]
      simp [ih hcount]

theorem joined?_map_pieceOf (content : List Char) :
    joined? none (content.map pieceOf) = some content := by
  induction content with
  | nil => rfl
  | cons character others ih =>
      rw [List.map_cons, pieceOf]
      by_cases hunit : character.toNat < 0x20 ∧ character ∉ ['\x08', '\t', '\n', '\x0C', '\r']
      · have hhigh : isHigh character.toNat = false := by simp [isHigh]; omega
        have hlow : isLow character.toNat = false := by simp [isLow]; omega
        rw [if_pos hunit, joined?, hhigh, hlow, ih, Char.ofNat_toNat]
        rfl
      · rw [if_neg hunit, joined?, ih]
        rfl

theorem length_le_flatMap_escaped (content : List Char) :
    content.length ≤ (content.flatMap escaped).length := by
  induction content with
  | nil => exact Nat.le_refl _
  | cons character others ih =>
      have hlength : 1 ≤ (escaped character).length := by
        unfold escaped
        split_ifs <;> simp
      rw [List.flatMap_cons, List.length_append, List.length_cons]
      omega

/-- A quoted string is its mark and what is read after it. -/
theorem readString_of_quoted (content : String) {limit : Nat}
    (hlimit : (quoted content).length ≤ limit) (rest : List Char) :
    ∃ start, quoted content ++ rest = '\x22' :: start ∧
      readString limit start = some (content, rest) := by
  refine ⟨content.toList.flatMap escaped ++ '\x22' :: rest, by simp [quoted], ?_⟩
  have hlength := length_le_flatMap_escaped content.toList
  rw [quoted, List.length_append, List.length_cons, List.length_singleton] at hlimit
  rw [readString, readPieces_flatMap_escaped (by omega), Option.bind_eq_bind, Option.bind_some]
  simp [joined?_map_pieceOf]

/-! ## Numbers -/

theorem natural?_digits (number : Nat) : natural? (Decimal.digits number) = some number := by
  have hzero : ¬ ((Decimal.digits number).head? = some '0' ∧ Decimal.digits number ≠ ['0']) := by
    rcases Nat.eq_zero_or_pos number with rfl | hpositive
    · exact fun hneedless => hneedless.2 rfl
    · exact fun hneedless => Decimal.head?_digits_ne hpositive hneedless.1
  rw [natural?, if_neg hzero, Decimal.natural?_eq_some_iff]
  exact ⟨Nat.toDigits_ne_nil, fun _ hmem => Decimal.isDigit_of_mem_digits hmem,
    (Decimal.value_digits number).symm⟩

theorem number?_text (number : Int64) : number? (Signed64.text number).toList = some number := by
  obtain ⟨hnonneg, htext⟩ | ⟨hnegative, htext⟩ := Signed64.toList_text number
  · have hsign : (Decimal.digits number.toInt.natAbs).head? ≠ some '-' := by
      intro hhead
      have hdigit := Decimal.isDigit_of_mem_digits (List.mem_of_mem_head? hhead)
      cases hdigit
    rw [htext, number?, if_neg hsign, natural?_digits, Option.bind_some,
      Int.natAbs_of_nonneg hnonneg, Signed64.ofInt?_toInt]
  · have hsize : -(number.toInt.natAbs : Int) = number.toInt := by omega
    rw [htext, number?, List.head?_cons, if_pos rfl, List.tail_cons, natural?_digits,
      Option.bind_some, hsize, Signed64.ofInt?_toInt]

theorem isNumeric_of_mem_text {number : Int64} {character : Char}
    (hmem : character ∈ (Signed64.text number).toList) : isNumeric character = true := by
  have hdigits : ∀ digit ∈ Decimal.digits number.toInt.natAbs, isNumeric digit = true := by
    intro digit hdigit
    rw [isNumeric, Decimal.isDigit_of_mem_digits hdigit, Bool.true_or]
  obtain ⟨-, htext⟩ | ⟨-, htext⟩ := Signed64.toList_text number
  · rw [htext] at hmem
    exact hdigits character hmem
  · rw [htext] at hmem
    rcases List.mem_cons.mp hmem with rfl | hdigit
    · rfl
    · exact hdigits character hdigit

/-- Nothing that can belong to a number is at the front of a text. -/
def EndsNumber (rest : List Char) : Prop :=
  ∀ character, rest.head? = some character → isNumeric character = false

theorem readNumber_text (number : Int64) {rest : List Char} (hrest : EndsNumber rest) :
    readNumber ((Signed64.text number).toList ++ rest) = some (.number number, rest) := by
  have hnumeric : ∀ character ∈ (Signed64.text number).toList, isNumeric character = true :=
    fun character hmem => isNumeric_of_mem_text hmem
  have htake : rest.takeWhile isNumeric = [] := by
    cases rest with
    | nil => rfl
    | cons first others => exact List.takeWhile_cons_of_neg (by simp [hrest first rfl])
  have hdrop : rest.dropWhile isNumeric = rest := by
    cases rest with
    | nil => rfl
    | cons first others => exact List.dropWhile_cons_of_neg (by simp [hrest first rfl])
  rw [readNumber, List.takeWhile_append_of_pos hnumeric, List.dropWhile_append_of_pos hnumeric,
    htake, hdrop, List.append_nil, number?_text]
  rfl

/-! ## Members -/

theorem skipSpaces_newLine (indent : Nat) (text : List Char) :
    skipSpaces (newLine indent ++ text) = skipSpaces text := by
  apply List.dropWhile_append_of_pos
  intro blank hmem
  rcases List.mem_cons.mp hmem with rfl | hmem
  · rfl
  · rw [List.eq_of_mem_replicate hmem]
    rfl

theorem skipSpaces_cons {mark : Char} (hmark : isSpace mark = false) (rest : List Char) :
    skipSpaces (mark :: rest) = mark :: rest :=
  List.dropWhile_cons_of_neg (by simp [hmark])

theorem endsNumber_cons {mark : Char} (hmark : isNumeric mark = false) (rest : List Char) :
    EndsNumber (mark :: rest) := by
  intro character hhead
  obtain rfl := Option.some.inj hhead
  exact hmark

section Rows

variable {α : Type} (indent : Nat) (write : α → List Char)

def lines : List α → List Char
  | [] => []
  | first :: rest => newLine indent ++ write first ++ comma rest ++ lines rest

theorem renderItems_eq (items : List Json) :
    renderItems indent items = lines indent (render indent) items := by
  induction items with
  | nil => rfl
  | cons item rest ih => rw [renderItems, lines, ih]

def renderField (field : String × Json) : List Char :=
  quoted field.1 ++ ':' :: ' ' :: field.2.render indent

theorem renderFields_eq (fields : List (String × Json)) :
    renderFields indent fields = lines indent (renderField indent) fields := by
  induction fields with
  | nil => rfl
  | cons field rest ih =>
      rw [renderFields, lines, ih, renderField]
      simp

theorem length_le_lines (members : List α) :
    members.length ≤ (lines indent write members).length := by
  induction members with
  | nil => exact Nat.le_refl _
  | cons first rest ih =>
      simp only [lines, newLine, List.length_append, List.length_cons]
      omega

theorem length_write_lt {members : List α} {member : α} (hmem : member ∈ members) :
    (write member).length < (lines indent write members).length := by
  induction members with
  | nil => cases hmem
  | cons first rest ih =>
      simp only [lines, newLine, List.length_append, List.length_cons]
      rcases List.mem_cons.mp hmem with rfl | hmem
      · omega
      · have hrest := ih hmem
        omega

variable {indent write}

/-- Members that are read one by one, whatever blanks are in front of them and whatever follows, are
read as a row. -/
theorem readRow_lines {read : Reader α} {closing : Char} (hclosing : isSpace closing = false)
    (hcomma : closing ≠ ',') {first : α} {others : List α}
    (hread : ∀ member ∈ first :: others, ∀ rest, EndsNumber rest →
      read (newLine indent ++ write member ++ rest) = some (member, rest))
    {count : Nat} (hcount : (first :: others).length ≤ count) (outer : Nat) (rest : List Char) :
    readRow closing read count
        (lines indent write (first :: others) ++ newLine outer ++ closing :: rest) =
      some (first :: others, rest) := by
  induction others generalizing first count with
  | nil =>
      obtain ⟨count, rfl⟩ := Nat.exists_eq_add_one_of_ne_zero (Nat.ne_of_gt hcount)
      have hfirst := hread first List.mem_cons_self (newLine outer ++ closing :: rest)
        (endsNumber_cons rfl _)
      simp only [lines, comma, List.append_nil, List.append_assoc] at hfirst ⊢
      rw [readRow, hfirst]
      simp [skipSpaces_newLine, skipSpaces_cons hclosing, hcomma]
  | cons second more ih =>
      obtain ⟨count, rfl⟩ := Nat.exists_eq_add_one_of_ne_zero (Nat.ne_zero_of_lt hcount)
      have hfirst := hread first List.mem_cons_self
        (',' :: (lines indent write (second :: more) ++ newLine outer ++ closing :: rest))
        (endsNumber_cons rfl _)
      have hrest := ih (fun member hmem => hread member (List.mem_cons_of_mem first hmem))
        (Nat.le_of_succ_le_succ hcount)
      have hlines : lines indent write (first :: second :: more) ++ newLine outer ++
          closing :: rest = newLine indent ++ write first ++
            ',' :: (lines indent write (second :: more) ++ newLine outer ++ closing :: rest) := by
        rw [lines, comma]
        simp
      rw [List.append_assoc] at hrest
      rw [hlines, readRow, hfirst]
      simp [skipSpaces_cons, isSpace, hrest]

theorem readMembers_lines {read : Reader α} {closing : Char} (hclosing : isSpace closing = false)
    (hcomma : closing ≠ ',') {first : α} {others : List α}
    (hread : ∀ member ∈ first :: others, ∀ rest, EndsNumber rest →
      read (newLine indent ++ write member ++ rest) = some (member, rest))
    (hhead : ∃ mark tail, write first = mark :: tail ∧ isSpace mark = false ∧ mark ≠ closing)
    {limit : Nat} (hlimit : (lines indent write (first :: others)).length ≤ limit) (outer : Nat)
    (rest : List Char) :
    readMembers closing read limit
        (lines indent write (first :: others) ++ newLine outer ++ closing :: rest) =
      some (first :: others, rest) := by
  obtain ⟨mark, tail, hmark, hblank, hother⟩ := hhead
  have hcount := (length_le_lines indent write (first :: others)).trans hlimit
  have hskip : skipSpaces (lines indent write (first :: others) ++ newLine outer ++
      closing :: rest) = mark :: (tail ++ comma others ++ lines indent write others ++
        newLine outer ++ closing :: rest) := by
    simp only [lines, List.append_assoc, skipSpaces_newLine, hmark, List.cons_append]
    exact skipSpaces_cons hblank _
  rw [readMembers, hskip]
  simp only [if_neg hother]
  exact readRow_lines hclosing hcomma hread hcount outer rest

end Rows

/-! ## Values -/

theorem sizeOf_value_lt {fields : List (String × Json)} {field : String × Json}
    (hmem : field ∈ fields) : sizeOf field.2 < sizeOf fields := by
  have hsize := List.sizeOf_lt_of_mem hmem
  obtain ⟨name, value⟩ := field
  rw [Prod.mk.sizeOf_spec] at hsize
  dsimp only
  omega

/-- What is shown of strings, numbers and truth values, of arrays whose items it holds of, and of
objects whose fields it holds of, holds of all values. -/
theorem forall_of_members {motive : Json → Prop} (hstring : ∀ content, motive (.string content))
    (hnumber : ∀ content, motive (.number content)) (hboolean : ∀ flag, motive (.boolean flag))
    (harray : ∀ items, (∀ item ∈ items, motive item) → motive (.array items))
    (hobject : ∀ fields, (∀ field ∈ fields, motive field.2) → motive (.object fields)) :
    ∀ value, motive value
  | .string content => hstring content
  | .number content => hnumber content
  | .boolean flag => hboolean flag
  | .array items => harray items fun item _ =>
      forall_of_members hstring hnumber hboolean harray hobject item
  | .object fields => hobject fields fun field hmem =>
      have _ := sizeOf_value_lt hmem
      forall_of_members hstring hnumber hboolean harray hobject field.2

theorem text_ne_nil (number : Int64) : (Signed64.text number).toList ≠ [] := by
  obtain ⟨-, htext⟩ | ⟨-, htext⟩ := Signed64.toList_text number
  · rw [htext]
    exact Nat.toDigits_ne_nil
  · rw [htext]
    exact List.cons_ne_nil _ _

/-- What a number is written as starts with a character of a number. -/
theorem exists_text_eq_cons (number : Int64) :
    ∃ first rest, (Signed64.text number).toList = first :: rest ∧ isNumeric first = true := by
  obtain ⟨first, rest, htext⟩ := List.exists_cons_of_ne_nil (text_ne_nil number)
  have hmem : first ∈ (Signed64.text number).toList := by
    rw [htext]
    exact List.mem_cons_self
  exact ⟨first, rest, htext, isNumeric_of_mem_text hmem⟩

/-- A character of a number is none that another value starts or ends with. -/
theorem ne_of_isNumeric {character : Char} (hnumeric : isNumeric character = true) (mark : Char)
    (hmark : isNumeric mark = false) : character ≠ mark := by
  rintro rfl
  rw [hnumeric] at hmark
  cases hmark

theorem isSpace_of_isNumeric {character : Char} (hnumeric : isNumeric character = true) :
    isSpace character = false := by
  have hne := ne_of_isNumeric hnumeric
  simp [isSpace, hne ' ' rfl, hne '\t' rfl, hne '\n' rfl, hne '\r' rfl]

/-- What a value is written as starts with a character that is no blank and closes no array. -/
theorem exists_render_eq_cons (value : Json) (indent : Nat) :
    ∃ first rest, value.render indent = first :: rest ∧ isSpace first = false ∧ first ≠ ']' := by
  cases value with
  | string content => exact ⟨_, _, rfl, rfl, by decide⟩
  | number content =>
      obtain ⟨first, rest, htext, hnumeric⟩ := exists_text_eq_cons content
      exact ⟨first, rest, htext, isSpace_of_isNumeric hnumeric, ne_of_isNumeric hnumeric ']' rfl⟩
  | boolean flag => cases flag <;> exact ⟨_, _, rfl, rfl, by decide⟩
  | array items => cases items <;> exact ⟨_, _, rfl, rfl, by decide⟩
  | object fields => cases fields <;> exact ⟨_, _, rfl, rfl, by decide⟩

/-- A bound for the length of what a value is written as is not zero. -/
theorem exists_eq_succ_of_length_render_le {value : Json} {indent depth : Nat}
    (hdepth : (value.render indent).length ≤ depth) : ∃ less, depth = less + 1 := by
  obtain ⟨first, rest, hrender, -⟩ := exists_render_eq_cons value indent
  rw [hrender, List.length_cons] at hdepth
  exact Nat.exists_eq_add_one_of_ne_zero (Nat.ne_zero_of_lt hdepth)

theorem readValue_newLine (limit depth indent : Nat) (text : List Char) :
    readValue limit depth (newLine indent ++ text) = readValue limit depth text := by
  cases depth with
  | zero => rfl
  | succ depth => rw [readValue, readValue, skipSpaces_newLine]

theorem readValue_space (limit depth : Nat) (text : List Char) :
    readValue limit depth (' ' :: text) = readValue limit depth text := by
  cases depth with
  | zero => rfl
  | succ depth => rfl

/-- A value is read back whatever follows it, unless it is a number and more characters of a number
follow. -/
def ReadsBack (value : Json) : Prop :=
  ∀ limit depth indent rest, (value.render indent).length ≤ limit →
    (value.render indent).length ≤ depth → EndsNumber rest →
    readValue limit depth (value.render indent ++ rest) = some (value, rest)

theorem readsBack_string (content : String) : ReadsBack (.string content) := by
  intro limit depth indent rest hlimit hdepth hrest
  obtain ⟨depth, rfl⟩ := exists_eq_succ_of_length_render_le hdepth
  obtain ⟨start, hstart, hread⟩ := readString_of_quoted content hlimit rest
  rw [render, hstart, readValue, skipSpaces_cons rfl]
  simp [hread]

theorem readsBack_number (content : Int64) : ReadsBack (.number content) := by
  intro limit depth indent rest hlimit hdepth hrest
  obtain ⟨depth, rfl⟩ := exists_eq_succ_of_length_render_le hdepth
  obtain ⟨first, others, htext, hnumeric⟩ := exists_text_eq_cons content
  have hne := ne_of_isNumeric hnumeric
  have hread := readNumber_text content hrest
  rw [htext, List.cons_append] at hread
  rw [render, htext, List.cons_append, readValue, skipSpaces_cons (isSpace_of_isNumeric hnumeric)]
  simp only [if_neg (hne '\x22' rfl), if_neg (hne '[' rfl), if_neg (hne '\x7B' rfl),
    if_neg (hne 't' rfl), if_neg (hne 'f' rfl)]
  exact hread

theorem readsBack_boolean (flag : Bool) : ReadsBack (.boolean flag) := by
  intro limit depth indent rest hlimit hdepth hrest
  obtain ⟨depth, rfl⟩ := exists_eq_succ_of_length_render_le hdepth
  cases flag <;> rfl

theorem readsBack_array (items : List Json) (hitems : ∀ item ∈ items, ReadsBack item) :
    ReadsBack (.array items) := by
  intro limit depth indent rest hlimit hdepth hrest
  obtain ⟨depth, rfl⟩ := exists_eq_succ_of_length_render_le hdepth
  cases items with
  | nil => rfl
  | cons first others =>
      rw [render, renderItems_eq] at hlimit hdepth ⊢
      simp only [List.length_append, List.length_cons] at hlimit hdepth
      have hread : ∀ item ∈ first :: others, ∀ rest, EndsNumber rest →
          readValue limit depth (newLine (indent + 2) ++ item.render (indent + 2) ++ rest) =
            some (item, rest) := by
        intro item hmem rest hrest
        have hshorter := length_write_lt (indent + 2) (render (indent + 2)) hmem
        rw [List.append_assoc, readValue_newLine]
        exact hitems item hmem limit depth (indent + 2) rest (by omega) (by omega) hrest
      have hmembers : readMembers ']' (readValue limit depth) limit
          (lines (indent + 2) (render (indent + 2)) (first :: others) ++ newLine indent ++
            ']' :: rest) = some (first :: others, rest) :=
        readMembers_lines rfl (by decide) hread (exists_render_eq_cons first (indent + 2))
          (by omega) indent rest
      rw [List.append_assoc, List.singleton_append, List.cons_append, List.cons_append, readValue,
        skipSpaces_cons rfl]
      simp only [hmembers]
      rfl

/-- A field is read back, whatever blanks are in front of it, if its value is. -/
theorem readField_renderField {name : String} {value : Json} (hvalue : ReadsBack value)
    {limit depth indent : Nat} (hlimit : (renderField indent (name, value)).length ≤ limit)
    (hdepth : (renderField indent (name, value)).length ≤ depth) {rest : List Char}
    (hrest : EndsNumber rest) :
    readField limit (readValue limit depth)
        (newLine indent ++ renderField indent (name, value) ++ rest) =
      some ((name, value), rest) := by
  simp only [renderField, List.length_append, List.length_cons] at hlimit hdepth
  have hquoted : (quoted name).length ≤ limit := by omega
  obtain ⟨start, hstart, hname⟩ :=
    readString_of_quoted name hquoted (':' :: ' ' :: value.render indent ++ rest)
  have hread := hvalue limit depth indent rest (by omega) (by omega) hrest
  have htext : newLine indent ++ renderField indent (name, value) ++ rest =
      newLine indent ++ '\x22' :: start := by
    rw [← hstart, renderField]
    simp
  rw [htext, readField, skipSpaces_newLine, skipSpaces_cons rfl]
  simp [hname, skipSpaces_cons, isSpace, readValue_space, hread]

theorem readsBack_object (fields : List (String × Json))
    (hfields : ∀ field ∈ fields, ReadsBack field.2) : ReadsBack (.object fields) := by
  intro limit depth indent rest hlimit hdepth hrest
  obtain ⟨depth, rfl⟩ := exists_eq_succ_of_length_render_le hdepth
  cases fields with
  | nil => rfl
  | cons first others =>
      rw [render, renderFields_eq] at hlimit hdepth ⊢
      simp only [List.length_append, List.length_cons] at hlimit hdepth
      have hread : ∀ field ∈ first :: others, ∀ rest, EndsNumber rest →
          readField limit (readValue limit depth)
            (newLine (indent + 2) ++ renderField (indent + 2) field ++ rest) =
            some (field, rest) := by
        rintro ⟨name, value⟩ hmem rest hrest
        have hshorter := length_write_lt (indent + 2) (renderField (indent + 2)) hmem
        have hvalue : ReadsBack value := hfields _ hmem
        exact readField_renderField hvalue (by omega) (by omega) hrest
      have hmembers : readMembers '\x7D' (readField limit (readValue limit depth)) limit
          (lines (indent + 2) (renderField (indent + 2)) (first :: others) ++ newLine indent ++
            '\x7D' :: rest) = some (first :: others, rest) :=
        readMembers_lines rfl (by decide) hread ⟨_, _, rfl, rfl, by decide⟩ (by omega) indent rest
      rw [List.append_assoc, List.singleton_append, List.cons_append, List.cons_append, readValue,
        skipSpaces_cons rfl]
      simp only [hmembers]
      rfl

theorem readsBack (value : Json) : ReadsBack value :=
  forall_of_members readsBack_string readsBack_number readsBack_boolean readsBack_array
    readsBack_object value

/-- The text of a value is read as this value, with or without blanks behind it. -/
theorem ofText?_text_append (value : Json) (blanks : List Char)
    (hblanks : ∀ blank ∈ blanks, isSpace blank = true) :
    ofText? (value.text ++ String.ofList blanks) = some value := by
  have hskip : skipSpaces blanks = [] := List.dropWhile_eq_nil_iff.mpr hblanks
  have hends : EndsNumber blanks := by
    intro character hhead
    by_contra hnumeric
    rw [Bool.not_eq_false] at hnumeric
    have hblank := hblanks character (List.mem_of_mem_head? hhead)
    rw [isSpace_of_isNumeric hnumeric] at hblank
    cases hblank
  have htext : (value.text ++ String.ofList blanks).toList = value.render 0 ++ blanks := by
    rw [String.toList_append, text, String.toList_ofList, String.toList_ofList]
  rw [ofText?, htext, readsBack value _ _ 0 blanks (by simp) (by simp) hends]
  simp [hskip]

theorem ofText?_text (value : Json) : ofText? value.text = some value := by
  have hread := ofText?_text_append value [] (List.forall_mem_nil _)
  rwa [String.ofList_nil, String.append_empty] at hread

/-- Different values have different texts. -/
theorem text_injective : Function.Injective text := by
  intro left right htext
  rw [← Option.some.injEq, ← ofText?_text left, ← ofText?_text right, htext]

end HostRouting.Json
