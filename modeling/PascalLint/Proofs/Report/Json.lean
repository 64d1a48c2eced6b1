import Mathlib.Data.List.Basic
import PascalLint.Proofs.Text.Lines
import PascalLint.Proofs.Text.Numeral
import PascalLint.Report.JsonReader

/-! The JSON report is read back.

Reading undoes writing, part by part and in front of any text that does not go on with the part: a
character of a string and its escape (`readString_escape`), a number (`readNumber_ofNat`), and with
them every value at every level of a document (`readValue_write`). Reading passes over the white
space in which the layout consists. So a report stands for its document and for nothing else
(`read?_json`). -/
namespace PascalLint.Report.Json
open Text (prepend ofCodePoint? isDigitIn)

/-! ### Strings -/

section Strings

/-- The characters that are escaped by a backslash and one more character. -/
def shortlyEscaped : Text := ['"', '\\', '\x08', '\x0c', '\n', '\r', '\t']

theorem escape_of_not_mem {c : Char} (h : c ∉ shortlyEscaped) :
    escape c = if c.toNat < 0x20 then
      "\\u00".toList ++ [Nat.digitChar (c.toNat / 16), Nat.digitChar (c.toNat % 16)]
    else [c] := by
  simp only [shortlyEscaped, List.mem_cons, List.not_mem_nil, not_or, or_false] at h
  simp only [escape, Bool.or_eq_true, beq_iff_eq, h, or_self, if_false]

theorem ofCodePoint?_control {c : Char} (h : c.toNat < 0x20) :
    ofCodePoint? ['0', '0', Nat.digitChar (c.toNat / 16), Nat.digitChar (c.toNat % 16)] =
      some c := by
  have hall : ∀ n < 0x20, ofCodePoint? ['0', '0', Nat.digitChar (n / 16), Nat.digitChar (n % 16)] =
      some (Char.ofNat n) := by decide
  rw [hall c.toNat h, Char.ofNat_toNat]

/-- A character that is not escaped is read as it is. -/
theorem readString_of_not_mem {c : Char} (h : c ∉ shortlyEscaped) (hcontrol : ¬c.toNat < 0x20)
    (rest : Text) : readString (c :: rest) = prepend (some c) (readString rest) := by
  have hquote : c ≠ '"' := fun heq => h (heq ▸ by decide)
  have hslash : c ≠ '\\' := fun heq => h (heq ▸ by decide)
  have hpass : (c.toNat < 0x20 || c == '\\') = false := by simp [hcontrol, hslash]
  rw [readString]
  · rw [hpass]
    rfl
  all_goals simp_all

/-- **An escape is read as the character that it stands for.** -/
theorem readString_escape (c : Char) (rest : Text) :
    readString (escape c ++ rest) = prepend (some c) (readString rest) := by
  by_cases hshort : c ∈ shortlyEscaped
  · simp only [shortlyEscaped, List.mem_cons, List.not_mem_nil, or_false] at hshort
    rcases hshort with rfl | rfl | rfl | rfl | rfl | rfl | rfl <;> rfl
  · rw [escape_of_not_mem hshort]
    by_cases hcontrol : c.toNat < 0x20
    · rw [if_pos hcontrol, ← ofCodePoint?_control hcontrol]
      rfl
    · rw [if_neg hcontrol]
      exact readString_of_not_mem hshort hcontrol rest

/-- A string is read up to its closing quote. -/
theorem readString_flatMap_escape (s rest : Text) :
    readString (s.flatMap escape ++ '"' :: rest) = some (s, rest) := by
  induction s with
  | nil => rfl
  | cons c s ih =>
    rw [List.flatMap_cons, List.append_assoc, readString_escape, ih]
    rfl

end Strings

/-! ### Numbers -/

/-- Only zero begins with a zero. -/
theorem head?_ofNat_ne_zero {n : Nat} (h : 0 < n) : (Text.ofNat n).head? ≠ some '0' := by
  induction n using Nat.strongRecOn with
  | ind n ih =>
    unfold Text.ofNat at ih ⊢
    by_cases hsmall : n < 10
    · rw [Nat.toDigits_of_lt_base hsmall]
      have hall : ∀ n < 10, 0 < n → [Nat.digitChar n].head? ≠ some '0' := by decide
      exact hall n hsmall h
    · have hne : Nat.toDigits 10 (n / 10) ≠ [] := Nat.toDigits_ne_nil
      have hhead := ih (n / 10) (by omega) (by omega)
      obtain ⟨c, digits, hdigits⟩ := List.exists_cons_of_ne_nil hne
      rw [hdigits] at hhead
      rw [Nat.toDigits_of_base_le (by decide) (by omega), hdigits]
      exact hhead

theorem readNumber_ofNat (n : Nat) {rest : Text} (hrest : ∀ c ∈ rest.head?, isDigitIn 10 c = false) :
    readNumber (Text.ofNat n ++ rest) = some (n, rest) := by
  have hdigits : ∀ c ∈ Text.ofNat n, isDigitIn 10 c = true := fun c hc => by
    rw [isDigitIn, Text.digitValue?_of_isDigit (Text.isDigit_of_mem_ofNat hc)]
    rfl
  have hvalue : Text.valueOf 10 (Text.ofNat n) = n := by
    rw [Text.valueOf_eq_ofDigitChars fun c hc => Text.isDigit_of_mem_ofNat hc]
    exact Nat.ofDigitChars_ten_toDigits
  have hzero : ((Text.ofNat n).isEmpty || ((Text.ofNat n).head? == some '0' &&
      (Text.ofNat n).length != 1)) = false := by
    rcases Nat.eq_zero_or_pos n with rfl | hpos
    · rfl
    · simp [Text.ofNat_ne_nil, head?_ofNat_ne_zero hpos]
  unfold readNumber
  rw [Text.takeWhile_append_of_head hdigits hrest, Text.dropWhile_append_of_head hdigits hrest]
  simp only [hzero, hvalue]
  rfl

/-! ### White space -/

theorem skipSpace_newline (depth : Nat) (text : Text) :
    skipSpace (newline depth ++ text) = skipSpace text := by
  have hblank : ∀ c ∈ newline depth, isSpace c = true := by
    intro c hc
    rcases List.mem_cons.mp hc with rfl | hc
    · rfl
    · obtain rfl := List.eq_of_mem_replicate hc
      rfl
  unfold skipSpace
  rw [List.dropWhile_append_of_pos hblank]

theorem isSpace_of_isDigit {c : Char} (h : c.isDigit = true) : isSpace c = false := by
  have hne (d : Char) (hd : d.isDigit = false) : (c == d) = false := by
    rw [beq_eq_false_iff_ne]
    rintro rfl
    rw [hd] at h
    cases h
  simp [isSpace, hne]

theorem skipSpace_of_not_space {c : Char} (h : isSpace c = false) (text : Text) :
    skipSpace (c :: text) = c :: text := by
  rw [skipSpace, List.dropWhile_cons_of_neg (by rw [h]; exact Bool.false_ne_true)]

theorem readValue_newline (limit depth : Nat) (text : Text) :
    readValue limit (newline depth ++ text) = readValue limit text := by
  cases limit with
  | zero => rfl
  | succ limit => rw [readValue, readValue, skipSpace_newline]

theorem readItems_newline (limit depth : Nat) (text : Text) :
    readItems limit (newline depth ++ text) = readItems limit text := by
  cases limit with
  | zero => rfl
  | succ limit => rw [readItems, readItems, readValue_newline]

theorem readFields_newline (limit depth : Nat) (text : Text) :
    readFields limit (newline depth ++ text) = readFields limit text := by
  cases limit with
  | zero => rfl
  | succ limit => rw [readFields, readFields, skipSpace_newline]

theorem readValue_space (limit : Nat) (text : Text) :
    readValue limit (' ' :: text) = readValue limit text := by
  cases limit with
  | zero => rfl
  | succ limit =>
    have hskip : skipSpace (' ' :: text) = skipSpace text := rfl
    rw [readValue, readValue, hskip]

/-! ### Values -/

/-- Nothing that a number could go on with stands ahead. -/
def EndsNumber (rest : Text) : Prop := ∀ c ∈ rest.head?, isDigitIn 10 c = false

theorem endsNumber_newline (depth : Nat) (rest : Text) : EndsNumber (newline depth ++ rest) := by
  intro c hc
  obtain rfl : c = '\n' := (Option.some.inj hc).symm
  rfl

theorem endsNumber_comma (rest : Text) : EndsNumber (',' :: rest) := by
  intro c hc
  obtain rfl : c = ',' := (Option.some.inj hc).symm
  rfl

/-- A value begins with a character that is no space and closes no array. -/
theorem exists_write_eq (depth : Nat) (v : Json) :
    ∃ c text, write depth v = c :: text ∧ isSpace c = false ∧ c ≠ ']' := by
  cases v with
  | number n =>
    obtain ⟨c, digits, hdigits⟩ := List.exists_cons_of_ne_nil (Text.ofNat_ne_nil n)
    have hdigit : c.isDigit = true :=
      Text.isDigit_of_mem_ofNat (hdigits ▸ List.mem_cons_self : c ∈ Text.ofNat n)
    refine ⟨c, digits, by rw [write, hdigits], isSpace_of_isDigit hdigit, ?_⟩
    exact fun heq => absurd (heq ▸ hdigit) (by decide)
  | string s => exact ⟨'"', _, rfl, rfl, by decide⟩
  | array items => cases items <;> exact ⟨'[', _, rfl, rfl, by decide⟩
  | object fields => cases fields <;> exact ⟨'\x7b', _, rfl, rfl, by decide⟩

theorem write_array (depth : Nat) (first : Json) (items : List Json) :
    write depth (.array (first :: items)) =
      '[' :: (newline (depth + 1) ++
        (writeItems (depth + 1) (first :: items) ++ (newline depth ++ [']']))) := by
  simp [write]

theorem write_object (depth : Nat) (first : Text × Json) (fields : List (Text × Json)) :
    write depth (.object (first :: fields)) =
      '\x7b' :: (newline (depth + 1) ++
        (writeFields (depth + 1) (first :: fields) ++ (newline depth ++ ['\x7d']))) := by
  simp [write]

theorem writeItems_singleton (depth : Nat) (item : Json) :
    writeItems depth [item] = write depth item := by
  simp [writeItems, writeMoreItems]

theorem writeItems_cons_cons (depth : Nat) (item next : Json) (more : List Json) :
    writeItems depth (item :: next :: more) =
      write depth item ++ ',' :: (newline depth ++ writeItems depth (next :: more)) := by
  simp [writeItems, writeMoreItems]

/-- Items begin as the first of them does. -/
theorem exists_writeItems_eq (depth : Nat) (first : Json) (items : List Json) :
    ∃ c text, writeItems depth (first :: items) = c :: text ∧ isSpace c = false ∧ c ≠ ']' := by
  obtain ⟨c, text, hwrite, hspace, hclose⟩ := exists_write_eq depth first
  exact ⟨c, text ++ writeMoreItems depth items, by rw [writeItems, hwrite]; rfl, hspace, hclose⟩

/-- Fields begin with the quote of the first name. -/
theorem exists_writeFields_eq (depth : Nat) (first : Text × Json) (fields : List (Text × Json)) :
    ∃ text, writeFields depth (first :: fields) = '"' :: text := ⟨_, by rw [writeFields]; rfl⟩

theorem writeFields_singleton (depth : Nat) (name : Text) (value : Json) :
    writeFields depth [(name, value)] = quoted name ++ ':' :: ' ' :: write depth value := by
  simp [writeFields, writeMoreFields]

theorem writeFields_cons_cons (depth : Nat) (name : Text) (value : Json) (next : Text × Json)
    (more : List (Text × Json)) :
    writeFields depth ((name, value) :: next :: more) =
      quoted name ++ ':' :: ' ' :: (write depth value ++
        ',' :: (newline depth ++ writeFields depth (next :: more))) := by
  simp [writeFields, writeMoreFields]

/-! ### One value, given how its parts are read -/

section Parts
variable {limit : Nat} {text ahead rest name : Text} {item value : Json} {items : List Json}
  {fields : List (Text × Json)}

theorem skipSpace_newline_cons {c : Char} (h : isSpace c = false) (depth : Nat) (text : Text) :
    skipSpace (newline depth ++ c :: text) = c :: text := by
  rw [skipSpace_newline, skipSpace_of_not_space h]

theorem readValue_number (limit n : Nat) (hrest : EndsNumber rest) :
    readValue (limit + 1) (Text.ofNat n ++ rest) = some (.number n, rest) := by
  obtain ⟨c, digits, hdigits⟩ := List.exists_cons_of_ne_nil (Text.ofNat_ne_nil n)
  have hdigit : c.isDigit = true :=
    Text.isDigit_of_mem_ofNat (hdigits ▸ List.mem_cons_self : c ∈ Text.ofNat n)
  have hread := readNumber_ofNat n hrest
  rw [hdigits, List.cons_append] at hread ⊢
  rw [readValue, skipSpace_of_not_space (isSpace_of_isDigit hdigit)]
  -- A digit opens none of the other values.
  split
  case h_4 => rw [hread]; rfl
  all_goals
    rename_i heq
    obtain ⟨rfl, -⟩ := List.cons.inj heq
    exact absurd hdigit (by decide)

theorem readValue_string (limit : Nat) (s rest : Text) :
    readValue (limit + 1) (quoted s ++ rest) = some (.string s, rest) := by
  have hquoted : quoted s ++ rest = '"' :: (s.flatMap escape ++ '"' :: rest) := by simp [quoted]
  have hskip := skipSpace_of_not_space (c := '"') rfl (s.flatMap escape ++ '"' :: rest)
  rw [hquoted]
  simp [readValue, hskip, readString_flatMap_escape]

/-- An array that does not close at once is read item by item. -/
theorem readValue_array (hopen : ∃ c more, text = c :: more ∧ isSpace c = false ∧ c ≠ ']')
    (depth : Nat) (hread : readItems limit text = some (items, rest)) :
    readValue (limit + 1) ('[' :: (newline depth ++ text)) = some (.array items, rest) := by
  obtain ⟨c, more, rfl, hspace, hclose⟩ := hopen
  have hbracket := skipSpace_of_not_space (c := '[') rfl (newline depth ++ c :: more)
  have hskip := skipSpace_newline_cons hspace depth more
  simp [readValue, hbracket, hskip, hclose, hread]

/-- An object that does not close at once is read field by field. -/
theorem readValue_object (hopen : ∃ more, text = '"' :: more) (depth : Nat)
    (hread : readFields limit text = some (fields, rest)) :
    readValue (limit + 1) ('\x7b' :: (newline depth ++ text)) = some (.object fields, rest) := by
  obtain ⟨more, rfl⟩ := hopen
  have hbrace := skipSpace_of_not_space (c := '\x7b') rfl (newline depth ++ '"' :: more)
  have hskip := skipSpace_newline_cons (c := '"') rfl depth more
  simp [readValue, hbrace, hskip, hread]

theorem readItems_last (closing : Nat)
    (h : readValue limit text = some (item, newline closing ++ ']' :: rest)) :
    readItems (limit + 1) text = some ([item], rest) := by
  have hskip := skipSpace_newline_cons (c := ']') rfl closing rest
  simp [readItems, h, hskip]

theorem readItems_more (h : readValue limit text = some (item, ',' :: ahead))
    (hmore : readItems limit ahead = some (items, rest)) :
    readItems (limit + 1) text = some (item :: items, rest) := by
  have hskip := skipSpace_of_not_space (c := ',') rfl ahead
  simp [readItems, h, hskip, hmore]

/-- What is read of an object's fields once the value of one has been read. -/
def fieldsAfter (limit : Nat) (name : Text) (value : Json) (ahead : Text) :
    Option (List (Text × Json) × Text) :=
  match skipSpace ahead with
  | ',' :: rest =>
    (readFields limit rest).map fun (fields, rest) => ((name, value) :: fields, rest)
  | '\x7d' :: rest => some ([(name, value)], rest)
  | _ => none

theorem readFields_field (name : Text) (h : readValue limit text = some (value, ahead)) :
    readFields (limit + 1) (quoted name ++ ':' :: ' ' :: text) =
      fieldsAfter limit name value ahead := by
  have hquoted : quoted name ++ ':' :: ' ' :: text =
      '"' :: (name.flatMap escape ++ '"' :: ':' :: ' ' :: text) := by simp [quoted]
  have hquote := skipSpace_of_not_space (c := '"') rfl
    (name.flatMap escape ++ '"' :: ':' :: ' ' :: text)
  have hcolon := skipSpace_of_not_space (c := ':') rfl (' ' :: text)
  rw [hquoted]
  simp [readFields, hquote, hcolon, readString_flatMap_escape, readValue_space, h]
  rfl

theorem readFields_last (name : Text) (closing : Nat)
    (h : readValue limit text = some (value, newline closing ++ '\x7d' :: rest)) :
    readFields (limit + 1) (quoted name ++ ':' :: ' ' :: text) = some ([(name, value)], rest) := by
  rw [readFields_field name h, fieldsAfter, skipSpace_newline_cons rfl]
  rfl

theorem readFields_more (name : Text) (h : readValue limit text = some (value, ',' :: ahead))
    (hmore : readFields limit ahead = some (fields, rest)) :
    readFields (limit + 1) (quoted name ++ ':' :: ' ' :: text) =
      some ((name, value) :: fields, rest) := by
  rw [readFields_field name h, fieldsAfter, skipSpace_of_not_space rfl]
  simp only [hmore]
  rfl

end Parts

/-! ### Every value -/

mutual

/-- **A value is read as it is written**, at any level and with as much to look at as it is long. -/
theorem readValue_write : ∀ (depth : Nat) (v : Json) (limit : Nat) (rest : Text),
    (write depth v).length ≤ limit → EndsNumber rest →
      readValue limit (write depth v ++ rest) = some (v, rest)
  | depth, v, 0, rest, hlimit, _ => by
    obtain ⟨c, text, hwrite, -⟩ := exists_write_eq depth v
    simp [hwrite] at hlimit
  | _, .number n, limit + 1, _, _, hrest => readValue_number limit n hrest
  | _, .string s, limit + 1, rest, _, _ => readValue_string limit s rest
  | _, .array [], _ + 1, _, _, _ => rfl
  | depth, .array (first :: items), limit + 1, rest, hlimit, _ => by
    obtain ⟨c, more, hopen, hspace, hclose⟩ := exists_writeItems_eq (depth + 1) first items
    rw [write_array] at hlimit ⊢
    have hitems := readItems_write (depth + 1) (first :: items) limit depth rest (by simp)
      (by simp at hlimit; omega)
    simp only [List.append_assoc, List.cons_append, List.nil_append]
    exact readValue_array ⟨c, _, by rw [hopen]; rfl, hspace, hclose⟩ (depth + 1) hitems
  | _, .object [], _ + 1, _, _, _ => rfl
  | depth, .object (first :: fields), limit + 1, rest, hlimit, _ => by
    obtain ⟨more, hopen⟩ := exists_writeFields_eq (depth + 1) first fields
    rw [write_object] at hlimit ⊢
    have hfields := readFields_write (depth + 1) (first :: fields) limit depth rest (by simp)
      (by simp at hlimit; omega)
    simp only [List.append_assoc, List.cons_append, List.nil_append]
    exact readValue_object ⟨_, by rw [hopen]; rfl⟩ (depth + 1) hfields

theorem readItems_write : ∀ (depth : Nat) (items : List Json) (limit closing : Nat) (rest : Text),
    items ≠ [] → (writeItems depth items).length < limit →
      readItems limit (writeItems depth items ++ (newline closing ++ ']' :: rest)) =
        some (items, rest)
  | _, [], _, _, _, hne, _ => absurd rfl hne
  | _, _, 0, _, _, _, hlimit => absurd hlimit (Nat.not_lt_zero _)
  | depth, [item], limit + 1, closing, rest, _, hlimit => by
    rw [writeItems_singleton] at hlimit ⊢
    exact readItems_last closing (readValue_write depth item limit _ (by omega)
      (endsNumber_newline closing _))
  | depth, item :: next :: more, limit + 1, closing, rest, _, hlimit => by
    rw [writeItems_cons_cons] at hlimit ⊢
    have hitem := readValue_write depth item limit (',' :: (newline depth ++
      (writeItems depth (next :: more) ++ (newline closing ++ ']' :: rest))))
      (by simp at hlimit; omega) (endsNumber_comma _)
    have hmore := readItems_write depth (next :: more) limit closing rest (by simp)
      (by simp at hlimit; omega)
    simp only [List.append_assoc, List.cons_append]
    exact readItems_more hitem ((readItems_newline limit depth _).trans hmore)

theorem readFields_write : ∀ (depth : Nat) (fields : List (Text × Json)) (limit closing : Nat)
    (rest : Text), fields ≠ [] → (writeFields depth fields).length < limit →
      readFields limit (writeFields depth fields ++ (newline closing ++ '\x7d' :: rest)) =
        some (fields, rest)
  | _, [], _, _, _, hne, _ => absurd rfl hne
  | _, _, 0, _, _, _, hlimit => absurd hlimit (Nat.not_lt_zero _)
  | depth, [(name, value)], limit + 1, closing, rest, _, hlimit => by
    rw [writeFields_singleton] at hlimit ⊢
    have hvalue := readValue_write depth value limit (newline closing ++ '\x7d' :: rest)
      (by simp at hlimit; omega) (endsNumber_newline closing _)
    simp only [List.append_assoc, List.cons_append]
    exact readFields_last name closing hvalue
  | depth, (name, value) :: next :: more, limit + 1, closing, rest, _, hlimit => by
    rw [writeFields_cons_cons] at hlimit ⊢
    have hvalue := readValue_write depth value limit (',' :: (newline depth ++
      (writeFields depth (next :: more) ++ (newline closing ++ '\x7d' :: rest))))
      (by simp at hlimit; omega) (endsNumber_comma _)
    have hmore := readFields_write depth (next :: more) limit closing rest (by simp)
      (by simp at hlimit; omega)
    simp only [List.append_assoc, List.cons_append]
    exact readFields_more name hvalue ((readFields_newline limit depth _).trans hmore)

end

/-- A document is read back from its text. -/
theorem read?_write (v : Json) : read? (write 0 v) = some v := by
  have hread := readValue_write 0 v ((write 0 v).length + 1) [] (Nat.le_succ _)
    (fun c hc => by cases hc)
  rw [List.append_nil] at hread
  simp [read?, hread, skipSpace]

end PascalLint.Report.Json

namespace PascalLint

/-! ### Reports -/

theorem Severity.name_inj {s t : Severity} (h : s.name = t.name) : s = t := by
  revert h
  cases s <;> cases t <;> decide

namespace Report
variable {d e : Diagnostic} {ds es : List Diagnostic}

theorem diagnosticJson_inj (h : diagnosticJson d = diagnosticJson e) : d = e := by
  simp only [diagnosticJson, Json.object.injEq, List.cons.injEq, Prod.mk.injEq,
    Json.number.injEq, Json.string.injEq, true_and, and_true] at h
  obtain ⟨hline, hcolumn, hseverity, htext, hcode⟩ := h
  have hseverity : d.severity = e.severity := Severity.name_inj hseverity
  cases d
  cases e
  simp_all

theorem document_inj (h : document ds = document es) : ds = es := by
  simp only [document, Json.object.injEq, List.cons.injEq, Prod.mk.injEq, Json.array.injEq,
    true_and] at h
  exact List.map_injective_iff.mpr (fun _ _ => diagnosticJson_inj) h.1

/-- **The JSON report is read back** as the object that holds the diagnostics, in their order and
each with all that it says, and the numbers of errors and warnings among them. So no two lists have
the same report. -/
theorem read?_json (ds : List Diagnostic) :
    Json.read? (json ds) = some (.object [
      ("diagnostics".toList, .array (ds.map fun d => .object [
        ("line".toList, .number d.line), ("column".toList, .number d.column),
        ("severity".toList, .string d.severity.name), ("text".toList, .string d.text),
        ("code".toList, .string d.code)])),
      ("summary".toList, .object [
        ("errors".toList, .number (ds.countP (·.severity == .error))),
        ("warnings".toList, .number (ds.countP (·.severity == .warning)))])]) ∧
      Function.Injective json := by
  refine ⟨Json.read?_write (document ds), fun a b hab => ?_⟩
  have hread : some (document a) = some (document b) := by
    rw [← Json.read?_write (document a), ← Json.read?_write (document b)]
    exact congrArg Json.read? hab
  exact document_inj (Option.some.inj hread)

end Report

end PascalLint
