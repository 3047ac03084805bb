import Mathlib.Data.List.Basic

namespace Systems.Csv

inductive LineBreak
  | lf
  | crlf
  deriving DecidableEq, Repr

def LineBreak.text : LineBreak → List Char
  | .lf => ['\n']
  | .crlf => ['\r', '\n']

inductive Place
  | start
  | plain
  | quoted
  | closed
  | carriageReturn
  deriving DecidableEq, Repr

structure Rest where
  field : List Char
  fields : List (List Char)
  records : List (List (List Char))
  deriving DecidableEq, Repr

namespace Rest

def all (rest : Rest) : List (List (List Char)) := (rest.field :: rest.fields) :: rest.records

def push (text : List Char) (rest : Rest) : Rest := { rest with field := text ++ rest.field }

def next (rest : Rest) : Rest := ⟨[], rest.field :: rest.fields, rest.records⟩

end Rest

def lines (text : List Char) (rest : Option Rest) : Option (List (List (List Char))) :=
  if text = [] then some [] else rest.map Rest.all

def separates (c : Char) : Bool := c = ',' || c = '\x22' || c = '\n' || c = '\r'

def rest : Place → List Char → Option Rest
  | .quoted, [] => none
  | .carriageReturn, [] => none
  | _, [] => some ⟨[], [], []⟩
  | .quoted, c :: text =>
    if c = '\x22' then rest .closed text else (rest .quoted text).map (Rest.push [c])
  | .carriageReturn, c :: text =>
    if c = '\n' then (lines text (rest .start text)).map (Rest.mk [] []) else none
  | place, c :: text =>
    if c = ',' then (rest .start text).map Rest.next
    else if c = '\n' then (lines text (rest .start text)).map (Rest.mk [] [])
    else if c = '\r' then rest .carriageReturn text
    else if c = '\x22' then
      match place with
      | .start => rest .quoted text
      | .closed => (rest .quoted text).map (Rest.push [c])
      | _ => none
    else if place = .closed then none
    else (rest .plain text).map (Rest.push [c])

def records (text : List Char) : Option (List (List (List Char))) := lines text (rest .start text)

def read (text : String) : Option (List (List String)) :=
  (records text.toList).map fun records => records.map fun fields => fields.map String.ofList

example : read "a,\"b,\"\"c\"\r\n,d\n" = some [["a", "b,\"c"], ["", "d"]] := by decide

def escape (value : List Char) : List Char := value.flatMap fun c => if c = '\x22' then [c, c] else [c]

section Plain

variable {field : List Char} (plain : ∀ c ∈ field, separates c = false)

theorem separates_false {c : Char} : separates c = false ↔ c ≠ ',' ∧ c ≠ '\x22' ∧ c ≠ '\n' ∧ c ≠ '\r' := by
  simp [separates, and_assoc]

theorem rest_letter {c : Char} (letter : separates c = false) (text : List Char) :
    rest .plain (c :: text) = (rest .plain text).map (Rest.push [c]) := by
  obtain ⟨comma, quote, lineFeed, carriageReturn⟩ := separates_false.mp letter
  simp [rest, comma, quote, lineFeed, carriageReturn]

include plain in
theorem rest_append (text : List Char) :
    rest .plain (field ++ text) = (rest .plain text).map (Rest.push field) := by
  induction field with
  | nil =>
    rw [List.nil_append]
    cases rest .plain text <;> rfl
  | cons c field ih =>
    rw [List.cons_append, rest_letter (plain c List.mem_cons_self),
      ih fun d inside => plain d (List.mem_cons_of_mem c inside), Option.map_map]
    congr 1

theorem rest_start (text : List Char) (unquoted : text.head? ≠ some '\x22') : rest .start text = rest .plain text := by
  cases text with
  | nil => rfl
  | cons c text =>
    have quote : c ≠ '\x22' := fun same => unquoted (congrArg some same)
    simp [rest, quote]

theorem rest_comma (text : List Char) : rest .plain (',' :: text) = (rest .start text).map Rest.next := by
  simp [rest]

theorem rest_break (lineBreak : LineBreak) (text : List Char) :
    rest .plain (lineBreak.text ++ text) = (records text).map (Rest.mk [] []) := by
  cases lineBreak <;> simp [rest, LineBreak.text, records]

include plain in
theorem head_append {text : List Char} (unquoted : text.head? ≠ some '\x22') :
    (field ++ text).head? ≠ some '\x22' := by
  cases field with
  | nil => exact unquoted
  | cons c field =>
    intro quote
    have same : c = '\x22' := Option.some.inj quote
    exact (separates_false.mp (plain c List.mem_cons_self)).2.1 same

include plain in
theorem rest_field (text : List Char) (unquoted : text.head? ≠ some '\x22') :
    rest .start (field ++ text) = (rest .plain text).map (Rest.push field) := by
  rw [rest_start _ (head_append plain unquoted), rest_append plain]

end Plain

section Records

/-- Fields without separators are read back as they are, and the text behind the line break on its own. -/
theorem records_append {fields : List (List Char)} (nonempty : fields ≠ [])
    (plain : ∀ field ∈ fields, ∀ c ∈ field, separates c = false) (lineBreak : LineBreak) (text : List Char) :
    records ([','].intercalate fields ++ lineBreak.text ++ text) = (records text).map (fields :: ·) := by
  have started : rest .start ([','].intercalate fields ++ lineBreak.text ++ text) =
      (records text).map (fun others => ⟨fields.head nonempty, fields.tail, others⟩) := by
    induction fields with
    | nil => exact absurd rfl nonempty
    | cons field fields ih =>
      have plainField := plain field List.mem_cons_self
      cases fields with
      | nil =>
        have unquoted : (lineBreak.text ++ text).head? ≠ some '\x22' := by cases lineBreak <;> simp [LineBreak.text]
        rw [List.intercalate_singleton, List.append_assoc, rest_field plainField _ unquoted, rest_break,
          Option.map_map]
        simp [Rest.push, Function.comp_def]
      | cons second fields =>
        have later := ih (by simp) fun other inside => plain other (List.mem_cons_of_mem field inside)
        rw [List.intercalate_cons_cons, List.append_assoc, List.append_assoc, List.append_assoc,
          List.singleton_append, rest_field plainField _ (by simp), rest_comma, ← List.append_assoc, later,
          Option.map_map, Option.map_map]
        simp [Rest.push, Rest.next, Function.comp_def]
  have whole : [','].intercalate fields ++ lineBreak.text ++ text ≠ [] := by cases lineBreak <;> simp [LineBreak.text]
  unfold records at started ⊢
  rw [lines, if_neg whole, started, Option.map_map]
  congr 1
  funext others
  exact congrArg (· :: others) (List.cons_head_tail nonempty)

end Records

section Fields

theorem rest_separator {c : Char} (separator : separates c = true) {text : List Char} {result : Rest}
    (read : rest .plain (c :: text) = some result) : result.field = [] := by
  rcases Classical.em (c = ',') with rfl | comma
  · obtain ⟨later, -, rfl⟩ := Option.map_eq_some_iff.mp ((rest_comma text).symm.trans read)
    rfl
  rcases Classical.em (c = '\n') with rfl | lineFeed
  · obtain ⟨later, -, rfl⟩ := Option.map_eq_some_iff.mp ((rest_break .lf text).symm.trans read)
    rfl
  rcases Classical.em (c = '\r') with rfl | carriageReturn
  · cases text with
    | nil => cases read
    | cons d text =>
      have behind : rest .carriageReturn (d :: text) = some result := read
      simp only [rest] at behind
      split at behind
      · obtain ⟨later, -, rfl⟩ := Option.map_eq_some_iff.mp behind
        rfl
      · cases behind
  · have quote : c = '\x22' := by
      by_contra other
      exact absurd separator (by rw [separates_false.mpr ⟨comma, other, lineFeed, carriageReturn⟩]; decide)
    subst quote
    cases read

theorem plain_field {text : List Char} {result : Rest} (read : rest .plain text = some result) :
    ∀ c ∈ result.field, separates c = false := by
  induction text generalizing result with
  | nil =>
    obtain rfl := Option.some.inj read
    exact fun c inside => absurd inside List.not_mem_nil
  | cons first text ih =>
    cases separator : separates first with
    | true =>
      rw [rest_separator separator read]
      exact fun c inside => absurd inside List.not_mem_nil
    | false =>
      rw [rest_letter separator] at read
      obtain ⟨later, readLater, rfl⟩ := Option.map_eq_some_iff.mp read
      intro c inside
      rcases List.mem_cons.mp inside with rfl | inside
      · exact separator
      · exact ih readLater c inside

theorem rest_closed {text : List Char} {result : Rest} (read : rest .closed text = some result) :
    result.field = [] ∨
      ∃ text' later, text = '\x22' :: text' ∧ rest .quoted text' = some later ∧ result = later.push ['\x22'] := by
  cases text with
  | nil =>
    obtain rfl := Option.some.inj read
    exact Or.inl rfl
  | cons c text =>
    rcases Classical.em (c = '\x22') with rfl | quote
    · obtain ⟨later, readLater, rfl⟩ := Option.map_eq_some_iff.mp read
      exact Or.inr ⟨text, later, rfl, readLater, rfl⟩
    · left
      cases separator : separates c with
      | true =>
        have same : rest .closed (c :: text) = rest .plain (c :: text) := by
          simp only [separates, quote, Bool.or_eq_true, decide_eq_true_eq, decide_false, or_false,
            Bool.false_eq_true] at separator
          rcases separator with (rfl | rfl) | rfl <;> rfl
        exact rest_separator separator (same.symm.trans read)
      | false =>
        obtain ⟨comma, -, lineFeed, carriageReturn⟩ := separates_false.mp separator
        simp [rest, comma, quote, lineFeed, carriageReturn] at read

theorem escape_cons (c : Char) (value : List Char) :
    escape (c :: value) = (if c = '\x22' then [c, c] else [c]) ++ escape value := List.flatMap_cons

theorem quoted_field (text : List Char) :
    (∀ result, rest .quoted text = some result → ∃ after, text = escape result.field ++ '\x22' :: after) ∧
    ∀ result, rest .closed text = some result → ∃ after, '\x22' :: text = escape result.field ++ '\x22' :: after := by
  induction text with
  | nil =>
    constructor
    · intro result read
      cases read
    · intro result read
      obtain rfl := Option.some.inj read
      exact ⟨[], rfl⟩
  | cons c text ih =>
    constructor <;> intro result read
    · rcases Classical.em (c = '\x22') with rfl | letter
      · exact ih.2 result read
      · have pushed : rest .quoted (c :: text) = (rest .quoted text).map (Rest.push [c]) := if_neg letter
        obtain ⟨later, readLater, rfl⟩ := Option.map_eq_some_iff.mp (pushed.symm.trans read)
        obtain ⟨after, same⟩ := ih.1 later readLater
        refine ⟨after, ?_⟩
        rw [same, Rest.push, List.singleton_append, escape_cons, if_neg letter, List.append_assoc]
        rfl
    · rcases rest_closed read with none | ⟨text', later, same, readLater, rfl⟩
      · exact ⟨c :: text, by rw [none]; rfl⟩
      · obtain ⟨rfl, rfl⟩ := List.cons.inj same
        obtain ⟨after, same⟩ := ih.1 later readLater
        refine ⟨after, ?_⟩
        rw [same, Rest.push, List.singleton_append, escape_cons, if_pos rfl, List.append_assoc]
        rfl

/-- A text that starts with `value` and a comma does not start with `value` between quotation marks: there are
    more quotation marks at the start of that. -/
theorem escape_ne (value before after : List Char) (count : ℕ) :
    value ++ ',' :: before ≠ List.replicate (count + 1) '\x22' ++ escape value ++ after := by
  induction value generalizing count with
  | nil => simp [List.replicate_succ]
  | cons c value ih =>
    intro same
    rw [List.replicate_succ, List.cons_append, List.cons_append, List.cons_append] at same
    obtain ⟨rfl, same⟩ := List.cons.inj same
    refine ih (count + 1) (same.trans ?_)
    rw [escape_cons, if_pos rfl, List.replicate_succ', List.replicate_succ']
    simp only [List.append_assoc, List.cons_append, List.nil_append]

/-- A first field that is read back as it stands has no separators in it. -/
theorem records_first {value text : List Char} {fields : List (List Char)} {others : List (List (List Char))}
    (read : records (value ++ ',' :: text) = some ((value :: fields) :: others)) :
    (∀ c ∈ value, separates c = false) ∧
      ∃ result, rest .start text = some result ∧ fields = result.field :: result.fields := by
  have nonempty : value ++ ',' :: text ≠ [] := by simp
  rw [records, lines, if_neg nonempty] at read
  obtain ⟨result, started, same⟩ := Option.map_eq_some_iff.mp read
  obtain ⟨inFirst, rfl⟩ := List.cons.inj same
  obtain ⟨rfl, rfl⟩ := List.cons.inj inFirst
  have plain : ∀ c ∈ result.field, separates c = false := by
    rcases Classical.em ((result.field ++ ',' :: text).head? = some '\x22') with quoted | unquoted
    · exfalso
      obtain ⟨tail, starts⟩ := List.head?_eq_some_iff.mp quoted
      rw [starts] at started
      obtain ⟨after, ends⟩ := (quoted_field tail).1 result started
      refine escape_ne result.field text ('\x22' :: after) 0 ?_
      rw [starts, ends]
      rfl
    · exact plain_field ((rest_start _ unquoted).symm.trans started)
  rw [rest_field plain _ (by simp), rest_comma, Option.map_map] at started
  obtain ⟨later, readLater, same⟩ := Option.map_eq_some_iff.mp started
  exact ⟨plain, later, readLater, congrArg Rest.fields same.symm⟩

end Fields

section Strings

def Plain (text : String) : Prop := ∀ c ∈ text.toList, separates c = false

theorem Plain.append {first second : String} (plainFirst : Plain first) (plainSecond : Plain second) :
    Plain (first ++ second) := by
  intro c inside
  rw [String.toList_append] at inside
  rcases List.mem_append.mp inside with inFirst | inSecond
  · exact plainFirst c inFirst
  · exact plainSecond c inSecond

theorem plain_of_all (text : String) (checked : text.toList.all (fun c => !separates c) = true) : Plain text := by
  intro c inside
  have letter := List.all_eq_true.mp checked c inside
  exact Bool.not_eq_true' _ ▸ letter

variable {fields : List String} (nonempty : fields ≠ []) (plain : ∀ field ∈ fields, Plain field)
  (lineBreak : LineBreak)

include nonempty plain in
theorem read_append (text : String) :
    read (",".intercalate fields ++ String.ofList lineBreak.text ++ text) = (read text).map (fields :: ·) := by
  have plainLetters : ∀ field ∈ fields.map String.toList, ∀ c ∈ field, separates c = false := by
    intro field inside
    obtain ⟨given, inFields, rfl⟩ := List.mem_map.mp inside
    exact plain given inFields
  have texts : (fields.map String.toList).map String.ofList = fields := by
    rw [List.map_map]
    exact List.map_id'' (fun field => String.ofList_toList) fields
  unfold read
  rw [String.toList_append, String.toList_append, String.toList_intercalate, String.toList_ofList,
    String.toList_ofList, records_append (fun none => nonempty (List.map_eq_nil_iff.mp none)) plainLetters,
    Option.map_map, Option.map_map]
  congr 1
  funext others
  exact congrArg (· :: _) texts

theorem read_first {value text : String} {others : List (List String)}
    (back : read (value ++ "," ++ text) = some ((value :: fields) :: others)) :
    Plain value ∧ ∃ result, rest .start text.toList = some result ∧
      fields.head? = some (String.ofList result.field) := by
  obtain ⟨letters, inLetters, same⟩ := Option.map_eq_some_iff.mp back
  obtain ⟨record, otherLetters, rfl, sameRecord, -⟩ := List.map_eq_cons_iff.mp same
  obtain ⟨first, later, rfl, rfl, rfl⟩ := List.map_eq_cons_iff.mp sameRecord
  rw [String.toList_append, String.toList_append, List.append_assoc, String.toList_ofList] at inLetters
  obtain ⟨plain, result, started, rfl⟩ := records_first inLetters
  have plainValue : Plain (String.ofList first) := by
    unfold Plain
    rwa [String.toList_ofList]
  exact ⟨plainValue, result, started, rfl⟩

end Strings

end Systems.Csv
