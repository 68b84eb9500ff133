import Mathlib.Data.List.Basic

/-!
# Comma-separated values

The grammar of RFC 4180, with every character but the comma, the quote, CR and LF as text, and
what the files that a writer renders read as.

* `Field`, `Record`, `Records`, `File`: the grammar.
* `go_record`, `go_records`: an automaton reads what the grammar derives, and reads it in one way.
* `Stray`: a text with a bare CR; no field, and no file has it for one.
* `file_render_iff`: a file that is rendered of fields is the file of their values and of no
  others.
* `not_file_render`: one that is rendered of fields and of stray texts is not a file.
-/

namespace Csv

def dquote : Char := '\x22'

def crlf : List Char := ['\r', '\n']

/-- A character that ends an unquoted field or may not be in one. -/
def isSpecial (c : Char) : Bool := c = ',' || c = dquote || c = '\r' || c = '\n'

theorem isSpecial_eq_false {c : Char} :
    isSpecial c = false ↔ (c ≠ ',' ∧ c ≠ dquote ∧ c ≠ '\n') ∧ c ≠ '\r' := by
  simp only [isSpecial, Bool.or_eq_false_iff, decide_eq_false_iff_not]
  tauto

/-! ## The grammar -/

/-- The inside of a quoted field. -/
inductive Escaped : List Char → List Char → Prop
  | nil : Escaped [] []
  | char {c : Char} {t v : List Char} : c ≠ dquote → Escaped t v → Escaped (c :: t) (c :: v)
  | quote {t v : List Char} : Escaped t v → Escaped (dquote :: dquote :: t) (dquote :: v)

/-- A text and the value that it is the field of. -/
inductive Field : List Char → List Char → Prop
  | bare {t : List Char} : (∀ c ∈ t, isSpecial c = false) → Field t t
  | quoted {t v : List Char} : Escaped t v → Field (dquote :: (t ++ [dquote])) v

inductive Record : List Char → List (List Char) → Prop
  | one {t v : List Char} : Field t v → Record t [v]
  | cons {t t' v : List Char} {row : List (List Char)} : Field t v → Record t' row →
      Record (t ++ ',' :: t') (v :: row)

inductive Records : List Char → List (List (List Char)) → Prop
  | one {t : List Char} {row : List (List Char)} : Record t row → Records t [row]
  | cons {t t' : List Char} {row : List (List Char)} {rows : List (List (List Char))} :
      Record t row → Records t' rows → Records (t ++ (crlf ++ t')) (row :: rows)

/-- The last record may have a line break after it or not. -/
def File (t : List Char) (rows : List (List (List Char))) : Prop :=
  Records t rows ∨ ∃ t', t = t' ++ crlf ∧ Records t' rows

theorem Records.concat_empty {t : List Char} {rows : List (List (List Char))}
    (h : Records t rows) : Records (t ++ crlf) (rows ++ [[[]]]) := by
  have hempty : Records [] [[[]]] := .one (.one (.bare (by simp)))
  induction h with
  | one hrow => simpa using Records.cons hrow hempty
  | cons hrow _ ih =>
    rw [List.append_assoc, List.append_assoc]
    exact .cons hrow ih

/-! ## Reading -/

/-- Where a reader is in a field. -/
inductive Mode
  | start
  | bare
  | quoted
  | closed
  | cr
  deriving DecidableEq

/-- What is left of a file inside a field: the rest of it, the fields after it in its record, and
the records after that one. -/
structure Rest where
  field : List Char
  fields : List (List Char)
  records : List (List (List Char))

namespace Rest

def add (v : List Char) (r : Rest) : Rest := { r with field := v ++ r.field }

def comma (r : Rest) : Rest := ⟨[], r.field :: r.fields, r.records⟩

def rows (r : Rest) : List (List (List Char)) := (r.field :: r.fields) :: r.records

def newline (r : Rest) : Rest := ⟨[], [], r.rows⟩

/-- The record is read before the rest. -/
def addRecord : List (List Char) → Rest → Rest
  | [], r => r
  | [v], r => r.add v
  | v :: row, r => ((r.addRecord row).comma).add v

theorem add_nil : add [] = id := rfl

theorem add_comp_add (v w : List Char) : add v ∘ add w = add (v ++ w) := by
  funext r
  simp [add]

theorem rows_add_comma {r : Rest} {v : List Char} {row : List (List Char)}
    {rows : List (List (List Char))} (h : r.rows = row :: rows) :
    (r.comma.add v).rows = (v :: row) :: rows := by
  obtain ⟨rfl, rfl⟩ := List.cons.inj h
  simp [add, comma, Rest.rows]

end Rest

/-- The reader, from a place in a field. -/
def go : Mode → List Char → Option Rest
  | .quoted, [] => none
  | .cr, [] => none
  | _, [] => some ⟨[], [], []⟩
  | .quoted, c :: cs => if c = dquote then go .closed cs else (go .quoted cs).map (.add [c])
  | .cr, c :: cs => if c = '\n' then (go .start cs).map .newline else none
  | .start, c :: cs =>
    if c = ',' then (go .start cs).map .comma
    else if c = '\r' then go .cr cs
    else if c = dquote then go .quoted cs
    else if c = '\n' then none
    else (go .bare cs).map (.add [c])
  | .bare, c :: cs =>
    if c = ',' then (go .start cs).map .comma
    else if c = '\r' then go .cr cs
    else if isSpecial c then none
    else (go .bare cs).map (.add [c])
  | .closed, c :: cs =>
    if c = ',' then (go .start cs).map .comma
    else if c = '\r' then go .cr cs
    else if c = dquote then (go .quoted cs).map (.add [dquote])
    else none

/-- What comes after a field. -/
inductive Delimited : List Char → Prop
  | eof : Delimited []
  | comma (cs : List Char) : Delimited (',' :: cs)
  | newline (cs : List Char) : Delimited (crlf ++ cs)

/-- What comes after a record. -/
inductive Ended : List Char → Prop
  | eof : Ended []
  | newline (cs : List Char) : Ended (crlf ++ cs)

theorem Ended.delimited {rest : List Char} (h : Ended rest) : Delimited rest := by
  cases h with
  | eof => exact .eof
  | newline cs => exact .newline cs

@[simp] theorem go_comma (cs : List Char) : go .bare (',' :: cs) = (go .start cs).map .comma := rfl

@[simp] theorem go_crlf (cs : List Char) :
    go .bare (crlf ++ cs) = (go .start cs).map .newline := rfl

theorem go_closed {rest : List Char} (h : Delimited rest) : go .closed rest = go .bare rest := by
  cases h <;> rfl

theorem go_start {rest : List Char} (h : Delimited rest) : go .start rest = go .bare rest := by
  cases h <;> rfl

theorem go_bare_cons {c : Char} (hc : isSpecial c = false) (cs : List Char) :
    go .bare (c :: cs) = (go .bare cs).map (.add [c]) := by
  obtain ⟨⟨hcomma, -, -⟩, hcr⟩ := isSpecial_eq_false.mp hc
  rw [go, if_neg hcomma, if_neg hcr, hc, if_neg Bool.false_ne_true]

theorem go_start_cons {c : Char} (hc : isSpecial c = false) (cs : List Char) :
    go .start (c :: cs) = (go .bare cs).map (.add [c]) := by
  obtain ⟨⟨hcomma, hquote, hlf⟩, hcr⟩ := isSpecial_eq_false.mp hc
  rw [go, if_neg hcomma, if_neg hcr, if_neg hquote, if_neg hlf]

theorem go_bare_append {t : List Char} (h : ∀ c ∈ t, isSpecial c = false) (rest : List Char) :
    go .bare (t ++ rest) = (go .bare rest).map (.add t) := by
  induction t with
  | nil => rw [Rest.add_nil, Option.map_id, List.nil_append, id]
  | cons c t ih =>
    rw [List.forall_mem_cons] at h
    rw [List.cons_append, go_bare_cons h.1, ih h.2, Option.map_map, Rest.add_comp_add,
      List.singleton_append]

theorem go_escaped {t v : List Char} (h : Escaped t v) (rest : List Char) :
    go .quoted (t ++ dquote :: rest) = (go .closed rest).map (.add v) := by
  induction h with
  | nil => rw [Rest.add_nil, Option.map_id, List.nil_append, go, if_pos rfl, id]
  | @char c t v hc _ ih =>
    rw [List.cons_append, go, if_neg hc, ih, Option.map_map, Rest.add_comp_add,
      List.singleton_append]
  | @quote t v _ ih =>
    have hread : go .quoted (dquote :: dquote :: (t ++ dquote :: rest)) =
        (go .quoted (t ++ dquote :: rest)).map (.add [dquote]) := rfl
    rw [List.cons_append, List.cons_append, hread, ih, Option.map_map, Rest.add_comp_add,
      List.singleton_append]

theorem go_field {t v : List Char} (h : Field t v) {rest : List Char} (hrest : Delimited rest) :
    go .start (t ++ rest) = (go .bare rest).map (.add v) := by
  cases h with
  | bare ht =>
    cases t with
    | nil => rw [Rest.add_nil, Option.map_id, List.nil_append, go_start hrest, id]
    | cons c t =>
      rw [← go_bare_append ht, List.cons_append, go_bare_cons (ht c List.mem_cons_self),
        go_start_cons (ht c List.mem_cons_self)]
  | @quoted t v ht =>
    have hread : go .start (dquote :: (t ++ dquote :: rest)) =
        go .quoted (t ++ dquote :: rest) := rfl
    rw [List.cons_append, List.append_assoc, List.singleton_append, hread, go_escaped ht,
      go_closed hrest]

theorem go_record {t : List Char} {row : List (List Char)} (h : Record t row)
    {rest : List Char} (hrest : Ended rest) :
    go .start (t ++ rest) = (go .bare rest).map (.addRecord row) := by
  induction h with
  | one hfield => exact go_field hfield hrest.delimited
  | @cons t t' v row hfield hrow ih =>
    rw [List.append_assoc, List.cons_append, go_field hfield (.comma _), go_comma, ih,
      Option.map_map, Option.map_map]
    cases hrow <;> rfl

theorem rows_addRecord {t : List Char} {row : List (List Char)} (h : Record t row)
    (rows : List (List (List Char))) : (Rest.addRecord row ⟨[], [], rows⟩).rows = row :: rows := by
  induction h with
  | one _ => simp [Rest.addRecord, Rest.add, Rest.rows]
  | cons _ hrow ih => cases hrow <;> exact Rest.rows_add_comma ih

theorem go_records {t : List Char} {rows : List (List (List Char))} (h : Records t rows) :
    (go .start t).map Rest.rows = some rows := by
  induction h with
  | @one t row hrow =>
    have hread := go_record hrow .eof
    rw [List.append_nil] at hread
    rw [hread, Option.map_map]
    exact congrArg some (rows_addRecord hrow [])
  | @cons t t' row rows hrow _ ih =>
    obtain ⟨r, hr, rfl⟩ := Option.map_eq_some_iff.mp ih
    rw [go_record hrow (.newline _), go_crlf, hr]
    exact congrArg some (rows_addRecord hrow _)

theorem Records.unique {t : List Char} {rows rows' : List (List (List Char))}
    (h : Records t rows) (h' : Records t rows') : rows = rows' :=
  Option.some.inj ((go_records h).symm.trans (go_records h'))

theorem go_ne_none_of_file {t : List Char} {rows : List (List (List Char))} (h : File t rows) :
    go .start t ≠ none := by
  have hrecords : ∀ {rows}, Records t rows → go .start t ≠ none := by
    intro rows h hnone
    have hread := go_records h
    rw [hnone] at hread
    cases hread
  rcases h with h | ⟨t', rfl, h⟩
  · exact hrecords h
  · exact hrecords h.concat_empty

/-- Unless it ends in a line break, a text is a file in one way at most. -/
theorem Records.file_iff {t : List Char} {rows rows' : List (List (List Char))}
    (h : Records t rows) (hlast : rows.getLast? ≠ some [[]]) : File t rows' ↔ rows' = rows := by
  constructor
  · rintro (h' | ⟨t', rfl, h'⟩)
    · exact h'.unique h
    · refine absurd ?_ hlast
      rw [← h'.concat_empty.unique h, List.getLast?_concat]
  · rintro rfl
    exact Or.inl h

/-! ## Stray line breaks -/

/-- A text that is not quoted and has a CR, but no LF after it. -/
def Stray (t : List Char) : Prop :=
  '\r' ∈ t ∧ ∀ c ∈ t, c ≠ ',' ∧ c ≠ dquote ∧ c ≠ '\n'

theorem go_cr_of_delimited {rest : List Char} (h : Delimited rest) : go .cr rest = none := by
  cases h <;> rfl

theorem go_bare_stray {t rest : List Char} (h : Stray t) (hrest : Delimited rest) :
    go .bare (t ++ rest) = none := by
  obtain ⟨hcr, hplain⟩ := h
  induction t with
  | nil => cases hcr
  | cons c t ih =>
    by_cases hc : c = '\r'
    · subst hc
      have hread : go .bare ('\r' :: t ++ rest) = go .cr (t ++ rest) := rfl
      rw [hread]
      cases t with
      | nil => exact go_cr_of_delimited hrest
      | cons d t =>
        rw [List.cons_append, go, if_neg (hplain d (by simp)).2.2]
    · have hspecial := isSpecial_eq_false.mpr ⟨hplain c List.mem_cons_self, hc⟩
      rw [List.cons_append, go_bare_cons hspecial,
        ih ((List.mem_cons.mp hcr).resolve_left (Ne.symm hc))
          (fun d hd => hplain d (List.mem_cons_of_mem c hd)), Option.map_none]

theorem go_stray {t rest : List Char} (h : Stray t) (hrest : Delimited rest) :
    go .start (t ++ rest) = none := by
  rw [← go_bare_stray h hrest]
  obtain ⟨hcr, hplain⟩ := h
  cases t with
  | nil => cases hcr
  | cons c t =>
    by_cases hc : c = '\r'
    · subst hc
      rfl
    · have hspecial := isSpecial_eq_false.mpr ⟨hplain c List.mem_cons_self, hc⟩
      rw [List.cons_append, go_start_cons hspecial, go_bare_cons hspecial]

/-! ## Writing -/

/-- How the values of a type are written: as fields, or else as stray texts. -/
structure Writer (α : Type*) where
  encode : α → List Char
  decode : α → List Char
  Safe : α → Prop
  field : ∀ a, Safe a → Field (encode a) (decode a)
  stray : ∀ a, ¬ Safe a → Stray (encode a)

namespace Writer

variable {α : Type*} (w : Writer α)

def renderRow (row : List α) : List Char := [','].intercalate (row.map w.encode)

def render (rows : List (List α)) : List Char := crlf.intercalate (rows.map w.renderRow)

theorem renderRow_cons (a : α) {row : List α} (hrow : row ≠ []) :
    w.renderRow (a :: row) = w.encode a ++ ',' :: w.renderRow row := by
  rw [renderRow, List.map_cons, List.intercalate_cons_of_ne_nil (by simpa using hrow),
    List.append_assoc, List.singleton_append, renderRow]

theorem render_cons (row : List α) {rows : List (List α)} (hrows : rows ≠ []) :
    w.render (row :: rows) = w.renderRow row ++ (crlf ++ w.render rows) := by
  rw [render, List.map_cons, List.intercalate_cons_of_ne_nil (by simpa using hrows),
    List.append_assoc, render]

variable {w}

theorem record {row : List α} (hne : row ≠ []) (h : ∀ a ∈ row, w.Safe a) :
    Record (w.renderRow row) (row.map w.decode) := by
  induction row with
  | nil => exact absurd rfl hne
  | cons a row ih =>
    rw [List.forall_mem_cons] at h
    by_cases hrow : row = []
    · subst hrow
      rw [renderRow, List.map_singleton, List.intercalate_singleton]
      exact .one (w.field a h.1)
    · rw [renderRow_cons w a hrow]
      exact .cons (w.field a h.1) (ih hrow h.2)

theorem records {rows : List (List α)} (hne : rows ≠ []) (hrows : ∀ row ∈ rows, row ≠ [])
    (h : ∀ row ∈ rows, ∀ a ∈ row, w.Safe a) :
    Records (w.render rows) (rows.map (·.map w.decode)) := by
  induction rows with
  | nil => exact absurd rfl hne
  | cons row rows ih =>
    rw [List.forall_mem_cons] at h hrows
    have hrow := record hrows.1 h.1
    by_cases hlast : rows = []
    · subst hlast
      rw [render, List.map_singleton, List.intercalate_singleton]
      exact .one hrow
    · rw [render_cons w row hlast]
      exact .cons hrow (ih hlast hrows.2 h.2)

theorem go_renderRow {row : List α} {rest : List Char} (hrest : Ended rest)
    (h : ∃ a ∈ row, ¬ w.Safe a) : go .start (w.renderRow row ++ rest) = none := by
  induction row with
  | nil => simp at h
  | cons a row ih =>
    by_cases hrow : row = []
    · subst hrow
      rw [renderRow, List.map_singleton, List.intercalate_singleton]
      exact go_stray (w.stray a (by simpa using h)) hrest.delimited
    rw [renderRow_cons w a hrow, List.append_assoc, List.cons_append]
    by_cases ha : w.Safe a
    · have hread := ih (by simpa [ha] using h)
      rw [go_field (w.field a ha) (.comma _), go_comma, hread, Option.map_none, Option.map_none]
    · exact go_stray (w.stray a ha) (.comma _)

theorem go_render {rows : List (List α)} (hrows : ∀ row ∈ rows, row ≠ [])
    (h : ∃ row ∈ rows, ∃ a ∈ row, ¬ w.Safe a) : go .start (w.render rows) = none := by
  induction rows with
  | nil => simp at h
  | cons row rows ih =>
    rw [List.forall_mem_cons] at hrows
    by_cases hlast : rows = []
    · subst hlast
      have hread := go_renderRow .eof (by simpa using h)
      rw [List.append_nil] at hread
      rw [render, List.map_singleton, List.intercalate_singleton, hread]
    rw [render_cons w row hlast]
    by_cases hrow : ∀ a ∈ row, w.Safe a
    · have hrest : ∃ row ∈ rows, ∃ a ∈ row, ¬ w.Safe a := by
        obtain ⟨row', hrow', a, ha, hsafe⟩ := h
        rcases List.mem_cons.mp hrow' with rfl | hrow'
        · exact absurd (hrow a ha) hsafe
        · exact ⟨row', hrow', a, ha, hsafe⟩
      rw [go_record (record hrows.1 hrow) (.newline _), go_crlf, ih hrows.2 hrest,
        Option.map_none, Option.map_none]
    · exact go_renderRow (.newline _) (by simpa using hrow)

/-- **Rendered fields read back as their values**, and as nothing else. -/
theorem file_render_iff {rows : List (List α)} (hne : rows ≠ [])
    (hrows : ∀ row ∈ rows, 2 ≤ row.length) (h : ∀ row ∈ rows, ∀ a ∈ row, w.Safe a)
    (values : List (List (List Char))) :
    File (w.render rows) values ↔ values = rows.map (·.map w.decode) := by
  have hrecords := records hne
    (fun row hrow => List.ne_nil_of_length_pos (Nat.zero_lt_of_lt (hrows row hrow))) h
  refine hrecords.file_iff ?_
  rw [List.getLast?_map]
  intro hlast
  obtain ⟨row, hrow, hempty⟩ := Option.map_eq_some_iff.mp hlast
  have hlength := hrows row (List.mem_of_getLast? hrow)
  rw [← List.length_map w.decode, hempty] at hlength
  simp at hlength

/-- **A stray text makes a file unreadable.** -/
theorem not_file_render {rows : List (List α)} (hrows : ∀ row ∈ rows, row ≠ [])
    (h : ∃ row ∈ rows, ∃ a ∈ row, ¬ w.Safe a) (values : List (List (List Char))) :
    ¬ File (w.render rows) values :=
  fun hfile => go_ne_none_of_file hfile (go_render hrows h)

end Writer

end Csv
