import Mathlib.Data.List.Basic
import SqlWorkload.Text.Csv
/-!
# Reading comma-separated values

A reader that knows nothing of how the text was written. A field is bare or stands between quote
marks; between them a mark is written twice, and commas and line ends are text. A line ends with a
line feed, which may have a carriage return in front of it; the last line end may be missing. Any
other mark or carriage return is a fault.

    a field as it is written is read as its text                              (read_field)
    a record as it is written is read as its fields                           (read_record)
    records written one after the other are read as they were                 (read_records)
-/

namespace SqlWorkload.Text.Csv

/-! ## Algorithm -/

/-- Where in a field a reader is. -/
inductive Place where
  | start
  | bare
  | quoted
  /-- After a mark between marks: the end of the field, or half of a mark written twice. -/
  | closing
  /-- After a carriage return. -/
  | ending
deriving DecidableEq

/-- Whether the field may be over. -/
def Place.mayEnd : Place → Bool
  | .start | .bare | .closing => true
  | .quoted | .ending => false

/-- Whether the character cannot be text of a bare field. -/
def isMark (c : Char) : Bool := c ∈ [',', '"', '\n', '\r']

structure Reader where
  place : Place := .start
  /-- What has been read of the field, of the fields of the record, and of the records. -/
  text : List Char := []
  fields : List String := []
  records : List (List String) := []

namespace Reader

def endField (r : Reader) : Reader :=
  { r with place := .start, text := [], fields := r.fields ++ [String.ofList r.text] }

def endRecord (r : Reader) : Reader :=
  { records := r.records ++ [r.endField.fields] }

/-- What may come after a field. -/
def separate (r : Reader) (c : Char) : Option Reader :=
  if c = ',' then some r.endField
  else if c = '\n' then some r.endRecord
  else if c = '\r' then some { r with place := .ending }
  else none

/-- A character that is part of the field at a place. -/
def push (r : Reader) (c : Char) (place : Place) : Reader :=
  { r with place, text := r.text ++ [c] }

def step (r : Reader) (c : Char) : Option Reader :=
  match r.place with
  | .start =>
    if c = '"' then some { r with place := .quoted }
    else if isMark c then r.separate c
    else some (r.push c .bare)
  | .bare =>
    if isMark c then r.separate c
    else some (r.push c .bare)
  | .quoted => some (if c = '"' then { r with place := .closing } else r.push c .quoted)
  | .closing => if c = '"' then some (r.push c .quoted) else r.separate c
  | .ending => if c = '\n' then some r.endRecord else none

/-- The records at the end of the text. Nothing after a line end is no record. -/
def finish (r : Reader) : Option (List (List String)) :=
  match r.place with
  | .start => some (if r.fields = [] then r.records else r.endRecord.records)
  | .bare | .closing => some r.endRecord.records
  | .quoted | .ending => none

end Reader

/-- The records of a text, if it has no fault. -/
def read (s : String) : Option (List (List String)) := do
  (← s.toList.foldlM Reader.step {}).finish

/-! ## Fields -/

/-- What a writer puts in quotes is what a reader takes for a mark. -/
theorem isSpecial_eq : isSpecial = isMark := by
  funext c
  rw [Bool.eq_iff_iff]
  simp [isSpecial, isMark, or_assoc]

namespace Reader

/-- What is read of a text is where its continuation is read from. -/
theorem foldlM_append_of_eq {s : List Char} {r r' : Reader} (h : s.foldlM step r = some r')
    (t : List Char) : (s ++ t).foldlM step r = t.foldlM step r' := by
  rw [List.foldlM_append, h]
  rfl

theorem step_eq_separate {r : Reader} (h : r.place.mayEnd = true) {c : Char}
    (hc : c = ',' ∨ c = '\n') : r.step c = r.separate c := by
  have hmark' : isMark c = true := by rcases hc with rfl | rfl <;> rfl
  have hmark : c ≠ '"' := by rcases hc with rfl | rfl <;> decide
  unfold step
  split <;> simp_all [Place.mayEnd]

theorem step_comma {r : Reader} (h : r.place.mayEnd = true) : r.step ',' = some r.endField :=
  step_eq_separate h (.inl rfl)

theorem step_lineFeed {r : Reader} (h : r.place.mayEnd = true) : r.step '\n' = some r.endRecord :=
  step_eq_separate h (.inr rfl)

/-- Characters that are no marks are text of a bare field. -/
theorem foldlM_bare {s : List Char} (hs : ∀ c ∈ s, isMark c = false) (r : Reader)
    (hr : r.place = .bare) : s.foldlM step r = some { r with text := r.text ++ s } := by
  induction s generalizing r with
  | nil => simp
  | cons c rest ih =>
    obtain ⟨hc, hrest⟩ := List.forall_mem_cons.1 hs
    have hstep : r.step c = some (r.push c .bare) := by simp [step, hr, hc]
    rw [List.foldlM_cons, hstep]
    refine (ih hrest (r.push c .bare) rfl).trans ?_
    simp [push, hr]

/-- Between marks all is text, and a mark written twice is one mark. -/
theorem foldlM_quoted (s : List Char) (r : Reader) (hr : r.place = .quoted) :
    (double '"' s).foldlM step r = some { r with text := r.text ++ s } := by
  induction s generalizing r with
  | nil => simp
  | cons c rest ih =>
    have hnext : { r.push c .quoted with text := (r.push c .quoted).text ++ rest } =
        { r with text := r.text ++ c :: rest } := by simp [push, hr]
    by_cases hc : c = '"'
    · subst hc
      have hfirst : r.step '"' = some { r with place := .closing } := by simp [step, hr]
      have hsecond : { r with place := .closing : Reader }.step '"' =
          some (r.push '"' .quoted) := rfl
      rw [double, if_pos rfl, List.foldlM_cons, hfirst]
      show ('"' :: double '"' rest).foldlM step { r with place := .closing } = _
      rw [List.foldlM_cons, hsecond]
      exact (ih (r.push '"' .quoted) rfl).trans (congrArg some hnext)
    · have hstep : r.step c = some (r.push c .quoted) := by simp [step, hr, hc]
      rw [double, if_neg hc, List.foldlM_cons, hstep]
      exact (ih (r.push c .quoted) rfl).trans (congrArg some hnext)

end Reader

open Reader

theorem read_field (s : String) (fields : List String) (records : List (List String)) :
    ∃ place : Place, place.mayEnd = true ∧
      (field s).toList.foldlM step { fields, records } =
        some { place, text := s.toList, fields, records } := by
  unfold field
  split
  · refine ⟨.closing, rfl, ?_⟩
    rw [toList_quote, List.foldlM_cons]
    show (double '"' s.toList ++ ['"']).foldlM step { place := .quoted, fields, records } = _
    rw [List.foldlM_append, foldlM_quoted _ _ rfl]
    rfl
  · next hplain =>
    have hs : ∀ c ∈ s.toList, isMark c = false := by simpa [needsQuotes, isSpecial_eq] using hplain
    cases h : s.toList with
    | nil => exact ⟨.start, rfl, rfl⟩
    | cons c rest =>
      rw [h] at hs
      obtain ⟨hc, hrest⟩ := List.forall_mem_cons.1 hs
      have hmark : c ≠ '"' := by
        rintro rfl
        contradiction
      have hstep : step { fields, records } c =
          some { place := .bare, text := [c], fields, records } := by
        simp [step, hmark, hc, push]
      refine ⟨.bare, rfl, ?_⟩
      rw [List.foldlM_cons, hstep]
      exact foldlM_bare hrest _ rfl

/-! ## Records -/

theorem read_record {fields : List String} (h : fields ≠ []) (records : List (List String)) :
    (record fields).toList.foldlM step { records } = some { records := records ++ [fields] } := by
  -- the induction is on the fields to come, behind those that have been read
  suffices H : ∀ front : List String,
      ((joinWith "," (fields.map field)).toList ++ ['\n']).foldlM step
          { fields := front, records } =
        some { records := records ++ [front ++ fields] } by
    rw [record, String.toList_append]
    exact H []
  induction fields with
  | nil => contradiction
  | cons s rest ih =>
    intro front
    obtain ⟨place, hplace, hread⟩ := read_field s front records
    have hjoin : (joinWith "," ((s :: rest).map field)).toList = (field s).toList ++
        if rest = [] then [] else ',' :: (joinWith "," (rest.map field)).toList := by
      cases rest <;> simp [joinWith]
    rw [hjoin, List.append_assoc, foldlM_append_of_eq hread]
    by_cases hrest : rest = []
    · subst hrest
      simp [step_lineFeed (r := ⟨place, s.toList, front, records⟩) hplace, endRecord, endField]
    · rw [if_neg hrest, List.cons_append, List.foldlM_cons,
        step_comma (r := ⟨place, s.toList, front, records⟩) hplace]
      simpa [endField] using ih hrest (front ++ [s])

theorem foldlM_records {l : List (List String)} (h : ∀ fields ∈ l, fields ≠ [])
    (records : List (List String)) :
    (l.flatMap fun fields => (record fields).toList).foldlM step { records } =
      some { records := records ++ l } := by
  induction l generalizing records with
  | nil => simp
  | cons fields rest ih =>
    obtain ⟨hfields, hrest⟩ := List.forall_mem_cons.1 h
    rw [List.flatMap_cons, foldlM_append_of_eq (read_record hfields records), ih hrest,
      List.append_assoc]
    rfl

/-- Nothing is lost and nothing is added by writing and reading. -/
theorem read_records {l : List (List String)} (h : ∀ fields ∈ l, fields ≠ []) :
    read (String.join (l.map record)) = some l := by
  rw [read, String.toList_join, List.flatMap_map, foldlM_records h]
  rfl

example : read "a,\"b \"\"c\"\"\r\n,d\",\r\n\"\"" = some [["a", "b \"c\"\r\n,d", ""], [""]] := by
  decide +kernel

example : read "a,b\"c\"\n" = none := by decide +kernel

end SqlWorkload.Text.Csv
