import Mathlib.Data.List.TakeWhile
import SqlWorkload.Catalog.TypeFamily
import SqlWorkload.Query.Operator
/-!
# The names of integer types

Which names are taken for those of integer types. Only the beginning and the end of a name are
looked at, so that a name that goes on after an integer type's, as that of a range of integers does,
is taken for one too. Of the names that begin with that of an integer type and a blank or a
parenthesis, nearly all are recognised.

    w <+: leadingWord t ↔ w <+: t, if w is a part of a word       (prefix_leadingWord_iff)
    a name is an integer type's for its first letters or its last (ofLowerName_eq_integer_iff)
    a name is taken for an integer type's and is one ↔ it is recognised
    a name is taken for an integer type's and is none ↔ it is mistaken
                                                                  (ofTypeName_eq_integer_iff)
-/

namespace SqlWorkload.TypeFamily

/-! ## Definitions -/

/-- What is classified: the name without the blanks at its two ends, in lower case. -/
def lowerName (name : String) : List Char := Text.lowercase (Text.trim name.toList)

/-- A blank ends a word, and so does a parenthesis. -/
def inWord (c : Char) : Bool := !Text.isBlank c && c != '('

/-- The first word of a name, without what stands behind it in parentheses. -/
def leadingWord (t : List Char) : List Char := t.takeWhile inWord

/-- The names of integer types that begin with one of `integerStems`. -/
def plainNames : List (List Char) :=
  ["int", "integer", "int1", "int2", "int3", "int4", "int8", "bigint", "smallint", "tinyint",
    "mediumint"].map String.toList

/-- The names of the integer types of PostgreSQL and MySQL. -/
def integerNames : List (List Char) :=
  plainNames ++ ["middleint", "smallserial", "serial", "bigserial", "serial2", "serial4",
    "serial8"].map String.toList

/-- The name is that of an integer type. -/
def NamesInteger (t : List Char) : Prop := leadingWord t ∈ integerNames

instance : DecidablePred NamesInteger := fun _ => inferInstanceAs (Decidable (_ ∈ _))

/-- By these letters at its beginning a name is taken for an integer type's. -/
def integerStems : List (List Char) :=
  ["int", "bigint", "smallint", "tinyint", "mediumint"].map String.toList

/-- By these it is taken for another's first. -/
def otherStems : List (List Char) := ["bool", "interval", "bit"].map String.toList

/-- An integer type that is taken for one: by its first word, whatever follows, or because the name
ends in `serial`. Left out is the type that stands for a boolean. -/
structure Recognised (t : List Char) : Prop where
  names : NamesInteger t
  not_boolean : t ≠ "tinyint(1)".toList
  known : leadingWord t ∈ plainNames ∨ "serial".toList <:+ t

/-- Another type that is taken for an integer type: its first word goes on after a stem, or its name
ends in `serial`. -/
structure Mistaken (t : List Char) : Prop where
  not_names : ¬ NamesInteger t
  not_other : ∀ w ∈ otherStems, ¬ w <+: leadingWord t
  similar : (∃ stem ∈ integerStems, ∃ rest, leadingWord t = stem ++ rest) ∨ "serial".toList <:+ t

/-! ## The classification -/

/-- What has neither blanks nor parentheses stands at the beginning of a name just if it stands at
the beginning of its first word. -/
theorem prefix_leadingWord_iff {w t : List Char} (hw : w.all inWord = true) :
    w <+: leadingWord t ↔ w <+: t := by
  constructor
  · exact fun h => h.trans (List.takeWhile_prefix _)
  · rintro ⟨rest, rfl⟩
    rw [leadingWord, List.takeWhile_append_of_pos (List.all_eq_true.1 hw)]
    exact List.prefix_append _ _

theorem ofLowerName_eq_integer_iff {t : List Char} : ofLowerName t = .integer ↔
    ¬("bool".toList <+: t ∨ t = "tinyint(1)".toList) ∧
      ¬("interval".toList <+: t ∨ "bit".toList <+: t ∨ t = "money".toList) ∧
      ((∃ stem ∈ integerStems, stem <+: t) ∨ "serial".toList <:+ t) := by
  have hstem : (∃ stem ∈ integerStems, stem <+: t) ↔ "int".toList <+: t ∨ "bigint".toList <+: t ∨
      "smallint".toList <+: t ∨ "tinyint".toList <+: t ∨ "mediumint".toList <+: t := by
    simp only [integerStems, List.map_cons, List.map_nil, List.mem_cons, List.not_mem_nil,
      or_and_right, exists_or, exists_eq_left, or_false]
  rw [hstem]
  unfold ofLowerName
  simp only [Bool.or_eq_true, decide_eq_true_eq, List.isPrefixOf_iff_prefix,
    List.isSuffixOf_iff_suffix, or_assoc]
  by_cases hbool : "bool".toList <+: t ∨ t = "tinyint(1)".toList
  · rw [if_pos hbool]
    exact iff_of_false nofun fun h => h.1 hbool
  by_cases hother : "interval".toList <+: t ∨ "bit".toList <+: t ∨ t = "money".toList
  · rw [if_neg hbool, if_pos hother]
    exact iff_of_false nofun fun h => h.2.1 hother
  rw [if_neg hbool, if_neg hother]
  split
  · next hled => exact iff_of_true rfl ⟨hbool, hother, hled⟩
  · next hled =>
    refine iff_of_false ?_ fun h => hled h.2.2
    repeat' split
    all_goals nofun

/-- In terms of the first word. Money has neither the beginning nor the end of an integer type. -/
theorem ofLowerName_eq_integer_iff_leadingWord {t : List Char} : ofLowerName t = .integer ↔
    (∀ w ∈ otherStems, ¬ w <+: leadingWord t) ∧ t ≠ "tinyint(1)".toList ∧
      ((∃ stem ∈ integerStems, stem <+: leadingWord t) ∨ "serial".toList <:+ t) := by
  have hword : ∀ w ∈ integerStems ++ otherStems, w <+: leadingWord t ↔ w <+: t := fun w hw =>
    prefix_leadingWord_iff (by revert w; decide)
  have hstem : (∃ stem ∈ integerStems, stem <+: leadingWord t) ↔
      ∃ stem ∈ integerStems, stem <+: t :=
    exists_congr fun w => and_congr_right fun hw => hword w (List.mem_append_left _ hw)
  have hother : (∀ w ∈ otherStems, ¬ w <+: leadingWord t) ↔
      ¬ "bool".toList <+: t ∧ ¬ "interval".toList <+: t ∧ ¬ "bit".toList <+: t := by
    rw [forall₂_congr fun w hw => not_congr (hword w (List.mem_append_right _ hw))]
    simp only [otherStems, List.map_cons, List.map_nil, List.forall_mem_cons, List.not_mem_nil,
      false_imp_iff, implies_true, and_true]
  have hmoney : (∃ stem ∈ integerStems, stem <+: t) ∨ "serial".toList <:+ t →
      t ≠ "money".toList := by
    rintro h rfl
    revert h
    decide
  rw [ofLowerName_eq_integer_iff, hstem, hother]
  constructor
  · rintro ⟨hbool, hother, h⟩
    obtain ⟨hbool, hboolean⟩ := not_or.1 hbool
    obtain ⟨hinterval, hrest⟩ := not_or.1 hother
    exact ⟨⟨hbool, hinterval, (not_or.1 hrest).1⟩, hboolean, h⟩
  · rintro ⟨⟨hbool, hinterval, hbit⟩, hboolean, h⟩
    exact ⟨not_or.2 ⟨hbool, hboolean⟩, not_or.2 ⟨hinterval, not_or.2 ⟨hbit, hmoney h⟩⟩, h⟩

theorem recognised_iff {t : List Char} :
    ofLowerName t = .integer ∧ NamesInteger t ↔ Recognised t := by
  have hnames {w : List Char} (hw : w ∈ integerNames) : (∀ v ∈ otherStems, ¬ v <+: w) ∧
      ((∃ stem ∈ integerStems, stem <+: w) ↔ w ∈ plainNames) := by
    revert w
    decide
  rw [ofLowerName_eq_integer_iff_leadingWord]
  constructor
  · rintro ⟨⟨-, hboolean, h⟩, ht⟩
    exact ⟨ht, hboolean, h.imp_left (hnames ht).2.1⟩
  · rintro ⟨ht, hboolean, h⟩
    exact ⟨⟨(hnames ht).1, hboolean, h.imp_left (hnames ht).2.2⟩, ht⟩

theorem mistaken_iff {t : List Char} :
    ofLowerName t = .integer ∧ ¬ NamesInteger t ↔ Mistaken t := by
  have hboolean : ¬ NamesInteger t → t ≠ "tinyint(1)".toList := by
    rintro h rfl
    revert h
    decide
  have hstem (stem : List Char) :
      stem <+: leadingWord t ↔ ∃ rest, leadingWord t = stem ++ rest :=
    exists_congr fun rest => eq_comm
  rw [ofLowerName_eq_integer_iff_leadingWord]
  simp only [hstem]
  constructor
  · rintro ⟨⟨hother, -, h⟩, ht⟩
    exact ⟨ht, fun w hw => (hstem w).not.2 (hother w hw), h⟩
  · rintro ⟨ht, hother, h⟩
    exact ⟨⟨fun w hw => (hstem w).not.1 (hother w hw), hboolean ht, h⟩, ht⟩

/-- What is taken for an integer type and is one, is a recognised name; what is taken for one and is
none, is a mistaken name. -/
theorem ofTypeName_eq_integer_iff (name : String) :
    (ofTypeName name = .integer ∧ NamesInteger (lowerName name) ↔ Recognised (lowerName name)) ∧
      (ofTypeName name = .integer ∧ ¬ NamesInteger (lowerName name) ↔
        Mistaken (lowerName name)) :=
  ⟨recognised_iff, mistaken_iff⟩

/-- Ranges of integers are taken for integers: they are compared with numbers, and summed up. -/
theorem not_namesInteger_range :
    ofTypeName "int4range" = .integer ∧ ¬ NamesInteger (lowerName "int4range") ∧
      .le ∈ (ofTypeName "int4range").operators ∧ .sum ∈ (ofTypeName "int4range").aggregates := by
  decide +kernel

end SqlWorkload.TypeFamily
