import SqlWorkload.Proofs.Text.Delimited
import SqlWorkload.Query.Dialect
/-!
# Names in quotes

A name is written in the quotes of a dialect wherever it stands, with the quote marks in it doubled.
Whatever the name is, and be it made of nothing but quote marks, the text shows where it ends and
which name it is, as long as no quote mark comes right behind it.

    names with texts behind them are the same ↔ the names are, and the texts are
    a reader of a name in quotes finds the name and its end
    without the outer quotes, and with one of each two quote marks, the name is what it was
                                                                  (ident_reads_back)
-/

namespace SqlWorkload.Dialect

open Text

theorem delimits_ident (d : Dialect) :
    Delimits (fun name => (d.ident name).toList) Eq fun s => s.head? ≠ some d.mark :=
  delimits_quote d.mark

theorem ident_append_eq_iff {d : Dialect} {a b s t : String} (hs : s.toList.head? ≠ some d.mark)
    (ht : t.toList.head? ≠ some d.mark) : d.ident a ++ s = d.ident b ++ t ↔ a = b ∧ s = t := by
  constructor
  · intro h
    have h := congrArg String.toList h
    rw [String.toList_append, String.toList_append] at h
    obtain ⟨hab, hst⟩ := d.delimits_ident hs ht h
    exact ⟨hab, String.toList_inj.1 hst⟩
  · rintro ⟨rfl, rfl⟩
    rfl

theorem ident_reads_back (d : Dialect) :
    (∀ a b s t : String, s.toList.head? ≠ some d.mark → t.toList.head? ≠ some d.mark →
      d.ident a ++ s = d.ident b ++ t → a = b ∧ s = t) ∧
    (∀ (text rest : List Char) (a : String), readQuoted d.mark text = some (a, rest) ↔
      text = (d.ident a).toList ++ rest ∧ rest.head? ≠ some d.mark) ∧
    ∀ a : String, unquote? d.mark (d.ident a) = some a := by
  refine ⟨?_, ?_, ?_⟩
  · intro a b s t hs ht h
    exact (ident_append_eq_iff hs ht).1 h
  · intro text rest a
    exact readQuoted_eq_some_iff
  · intro a
    exact unquote?_quote d.mark a

/-- Names of nothing but marks, and one that begins and ends with them. -/
theorem ident_reads_back_marks :
    (mysql.ident "\x60" ++ ".\x60\x60" = "\x60\x60\x60\x60" ++ ("." ++ mysql.ident "") ∧
      "\x60" = String.singleton '\x60' ∧ ".\x60\x60" = "." ++ mysql.ident "") ∧
    readQuoted '"' "\"\"\"\"\"\".\"id\"".toList = some ("\"\"", ".\"id\"".toList) ∧
    unquote? '"' "\"\"\"a\"\"\"\"\"" = some "\"a\"\"" := by
  obtain ⟨hinj, -, -⟩ := ident_reads_back mysql
  obtain ⟨-, hread, hunquote⟩ := ident_reads_back postgres
  refine ⟨⟨by decide +kernel, ?_⟩, ?_, ?_⟩
  · exact hinj "\x60" (String.singleton '\x60') _ _ (by decide +kernel) (by decide +kernel)
      (by decide +kernel)
  · exact (hread _ _ _).2 ⟨by decide +kernel, by decide +kernel⟩
  · exact hunquote "\"a\"\""

/-- Two names right behind each other are taken for one. -/
example : ansi.ident "a" ++ ansi.ident "b" = ansi.ident "a\"b" := by decide +kernel

end SqlWorkload.Dialect
