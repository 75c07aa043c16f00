/-!
# Quoted text

A text between two quote marks, in which each mark of the text itself is written twice.

    toList (quote q s) = q :: double q s.toList ++ [q]           (toList_quote)
    q ∉ s → double q s = s                                       (double_eq_self)
-/

namespace SqlWorkload.Text

/-! ## Algorithm -/

/-- The text with each `q` written twice. -/
def double (q : Char) : List Char → List Char
  | [] => []
  | c :: rest => if c = q then q :: q :: double q rest else c :: double q rest

def quote (q : Char) (s : String) : String :=
  String.ofList (q :: (double q s.toList ++ [q]))

/-- The items with `sep` between each two. -/
def joinWith (sep : String) : List String → String
  | [] => ""
  | [s] => s
  | s :: rest => s ++ sep ++ joinWith sep rest

/-! ## Lemmas -/

@[simp] theorem double_nil (q : Char) : double q [] = [] := rfl

/-- A text without the mark is not changed. -/
theorem double_eq_self {q : Char} {s : List Char} (h : q ∉ s) : double q s = s := by
  induction s with
  | nil => rfl
  | cons c rest ih =>
    simp only [List.mem_cons, not_or] at h
    rw [double, if_neg (Ne.symm h.1), ih h.2]

/-- The mark is written twice and all else once. -/
theorem count_double (q x : Char) (s : List Char) :
    (double q s).count x = (if x = q then 2 else 1) * s.count x := by
  induction s with
  | nil => simp
  | cons c rest ih => by_cases h : c = q <;> by_cases hx : x = c <;> grind [double]

@[simp] theorem toList_quote (q : Char) (s : String) :
    (quote q s).toList = q :: (double q s.toList ++ [q]) := by
  simp [quote]

end SqlWorkload.Text
