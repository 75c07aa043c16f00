import Mathlib.Data.List.Forall2
import SqlWorkload.Proofs.Text.QuoteReader
/-!
# Texts that show where they end

A way of writing delimits what it writes if from a text that begins with a thing written so, and
goes on in an admissible way, the thing can be told, and where it ends. Written one after the other,
such things can all be told from the whole text. Only the smallest of them need a reader to see it.

    things that a reader finds in front of any other text are delimited
                                                                  (Delimits.of_read)
    runs of characters of one sort are delimited, if no such character follows
                                                                  (delimits_run)
    quoted texts are delimited, if no further mark follows        (delimits_quote)
    both parts are delimited → the two after each other are       (Delimits.append)
    things are delimited → lists of them are, if what follows is not taken for one more
                                                                  (Delimits.flatMap)
    … also with separators, and after a keyword that is left out for an empty list
                                                                  (Delimits.clause)
-/

namespace SqlWorkload.Text

/-! ## Definitions -/

/-- Two things written by `w` in front of texts that `F` admits make the same text only if they are
the same up to `R`, and so are the texts. -/
def Delimits {α : Type} (w : α → List Char) (R : α → α → Prop) (F : List Char → Prop) : Prop :=
  ∀ ⦃a b : α⦄ ⦃s t : List Char⦄, F s → F t → w a ++ s = w b ++ t → R a b ∧ s = t

/-- The items after a keyword, with `sep` between each two; nothing if there is no item. -/
def clause (keyword sep : String) : List String → String
  | [] => ""
  | items => keyword ++ joinWith sep items

/-! ## Parts of a text -/

section

variable {α β : Type} {w w' : α → List Char} {R R' : α → α → Prop} {F F' : List Char → Prop}

/-- A reader that finds a thing, and what is behind it, knows where the thing ends. -/
theorem Delimits.of_read (read : List Char → Option (α × List Char))
    (h : ∀ a s, F s → read (w a ++ s) = some (a, s)) : Delimits w Eq F := by
  intro a b s t hs ht heq
  have hread : some (a, s) = some (b, t) := by rw [← h a s hs, heq, h b t ht]
  obtain ⟨hab, hst⟩ := Prod.mk.inj (Option.some.inj hread)
  exact ⟨hab, hst⟩

theorem Delimits.of_eq (h : Delimits w R F) (hF : F []) {a b : α} (heq : w a = w b) : R a b :=
  (h hF hF (congrArg (· ++ []) heq)).1

theorem Delimits.imp (h : Delimits w R F) (hR : ∀ a b, R a b → R' a b) (hF : ∀ s, F' s → F s) :
    Delimits w R' F' := by
  intro a b s t hs ht heq
  obtain ⟨hab, hst⟩ := h (hF s hs) (hF t ht) heq
  exact ⟨hR a b hab, hst⟩

theorem Delimits.congr (h : Delimits w R F) (hw : ∀ a, w' a = w a) : Delimits w' R F := by
  rw [funext hw]
  exact h

theorem Delimits.comap (h : Delimits w R F) (f : β → α) :
    Delimits (fun b => w (f b)) (fun b c => R (f b) (f c)) F :=
  fun _ _ _ _ hs ht heq => h hs ht heq

/-- The same text in front of everything does no harm. -/
theorem Delimits.after (h : Delimits w R F) (k : List Char) : Delimits (fun a => k ++ w a) R F := by
  intro a b s t hs ht heq
  simp only [List.append_assoc, List.append_cancel_left_eq] at heq
  exact h hs ht heq

/-- A text that is always the same ends what is in front of it. -/
theorem Delimits.closed (h : Delimits w R F) {k : List Char} (hk : ∀ s, F (k ++ s)) :
    Delimits (fun a => w a ++ k) R fun _ => True := by
  intro a b s t _ _ heq
  simp only [List.append_assoc] at heq
  obtain ⟨hab, heq⟩ := h (hk s) (hk t) heq
  exact ⟨hab, List.append_cancel_left heq⟩

theorem Delimits.append (h : Delimits w R F) (h' : Delimits w' R' F')
    (hF : ∀ a s, F' s → F (w' a ++ s)) :
    Delimits (fun a => w a ++ w' a) (fun a b => R a b ∧ R' a b) F' := by
  intro a b s t hs ht heq
  simp only [List.append_assoc] at heq
  obtain ⟨hab, heq⟩ := h (hF a s hs) (hF b t ht) heq
  obtain ⟨hab', hst⟩ := h' hs ht heq
  exact ⟨⟨hab, hab'⟩, hst⟩

end

/-! ## Runs and quotes -/

/-- Two runs of characters with a property, each as long as it can be, end at the same place. -/
theorem append_inj_of_run {p : Char → Prop} {u v s t : List Char} (hu : ∀ c ∈ u, p c)
    (hv : ∀ c ∈ v, p c) (hs : ∀ c ∈ s.head?, ¬ p c) (ht : ∀ c ∈ t.head?, ¬ p c)
    (h : u ++ s = v ++ t) : u = v ∧ s = t := by
  induction u generalizing v with
  | nil =>
    cases v with
    | nil => exact ⟨rfl, h⟩
    | cons d v =>
      rw [List.nil_append] at h
      exact absurd (hv d List.mem_cons_self) (hs d (by rw [h]; rfl))
  | cons c u ih =>
    cases v with
    | nil =>
      rw [List.nil_append] at h
      exact absurd (hu c List.mem_cons_self) (ht c (by rw [← h]; rfl))
    | cons d v =>
      obtain ⟨rfl, hrest⟩ := List.cons.inj h
      rw [List.forall_mem_cons] at hu hv
      obtain ⟨rfl, hst⟩ := ih hu.2 hv.2 hrest
      exact ⟨rfl, hst⟩

theorem delimits_run {α : Type} {w : α → List Char} {p : Char → Prop} (hw : ∀ a, ∀ c ∈ w a, p c) :
    Delimits w (fun a b => w a = w b) fun s => ∀ c ∈ s.head?, ¬ p c :=
  fun a b _ _ hs ht heq => append_inj_of_run (hw a) (hw b) hs ht heq

theorem delimits_quote (q : Char) :
    Delimits (fun s : String => (quote q s).toList) Eq fun s => s.head? ≠ some q := by
  apply Delimits.of_read (readQuoted q)
  intro a s hs
  exact readQuoted_eq_some_iff.2 ⟨rfl, hs⟩

/-! ## Lists -/

theorem toList_joinWith_cons (sep s : String) (rest : List String) :
    (joinWith sep (s :: rest)).toList =
      s.toList ++ rest.flatMap fun t => sep.toList ++ t.toList := by
  induction rest generalizing s with
  | nil => simp [joinWith]
  | cons t rest ih => simp [joinWith, ih]

section

variable {α : Type} {R : α → α → Prop} {F E : List Char → Prop}

theorem Delimits.flatMap {w : α → List Char} (h : Delimits w R F) (hE : ∀ s, E s → F s)
    (hw : ∀ a s, F (w a ++ s)) (hend : ∀ a s, ¬ E (w a ++ s)) :
    Delimits (fun l : List α => l.flatMap w) (List.Forall₂ R) E := by
  have follows (l : List α) {s : List Char} (hs : E s) : F (l.flatMap w ++ s) := by
    cases l with
    | nil => exact hE s hs
    | cons a l =>
      rw [List.flatMap_cons, List.append_assoc]
      exact hw a _
  intro l m s t hs ht heq
  dsimp only at heq
  induction l generalizing m with
  | nil =>
    cases m with
    | nil => exact ⟨.nil, heq⟩
    | cons b m =>
      rw [List.flatMap_nil, List.nil_append, List.flatMap_cons, List.append_assoc] at heq
      exact absurd (heq ▸ hs) (hend b _)
  | cons a l ih =>
    cases m with
    | nil =>
      rw [List.flatMap_nil, List.nil_append, List.flatMap_cons, List.append_assoc] at heq
      exact absurd (heq ▸ ht) (hend a _)
    | cons b m =>
      simp only [List.flatMap_cons, List.append_assoc] at heq
      obtain ⟨hab, heq⟩ := h (follows l hs) (follows m ht) heq
      obtain ⟨hlm, hst⟩ := ih heq
      exact ⟨.cons hab hlm, hst⟩

variable {w : α → String} {sep keyword : String}

theorem Delimits.joinWith (h : Delimits (fun a => (w a).toList) R F) (hE : ∀ s, E s → F s)
    (hsep : ∀ s, F (sep.toList ++ s)) (hend : ∀ a s, ¬ E (sep.toList ++ (w a).toList ++ s)) :
    Delimits (fun l : { l : List α // l ≠ [] } => (joinWith sep (l.val.map w)).toList)
      (fun l m => List.Forall₂ R l.val m.val) E := by
  have hall := (h.after sep.toList).flatMap hE
    (fun a s => by rw [List.append_assoc]; exact hsep _) hend
  have follows (l : List α) {s : List Char} (hs : E s) :
      F (l.flatMap (fun a => sep.toList ++ (w a).toList) ++ s) := by
    cases l with
    | nil => exact hE s hs
    | cons a l =>
      simp only [List.flatMap_cons, List.append_assoc]
      exact hsep _
  rintro ⟨l, hl⟩ ⟨m, hm⟩ s t hs ht heq
  obtain ⟨a, l, rfl⟩ := List.exists_cons_of_ne_nil hl
  obtain ⟨b, m, rfl⟩ := List.exists_cons_of_ne_nil hm
  simp only [List.map_cons, toList_joinWith_cons, List.flatMap_map, List.append_assoc] at heq
  obtain ⟨hab, heq⟩ := h (follows l hs) (follows m ht) heq
  obtain ⟨hlm, hst⟩ := hall hs ht heq
  exact ⟨.cons hab hlm, hst⟩

theorem Delimits.clause (h : Delimits (fun a => (w a).toList) R F) (hE : ∀ s, E s → F s)
    (hsep : ∀ s, F (sep.toList ++ s)) (hend : ∀ a s, ¬ E (sep.toList ++ (w a).toList ++ s))
    (hkeyword : ∀ s, ¬ E (keyword.toList ++ s)) :
    Delimits (fun l : List α => (clause keyword sep (l.map w)).toList) (List.Forall₂ R) E := by
  intro l m s t hs ht heq
  cases l with
  | nil =>
    cases m with
    | nil => exact ⟨.nil, heq⟩
    | cons b m =>
      simp only [List.map_nil, List.map_cons, Text.clause, String.toList_empty, List.nil_append,
        String.toList_append, List.append_assoc] at heq
      exact absurd (heq ▸ hs) (hkeyword _)
  | cons a l =>
    cases m with
    | nil =>
      simp only [List.map_nil, List.map_cons, Text.clause, String.toList_empty, List.nil_append,
        String.toList_append, List.append_assoc] at heq
      exact absurd (heq ▸ ht) (hkeyword _)
    | cons b m =>
      simp only [List.map_cons, Text.clause, String.toList_append, List.append_assoc,
        List.append_cancel_left_eq] at heq
      exact h.joinWith hE hsep hend (a := ⟨a :: l, List.cons_ne_nil a l⟩)
        (b := ⟨b :: m, List.cons_ne_nil b m⟩) hs ht heq

end

end SqlWorkload.Text
