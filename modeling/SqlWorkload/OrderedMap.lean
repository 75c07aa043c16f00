/-!
# Ordered maps

Finite maps whose entries are listed by strictly increasing key. The order is part of the type, so
two maps with the same look-ups are equal and every pass over a map meets its keys in order. A set
is a map to `Unit`.

    (m.insert k a).get? x = if k = x then some a else m.get? x     (get?_insert)
    k ∈ m.keys ↔ ∃ a, m.get? k = some a                             (mem_keys_iff)
    (∀ k, m.get? k = n.get? k) → m = n                              (ext_get?)
    x ∈ (s.add a).toList ↔ x = a ∨ x ∈ s.toList                     (mem_add)
-/

namespace SqlWorkload

/-! ## Algorithm -/

structure OrderedMap (κ : Type) (α : Type) [Ord κ] where
  entries : List (κ × α)
  sorted : entries.Pairwise fun a b => compare a.1 b.1 = .lt

variable {κ α : Type} [Ord κ]

/-- Puts an entry in its place, in front of the first greater key; an equal key is replaced. -/
def insertEntry (k : κ) (a : α) : List (κ × α) → List (κ × α)
  | [] => [(k, a)]
  | e :: rest =>
    match compare k e.1 with
    | .lt => (k, a) :: e :: rest
    | .eq => (k, a) :: rest
    | .gt => e :: insertEntry k a rest

theorem mem_insertEntry {k : κ} {a : α} {l : List (κ × α)} {e : κ × α}
    (h : e ∈ insertEntry k a l) : e = (k, a) ∨ e ∈ l := by
  induction l with
  | nil => simpa [insertEntry] using h
  | cons d rest ih => rw [insertEntry] at h; split at h <;> grind

theorem sorted_insertEntry [Std.TransOrd κ] [Std.LawfulEqOrd κ] (k : κ) (a : α)
    {l : List (κ × α)} (h : l.Pairwise fun a b => compare a.1 b.1 = .lt) :
    (insertEntry k a l).Pairwise fun a b => compare a.1 b.1 = .lt := by
  induction l with
  | nil => simp [insertEntry]
  | cons d rest ih =>
    rw [List.pairwise_cons] at h
    rw [insertEntry]
    split
    · next hk =>
      refine .cons (fun e he => ?_) (.cons h.1 h.2)
      rcases List.mem_cons.1 he with rfl | he
      · exact hk
      · exact Std.TransCmp.lt_trans hk (h.1 e he)
    · next hk => exact .cons (fun e he => Std.LawfulEqOrd.eq_of_compare hk ▸ h.1 e he) h.2
    · next hk =>
      refine .cons (fun e he => ?_) (ih h.2)
      rcases mem_insertEntry he with rfl | he
      · exact Std.OrientedCmp.lt_of_gt hk
      · exact h.1 e he

namespace OrderedMap

def empty : OrderedMap κ α := ⟨[], .nil⟩

instance : Inhabited (OrderedMap κ α) := ⟨empty⟩

instance [DecidableEq κ] [DecidableEq α] : DecidableEq (OrderedMap κ α) := fun m n =>
  decidable_of_iff (m.entries = n.entries)
    ⟨fun h => by cases m; cases n; cases h; rfl, fun h => h ▸ rfl⟩

def insert [Std.TransOrd κ] [Std.LawfulEqOrd κ] (m : OrderedMap κ α) (k : κ) (a : α) :
    OrderedMap κ α :=
  ⟨insertEntry k a m.entries, sorted_insertEntry k a m.sorted⟩

/-- The map of the entries; of two with one key the later counts. -/
def ofList [Std.TransOrd κ] [Std.LawfulEqOrd κ] (l : List (κ × α)) : OrderedMap κ α :=
  l.foldl (fun m e => m.insert e.1 e.2) empty

def get? [BEq κ] (m : OrderedMap κ α) (k : κ) : Option α := m.entries.lookup k

def keys (m : OrderedMap κ α) : List κ := m.entries.map (·.1)

def values (m : OrderedMap κ α) : List α := m.entries.map (·.2)

def size (m : OrderedMap κ α) : Nat := m.entries.length

def isEmpty (m : OrderedMap κ α) : Bool := m.entries.isEmpty

def contains [BEq κ] (m : OrderedMap κ α) (k : κ) : Bool := (m.get? k).isSome

/-- The map with `f` applied to the value at `k`, unchanged where there is none. -/
def modify [Std.TransOrd κ] [Std.LawfulEqOrd κ] [BEq κ] (m : OrderedMap κ α) (k : κ)
    (f : α → α) : OrderedMap κ α :=
  match m.get? k with
  | some a => m.insert k (f a)
  | none => m

/-- The map with `f` applied to every value. -/
def mapValues {β : Type} (f : α → β) (m : OrderedMap κ α) : OrderedMap κ β :=
  ⟨m.entries.map fun e => (e.1, f e.2), List.pairwise_map.2 m.sorted⟩

end OrderedMap

/-- Maps from names; names are ordered by code points. -/
abbrev NameMap (α : Type) := OrderedMap String α

abbrev OrderedSet (κ : Type) [Ord κ] := OrderedMap κ Unit

namespace OrderedSet

def toList (s : OrderedSet κ) : List κ := OrderedMap.keys s

def add [Std.TransOrd κ] [Std.LawfulEqOrd κ] (s : OrderedSet κ) (k : κ) : OrderedSet κ :=
  OrderedMap.insert s k ()

def ofList [Std.TransOrd κ] [Std.LawfulEqOrd κ] (l : List κ) : OrderedSet κ :=
  l.foldl add OrderedMap.empty

end OrderedSet

/-! ## Lemmas -/

/-- An entry that replaces another leaves the keys as they are. -/
theorem keys_insertEntry_of_mem [Std.OrientedOrd κ] [Std.LawfulEqOrd κ] {k : κ} (a : α)
    {l : List (κ × α)} (hl : l.Pairwise fun a b => compare a.1 b.1 = .lt)
    (hk : k ∈ l.map (·.1)) : (insertEntry k a l).map (·.1) = l.map (·.1) := by
  induction l with
  | nil => simp at hk
  | cons d rest ih =>
    rw [List.pairwise_cons] at hl
    rw [List.map_cons, List.mem_cons] at hk
    rcases hk with rfl | hk
    · simp [insertEntry]
    · obtain ⟨e, he, rfl⟩ := List.mem_map.1 hk
      simp [insertEntry, Std.OrientedCmp.gt_of_lt (hl.1 e he), ih hl.2 hk]

section Lookup

variable [DecidableEq κ]

theorem lookup_insertEntry [Std.LawfulEqOrd κ] (k x : κ) (a : α) (l : List (κ × α)) :
    (insertEntry k a l).lookup x = if k = x then some a else l.lookup x := by
  induction l with
  | nil => by_cases h : k = x <;> grind [insertEntry]
  | cons d rest ih =>
    obtain ⟨y, b⟩ := d
    rw [insertEntry]
    split
    · by_cases h : k = x <;> grind
    · next hk =>
      have := Std.LawfulEqOrd.eq_of_compare hk
      by_cases h : k = x <;> grind
    · next hk =>
      have : k ≠ y := fun h => by simp [h] at hk
      by_cases h : y = x <;> grind

theorem lookup_eq_none_of_forall {k : κ} {l : List (κ × α)} (h : ∀ e ∈ l, compare k e.1 = .lt)
    [Std.ReflOrd κ] : l.lookup k = none := by
  induction l with
  | nil => rfl
  | cons d rest ih =>
    have hd : k ≠ d.1 := fun hk => by simpa [hk] using h d (by simp)
    obtain ⟨y, b⟩ := d
    simp only [List.lookup_cons, beq_eq_false_iff_ne.2 hd]
    exact ih fun e he => h e (by simp [he])

omit [Ord κ] in
theorem lookup_map_snd {β : Type} (f : α → β) (k : κ) (l : List (κ × α)) :
    (l.map fun e => (e.1, f e.2)).lookup k = (l.lookup k).map f := by
  induction l with
  | nil => rfl
  | cons d rest ih =>
    obtain ⟨y, b⟩ := d
    by_cases h : k = y
    · subst h; simp
    · simp [List.lookup_cons, beq_eq_false_iff_ne.2 h, ih]

/-- With one entry for each key, looking up a key finds its entry. -/
theorem mem_iff_lookup [Std.ReflOrd κ] {k : κ} {a : α} {l : List (κ × α)}
    (hl : l.Pairwise fun a b => compare a.1 b.1 = .lt) : (k, a) ∈ l ↔ l.lookup k = some a := by
  induction l with
  | nil => simp
  | cons d rest ih =>
    obtain ⟨y, b⟩ := d
    rw [List.pairwise_cons] at hl
    by_cases h : k = y
    · subst h
      have hn : (k, a) ∉ rest := fun hm => by simpa using hl.1 _ hm
      simp [hn, eq_comm]
    · simp [List.lookup_cons, beq_eq_false_iff_ne.2 h, h, ih hl.2]

theorem eq_of_lookup_eq [Std.TransOrd κ] [Std.LawfulEqOrd κ] {l l' : List (κ × α)}
    (hl : l.Pairwise fun a b => compare a.1 b.1 = .lt)
    (hl' : l'.Pairwise fun a b => compare a.1 b.1 = .lt)
    (h : ∀ k, l.lookup k = l'.lookup k) : l = l' := by
  induction l generalizing l' with
  | nil =>
    cases l' with
    | nil => rfl
    | cons d rest =>
      obtain ⟨x, a⟩ := d
      simpa using h x
  | cons d rest ih =>
    obtain ⟨x, a⟩ := d
    cases l' with
    | nil => simpa using h x
    | cons e rest' =>
      obtain ⟨y, b⟩ := e
      rw [List.pairwise_cons] at hl hl'
      have hxy : x = y := by
        rcases hc : compare x y with _ | _ | _
        · have := h x
          rw [lookup_eq_none_of_forall (l := (y, b) :: rest') ?_] at this
          · simp at this
          · intro x hx
            rcases List.mem_cons.1 hx with rfl | hx
            · exact hc
            · exact Std.TransCmp.lt_trans hc (hl'.1 x hx)
        · exact Std.LawfulEqOrd.eq_of_compare hc
        · have hc := Std.OrientedCmp.lt_of_gt hc
          have := h y
          rw [lookup_eq_none_of_forall (l := (x, a) :: rest) ?_] at this
          · simp at this
          · intro x hx
            rcases List.mem_cons.1 hx with rfl | hx
            · exact hc
            · exact Std.TransCmp.lt_trans hc (hl.1 x hx)
      subst hxy
      have hab : a = b := by simpa using h x
      subst hab
      congr 1
      refine ih hl.2 hl'.2 fun k => ?_
      by_cases hk : k = x
      · subst hk
        rw [lookup_eq_none_of_forall hl.1, lookup_eq_none_of_forall hl'.1]
      · simpa [List.lookup_cons, beq_eq_false_iff_ne.2 hk] using h k

end Lookup

namespace OrderedMap

theorem ext {m n : OrderedMap κ α} (h : m.entries = n.entries) : m = n := by
  cases m; cases n; cases h; rfl

@[simp] theorem entries_empty : (empty : OrderedMap κ α).entries = [] := rfl

@[simp] theorem get?_empty [BEq κ] (k : κ) : (empty : OrderedMap κ α).get? k = none := rfl

section

variable [DecidableEq κ] [Std.TransOrd κ] [Std.LawfulEqOrd κ]

@[simp] theorem get?_insert (m : OrderedMap κ α) (k x : κ) (a : α) :
    (m.insert k a).get? x = if k = x then some a else m.get? x :=
  lookup_insertEntry k x a m.entries

theorem ext_get? {m n : OrderedMap κ α} (h : ∀ k, m.get? k = n.get? k) : m = n :=
  ext (eq_of_lookup_eq m.sorted n.sorted h)

end

section

variable [DecidableEq κ]

theorem mem_entries_iff [Std.ReflOrd κ] {m : OrderedMap κ α} {k : κ} {a : α} :
    (k, a) ∈ m.entries ↔ m.get? k = some a :=
  mem_iff_lookup m.sorted

theorem mem_keys_iff {m : OrderedMap κ α} {k : κ} :
    k ∈ m.keys ↔ ∃ a, m.get? k = some a := by
  obtain ⟨l, hl⟩ := m
  simp only [keys, get?]
  clear hl
  induction l with
  | nil => simp
  | cons d rest ih =>
    obtain ⟨y, b⟩ := d
    by_cases h : k = y
    · subst h; simp
    · simp only [List.map_cons, List.mem_cons, h, false_or, ih, List.lookup_cons,
        beq_eq_false_iff_ne.2 h]

theorem mem_values_iff [Std.ReflOrd κ] {m : OrderedMap κ α} {a : α} :
    a ∈ m.values ↔ ∃ k, m.get? k = some a := by
  simp [values, ← mem_entries_iff]

theorem contains_iff {m : OrderedMap κ α} {k : κ} : m.contains k = true ↔ k ∈ m.keys := by
  rw [contains, Option.isSome_iff_exists, mem_keys_iff]

@[simp] theorem get?_mapValues {β : Type} (f : α → β) (m : OrderedMap κ α) (k : κ) :
    (m.mapValues f).get? k = (m.get? k).map f :=
  lookup_map_snd f k m.entries

theorem get?_modify [Std.TransOrd κ] [Std.LawfulEqOrd κ] (m : OrderedMap κ α) (k x : κ)
    (f : α → α) : (m.modify k f).get? x = if k = x then (m.get? x).map f else m.get? x := by
  by_cases h : k = x
  · subst h; unfold modify; split <;> simp_all
  · unfold modify; split <;> simp [h]

end

@[simp] theorem keys_mapValues {β : Type} (f : α → β) (m : OrderedMap κ α) :
    (m.mapValues f).keys = m.keys := by
  simp [keys, mapValues]

theorem mem_keys_insert [DecidableEq κ] [Std.TransOrd κ] [Std.LawfulEqOrd κ]
    {m : OrderedMap κ α} {k x : κ} {a : α} : x ∈ (m.insert k a).keys ↔ x = k ∨ x ∈ m.keys := by
  simp only [mem_keys_iff, get?_insert]
  by_cases h : k = x
  · simp [h]
  · simp [h, Ne.symm h]

@[simp] theorem keys_modify [DecidableEq κ] [Std.TransOrd κ] [Std.LawfulEqOrd κ]
    (m : OrderedMap κ α) (k : κ) (f : α → α) : (m.modify k f).keys = m.keys := by
  unfold modify
  split
  · next a h => exact keys_insertEntry_of_mem _ m.sorted (mem_keys_iff.2 ⟨a, h⟩)
  · rfl

theorem sorted_keys (m : OrderedMap κ α) : m.keys.Pairwise fun a b => compare a b = .lt :=
  List.pairwise_map.2 m.sorted

@[simp] theorem length_keys (m : OrderedMap κ α) : m.keys.length = m.size := by
  simp [keys, size]

end OrderedMap

namespace OrderedSet

theorem mem_toList_iff [DecidableEq κ] {s : OrderedSet κ} {x : κ} :
    x ∈ s.toList ↔ OrderedMap.get? s x = some () :=
  OrderedMap.mem_keys_iff.trans ⟨fun ⟨(), h⟩ => h, fun h => ⟨(), h⟩⟩

@[simp] theorem mem_add [DecidableEq κ] [Std.TransOrd κ] [Std.LawfulEqOrd κ] {s : OrderedSet κ}
    {a x : κ} : x ∈ (s.add a).toList ↔ x = a ∨ x ∈ s.toList :=
  OrderedMap.mem_keys_insert

theorem mem_ofList [DecidableEq κ] [Std.TransOrd κ] [Std.LawfulEqOrd κ] {l : List κ} {x : κ} :
    x ∈ (ofList l).toList ↔ x ∈ l := by
  have (s : OrderedSet κ) : x ∈ (l.foldl add s).toList ↔ x ∈ s.toList ∨ x ∈ l := by
    induction l generalizing s with
    | nil => simp
    | cons a rest ih => rw [List.foldl_cons, ih, mem_add, List.mem_cons, or_assoc, or_left_comm]
  simpa [ofList, toList, OrderedMap.keys] using this OrderedMap.empty

end OrderedSet

end SqlWorkload
