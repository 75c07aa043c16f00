import SqlWorkload.Random.Draw
/-!
# Results of draws

What holds of the result of a draw, from whatever stream it is drawn. The property of a sequence of
draws is put together from those of its parts; how much of the stream each part takes plays no role.

    d always gives Q, and f a always gives P for each a with Q → d >>= f always gives P
                                                                  (Always.bind)
    a pick is always from its list                                (always_pick)
    each of many draws has what one draw always has               (always_many)
-/

namespace SqlWorkload.Random.Draw

variable {α β : Type} {P Q : α → Prop}

/-- Every result of the draw has the property. -/
def Always (d : Draw α) (P : α → Prop) : Prop := ∀ s, P (d s).1

theorem Always.mono {d : Draw α} (h : d.Always Q) (hQ : ∀ a, Q a → P a) : d.Always P :=
  fun s => hQ _ (h s)

theorem Always.and {d : Draw α} (h : d.Always P) (h' : d.Always Q) :
    d.Always fun a => P a ∧ Q a :=
  fun s => ⟨h s, h' s⟩

theorem always_pure {a : α} (h : P a) : (pure a : Draw α).Always P := fun _ => h

theorem Always.bind {d : Draw α} {f : α → Draw β} {R : β → Prop} (h : d.Always Q)
    (hf : ∀ a, Q a → (f a).Always R) : (d >>= f).Always R := by
  intro s
  exact hf _ (h s) (d s).2

/-- What is drawn first may be anything, if what follows does not depend on it. -/
theorem always_bind {d : Draw α} {f : α → Draw β} {R : β → Prop} (hf : ∀ a, (f a).Always R) :
    (d >>= f).Always R :=
  fun s => hf _ (d s).2

/-- What follows matters only for the results that there can be. -/
theorem Always.bind_congr {d : Draw α} {f g : α → Draw β} (h : d.Always Q)
    (hf : ∀ a, Q a → f a = g a) : d >>= f = d >>= g := by
  funext s
  exact congrFun (hf _ (h s)) (d s).2

/-- Some stream gives the result. -/
def Possible (d : Draw α) (a : α) : Prop := ∃ s, a = (d s).1

theorem always_possible (d : Draw α) : d.Always d.Possible := fun s => ⟨s, rfl⟩

theorem Always.of_possible {d : Draw α} {a : α} (hd : d.Always P) (h : d.Possible a) : P a := by
  obtain ⟨s, rfl⟩ := h
  exact hd s

theorem always_pick (l : List α) (h : l ≠ []) : (pick l h).Always (· ∈ l) := by
  apply always_bind
  intro i
  exact always_pure (List.getElem_mem _)

theorem always_many {n : Nat} {d : Draw α} (h : d.Always P) :
    (many n d).Always fun l => ∀ a ∈ l, P a := by
  intro s a ha
  obtain ⟨t, rfl⟩ := mem_many ha
  exact h t

end SqlWorkload.Random.Draw
