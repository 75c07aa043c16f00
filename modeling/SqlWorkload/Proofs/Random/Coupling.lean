import SqlWorkload.Random.Draw
import Mathlib.Data.List.Forall2
/-!
# Two draws from one stream

When two draws from the same stream take as much of it and have results that are related. What
follows is then drawn from the same place in the stream again, so that two sequences of draws stay
side by side as long as each draw of the one is coupled with its counterpart.

    d and d' are coupled by R, and f a and f' a' by S whenever R a a'
      → d >>= f and d' >>= f' are coupled by S                    (Coupled.bind)
    draws are equal if they are coupled by equality               (coupled_eq_iff)
    picks from lists that are related entry by entry are coupled  (coupled_pick)
    draws agree if the last ones do, which may take as much of the stream as they like
                                                                  (agree_bind)
-/

namespace SqlWorkload.Random.Draw

variable {α α' β β' : Type} {R : α → α' → Prop} {S : β → β' → Prop}

/-- From the same stream, the results are related and the same is left of it. -/
def Coupled (R : α → α' → Prop) (d : Draw α) (d' : Draw α') : Prop :=
  ∀ s, R (d s).1 (d' s).1 ∧ (d s).2 = (d' s).2

theorem coupled_eq_iff {d d' : Draw α} : Coupled Eq d d' ↔ d = d' := by
  constructor
  · intro h
    funext s
    exact Prod.ext (h s).1 (h s).2
  · rintro rfl s
    exact ⟨rfl, rfl⟩

theorem coupled_pure {a : α} {a' : α'} (h : R a a') :
    Coupled R (pure a : Draw α) (pure a' : Draw α') :=
  fun _ => ⟨h, rfl⟩

theorem Coupled.bind {d : Draw α} {d' : Draw α'} {f : α → Draw β} {f' : α' → Draw β'}
    (h : Coupled R d d') (hf : ∀ a a', R a a' → Coupled S (f a) (f' a')) :
    Coupled S (d >>= f) (d' >>= f') := by
  intro s
  obtain ⟨hresult, hrest⟩ := h s
  have hnext := hf _ _ hresult (d s).2
  show S (f (d s).1 (d s).2).1 (f' (d' s).1 (d' s).2).1 ∧
    (f (d s).1 (d s).2).2 = (f' (d' s).1 (d' s).2).2
  rwa [← hrest]

/-- What is drawn after coupled draws is the same if it depends on nothing that differs. -/
theorem Coupled.bind_eq {d : Draw α} {d' : Draw α'} {f : α → Draw β} {f' : α' → Draw β}
    (h : Coupled R d d') (hf : ∀ a a', R a a' → f a = f' a') : d >>= f = d' >>= f' :=
  coupled_eq_iff.1 (h.bind fun a a' ha => coupled_eq_iff.2 (hf a a' ha))

theorem coupled_below {n n' : Nat} (h : n = n') (hn : 0 < n) (hn' : 0 < n') :
    Coupled (fun i i' => i.val = i'.val) (below n hn) (below n' hn') := by
  subst h
  exact fun _ => ⟨rfl, rfl⟩

theorem coupled_pick {l : List α} {l' : List α'} (h : List.Forall₂ R l l') (hl : l ≠ [])
    (hl' : l' ≠ []) : Coupled R (pick l hl) (pick l' hl') := by
  have hbelow := coupled_below h.length_eq (List.length_pos_iff.2 hl) (List.length_pos_iff.2 hl')
  refine hbelow.bind fun i i' hi => coupled_pure ?_
  have hget := h.get i.isLt (hi ▸ i'.isLt)
  simpa [hi] using hget

theorem pick_congr {l l' : List α} (h : l = l') (hl : l ≠ []) (hl' : l' ≠ []) :
    pick l hl = pick l' hl' := by
  subst h
  rfl

/-- From the same stream, the results have the same image. What is left of the stream may differ. -/
def Agree (f : α → β) (d d' : Draw α) : Prop := ∀ s, f (d s).1 = f (d' s).1

theorem agree_bind {γ : Type} {f : β → γ} {d : Draw α} {k k' : α → Draw β}
    (h : ∀ a, Agree f (k a) (k' a)) : Agree f (d >>= k) (d >>= k') :=
  fun s => h _ (d s).2

end SqlWorkload.Random.Draw
