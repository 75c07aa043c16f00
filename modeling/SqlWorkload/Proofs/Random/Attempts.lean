import Mathlib.Data.PFun
import SqlWorkload.Random.Draw
/-!
# Attempts

Random choices that nothing guards. An attempt takes words from a stream as a draw does, but what it
asks for may not exist: a number in an empty range, an item of an empty list, a chance that is no
probability, more positions than there are. Then it breaks off, and as with a loop that does not
end there is no result.

    x = lift d, and f a = lift (g a) for each a → x >>= f = lift (d >>= g)   (bind_eq_lift)
    l ≠ [] → pick l = lift (Draw.pick l _)                        (pick_eq)
    p.InUnit → chance p = lift (Draw.chance p)                    (chance_eq)
    a loop is one round, and then the loop from where it left off or nothing more
                                                                  (loop_eq)
-/

namespace SqlWorkload.Random

/-! ## Algorithm -/

abbrev Attempt := StateT Stream Option

namespace Attempt

variable {α β : Type}

/-- A draw, seen as an attempt. -/
def lift (d : Draw α) : Attempt α := fun s => some (d s)

/-- A number below `n`, from single words. -/
def below (n : Nat) : Attempt (Fin n) := if h : 0 < n then lift (Draw.below n h) else failure

/-- A number below `n`, from long words. -/
def belowLong (n : Nat) : Attempt (Fin n) :=
  if h : 0 < n then lift (Draw.belowLong n h) else failure

/-- A number from `least` to `most`. -/
def between (least most : Nat) : Attempt Nat :=
  if least ≤ most then do return least + (← below (most - least + 1)) else failure

def chance (p : Binary64) : Attempt Bool :=
  if p.InUnit then lift (Draw.chance p) else failure

def pick (l : List α) : Attempt α := return l.get (← below l.length)

def many : (n : Nat) → Attempt α → Attempt (List α)
  | 0, _ => return []
  | n + 1, x => do
    let a ← x
    let rest ← many n x
    return a :: rest

def sample (length amount : Nat) : Attempt (List (Fin length)) :=
  if h : amount ≤ length then lift (Draw.sample length amount h) else failure

/-- The rounds of a loop, with the stream that each of them leaves. -/
def rounds (round : β → Attempt (α ⊕ β)) : β × Stream →. (α × Stream) ⊕ (β × Stream) := fun x =>
  ((round x.1 x.2).map fun r => r.1.elim (fun a => .inl (a, r.2)) fun b => .inr (b, r.2) :
    Option ((α × Stream) ⊕ (β × Stream)))

open Classical in
/-- Makes one round after the other, until a round has a result. -/
noncomputable def loop (round : β → Attempt (α ⊕ β)) (b : β) : Attempt α := fun s =>
  ((rounds round).fix (b, s)).toOption

/-! ## Lemmas -/

theorem pure_eq_lift (a : α) : (pure a : Attempt α) = lift (pure a) := rfl

theorem bind_eq_lift {x : Attempt α} {d : Draw α} {f : α → Attempt β} {g : α → Draw β}
    (hx : x = lift d) (hf : ∀ a, f a = lift (g a)) : x >>= f = lift (d >>= g) := by
  subst hx
  funext s
  exact congrFun (hf (d s).1) (d s).2

theorem below_eq {n : Nat} (h : 0 < n) : below n = lift (Draw.below n h) := dif_pos h

theorem belowLong_eq {n : Nat} (h : 0 < n) : belowLong n = lift (Draw.belowLong n h) := dif_pos h

/-- What follows a number from a range, follows the number by which it is more than the least. -/
theorem between_bind {least most : Nat} (h : least ≤ most) (f : Nat → Attempt β) :
    between least most >>= f =
      lift (Draw.below (most - least + 1) (Nat.succ_pos _)) >>= fun more => f (least + more) := by
  rw [between, if_pos h, below_eq (Nat.succ_pos _)]
  rfl

theorem chance_eq {p : Binary64} (h : p.InUnit) : chance p = lift (Draw.chance p) := if_pos h

theorem pick_eq {l : List α} (h : l ≠ []) : pick l = lift (Draw.pick l h) :=
  bind_eq_lift (below_eq (List.length_pos_iff.2 h)) fun _ => pure_eq_lift _

/-- To pick from a list of images is to pick and take the image. -/
theorem pick_map (f : α → β) (l : List α) :
    pick (l.map f) = pick l >>= fun a => pure (f a) := by
  have key (n : Nat) (hn : n = l.length) (g : Fin n → β) (hg : ∀ i, g i = f (l[(i : Nat)])) :
      (below n >>= fun i => pure (g i)) = below l.length >>= fun i => pure (f l[i]) := by
    subst hn
    simp [hg]
  refine (key _ (List.length_map f) _ fun i => List.getElem_map f).trans ?_
  simp [pick]

theorem many_eq {x : Attempt α} {d : Draw α} (h : x = lift d) (n : Nat) :
    many n x = lift (Draw.many n d) := by
  induction n with
  | zero => rfl
  | succ n ih =>
    refine bind_eq_lift h fun a => ?_
    exact bind_eq_lift ih fun rest => pure_eq_lift _

theorem sample_eq {length amount : Nat} (h : amount ≤ length) :
    sample length amount = lift (Draw.sample length amount h) := dif_pos h

theorem loop_eq (round : β → Attempt (α ⊕ β)) (b : β) :
    loop round b = round b >>= Sum.elim pure (loop round) := by
  classical
  funext s
  change _ = (round b s).bind _
  rw [loop]
  cases h : round b s with
  | none =>
    have hround : rounds round (b, s) = Part.none := by simp [rounds, h]
    rw [Part.toOption_eq_none_iff.2]
    · rfl
    · rw [Part.dom_iff_mem]
      rintro ⟨r, hr⟩
      rw [PFun.mem_fix_iff, hround] at hr
      simp at hr
  | some r =>
    obtain ⟨a | b', s'⟩ := r
    · have hround : Sum.inl (a, s') ∈ rounds round (b, s) := by simp [rounds, h]
      exact Part.toOption_eq_some_iff.2 (PFun.fix_stop hround)
    · have hround : Sum.inr (b', s') ∈ rounds round (b, s) := by simp [rounds, h]
      rw [PFun.fix_fwd_eq hround]
      rfl

end Attempt

end SqlWorkload.Random
