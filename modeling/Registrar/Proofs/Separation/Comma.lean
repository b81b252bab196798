import Mathlib.Data.List.Forall2
import Registrar.Proofs.Separation

/-!
This module contains the proof that splitting a text at the commas outside parentheses loses nothing
but blanks, finds every such comma, and leaves nothing to be split. The depth is counted from the
left, as `depthFrom` does, so that a closing parenthesis without an opening one changes nothing.
-/

namespace Registrar.Key

/-- The number of commas of a text, which begins at depth `n`, that stand at depth zero. -/
def outerCommas (n : Nat) (s : List Char) : Nat :=
  (List.range s.length).countP fun i => s[i]? == some ',' && depthFrom n (s.take i) == 0

/-- A text, which begins at depth `n`, between its commas at depth zero. -/
inductive Pieces : Nat → List Char → List (List Char) → Prop where
  | last {n : Nat} {p : List Char} (hp : outerCommas n p = 0) : Pieces n p [p]
  | cons {n : Nat} {p s : List Char} {ps : List (List Char)} (hp : outerCommas n p = 0)
      (hdepth : depthFrom n p = 0) (hs : Pieces 0 s ps) : Pieces n (p ++ ',' :: s) (p :: ps)

variable {n : Nat} {s p a b : List Char} {ps : List (List Char)}

theorem outerCommas_cons (n : Nat) (c : Char) (s : List Char) :
    outerCommas n (c :: s) =
      (if c = ',' ∧ n = 0 then 1 else 0) + outerCommas (depthFrom n [c]) s := by
  unfold outerCommas
  rw [List.length_cons, List.range_succ_eq_map, List.countP_cons, List.countP_map, Nat.add_comm]
  simp [depthFrom, Function.comp_def]

theorem outerCommas_append (n : Nat) (a b : List Char) :
    outerCommas n (a ++ b) = outerCommas n a + outerCommas (depthFrom n a) b := by
  induction a generalizing n with
  | nil => exact (Nat.zero_add _).symm
  | cons c a ih =>
    have hdepth : depthFrom n (c :: a) = depthFrom (depthFrom n [c]) a :=
      depthFrom_append n [c] a
    rw [List.cons_append, outerCommas_cons, outerCommas_cons, ih, hdepth, Nat.add_assoc]

theorem outerCommas_of_not_mem (hs : ',' ∉ s) : outerCommas n s = 0 := by
  unfold outerCommas
  rw [List.countP_eq_zero]
  intro i _ hi
  have hcomma : s[i]? = some ',' := by simpa using (Bool.and_eq_true_iff.1 hi).1
  exact hs (List.mem_of_getElem? hcomma)

theorem outerCommas_blank (hb : Text.isBlankText b) : outerCommas n b = 0 :=
  outerCommas_of_not_mem (not_mem_of_blank (by decide) hb)

/-- Blanks around a text have no commas and change no depth. -/
theorem outerCommas_between (hb : Text.isBlankText b) (ha : Text.isBlankText a) (s : List Char) :
    outerCommas n (b ++ (s ++ a)) = outerCommas n s := by
  rw [outerCommas_append, outerCommas_blank hb, depthFrom_blank n hb, Nat.zero_add,
    outerCommas_append, outerCommas_blank ha, Nat.add_zero]

theorem outerCommas_trim (s : List Char) : outerCommas n (Text.trim s) = outerCommas n s := by
  obtain ⟨b, a, hb, ha, heq⟩ := Text.exists_blanks s
  conv => rhs; rw [heq]
  rw [outerCommas_between hb ha]

namespace Pieces

/-- A character that is no comma at depth zero belongs to the first piece. -/
theorem push {c : Char} (hc : ¬ (c = ',' ∧ n = 0)) (h : Pieces (depthFrom n [c]) s (p :: ps)) :
    Pieces n (c :: s) ((c :: p) :: ps) := by
  have hcons (p : List Char) (hp : outerCommas (depthFrom n [c]) p = 0) :
      outerCommas n (c :: p) = 0 := by
    rw [outerCommas_cons, if_neg hc, Nat.zero_add]
    exact hp
  cases h with
  | last hp => exact .last (hcons s hp)
  | cons hp hdepth hs =>
    apply Pieces.cons (hcons p hp) _ hs
    rw [← List.singleton_append, depthFrom_append]
    exact hdepth

theorem ne_nil (h : Pieces n s ps) : ps ≠ [] := by
  cases h <;> exact List.cons_ne_nil _ _

theorem eq_intercalate (h : Pieces n s ps) : s = List.intercalate [','] ps := by
  induction h with
  | last => exact List.intercalate_singleton.symm
  | @cons n p s ps hp hdepth hs ih =>
    obtain ⟨q, qs, rfl⟩ := List.exists_cons_of_ne_nil hs.ne_nil
    rw [List.intercalate_cons_cons, ← ih, List.append_assoc, List.singleton_append]

theorem length_eq (h : Pieces n s ps) : ps.length = outerCommas n s + 1 := by
  induction h with
  | last hp => rw [hp, List.length_singleton]
  | @cons n p s ps hp hdepth hs ih =>
    rw [List.length_cons, ih, outerCommas_append, hp, hdepth, outerCommas_cons, if_pos ⟨rfl, rfl⟩]
    simp [depthFrom]
    omega

/-- Every piece is counted as if it stood alone, from depth zero. -/
theorem outerCommas_eq_zero (h : Pieces 0 s ps) : ∀ p ∈ ps, outerCommas 0 p = 0 := by
  generalize hn : 0 = n at h
  induction h with
  | last hp =>
    subst hn
    simpa using hp
  | cons hp _ _ ih =>
    subst hn
    exact List.forall_mem_cons.2 ⟨hp, ih rfl⟩

end Pieces

theorem pieces_cutCommas (n : Nat) (s : List Char) :
    Pieces n s ((cutCommas n s).1 :: (cutCommas n s).2) := by
  induction s generalizing n with
  | nil => exact .last rfl
  | cons c s ih =>
    rw [cutCommas]
    split
    . next hc =>
      subst hc
      exact (ih (n + 1)).push (by simp)
    . next hopen =>
      split
      . next hc =>
        subst hc
        exact (ih (n - 1)).push (by simp)
      . next hclose =>
        split
        . next hc =>
          obtain ⟨rfl, rfl⟩ := hc
          exact .cons (p := []) rfl rfl (ih 0)
        . next hc =>
          apply Pieces.push hc
          rw [depthFrom, List.foldl_cons, if_neg hopen, if_neg hclose]
          exact ih n

theorem cutCommas_of_outerCommas_eq_zero (h : outerCommas n s = 0) : cutCommas n s = (s, []) := by
  have hpieces := pieces_cutCommas n s
  have hlength := hpieces.length_eq
  rw [h, List.length_cons, Nat.add_right_cancel_iff, List.length_eq_zero_iff] at hlength
  have heq := hpieces.eq_intercalate
  rw [hlength, List.intercalate_singleton] at heq
  exact Prod.ext heq.symm hlength

theorem splitArguments_of_blank (hs : Text.isBlankText s) : splitArguments s = [] := by
  unfold splitArguments
  rw [cutCommas_of_outerCommas_eq_zero (outerCommas_blank hs)]
  simp [Text.trim_of_blank hs]

/-- A text that is not blank is split into its pieces, without the blanks around them. -/
theorem exists_pieces_of_not_blank (hs : ¬ Text.isBlankText s) :
    ∃ ps, Pieces 0 s ps ∧ splitArguments s = ps.map Text.trim := by
  refine ⟨_, pieces_cutCommas 0 s, ?_⟩
  unfold splitArguments
  dsimp only
  rw [if_neg]
  intro hparts
  rw [List.map_cons, List.cons.injEq, List.map_eq_nil_iff, Text.trim_eq_nil_iff] at hparts
  -- a single piece is the whole text
  have heq := (pieces_cutCommas 0 s).eq_intercalate
  rw [hparts.2, List.intercalate_singleton] at heq
  rw [heq] at hs
  exact hs hparts.1

theorem splitArguments_of_outerCommas_eq_zero (h : outerCommas 0 s = 0)
    (hs : Text.trim s ≠ []) : splitArguments s = [Text.trim s] := by
  unfold splitArguments
  rw [cutCommas_of_outerCommas_eq_zero h]
  simp [hs]

/-- The arguments of a text are what stands between its commas at depth zero, but for the blanks
around it. Every such comma parts two of them, a blank text holds none, and an argument that is
split again is left as it is. -/
theorem splitArguments_lossless_and_final (s : List Char) :
    (Text.isBlankText s ∧ splitArguments s = [] ∨
      ∃ ps : List (List Char), s = List.intercalate [','] ps ∧
        (∀ p ∈ ps, outerCommas 0 p = 0) ∧
        List.Forall₂ (fun p q => ∃ b a, Text.isBlankText b ∧ Text.isBlankText a ∧
          p = b ++ (q ++ a)) ps (splitArguments s)) ∧
    (splitArguments s).length = (if Text.isBlankText s then 0 else outerCommas 0 s + 1) ∧
    ∀ q ∈ splitArguments s, Text.trim q = q ∧ (q ≠ [] → splitArguments q = [q]) := by
  by_cases hs : Text.isBlankText s
  . rw [splitArguments_of_blank hs, if_pos hs]
    exact ⟨.inl ⟨hs, rfl⟩, rfl, by simp⟩
  . obtain ⟨ps, hps, heq⟩ := exists_pieces_of_not_blank hs
    rw [heq, if_neg hs, List.length_map]
    refine ⟨.inr ⟨ps, hps.eq_intercalate, hps.outerCommas_eq_zero, ?_⟩, hps.length_eq, ?_⟩
    . rw [List.forall₂_map_right_iff, List.forall₂_same]
      exact fun p _ => Text.exists_blanks p
    . intro q hq
      obtain ⟨p, hp, rfl⟩ := List.mem_map.1 hq
      have htrim : Text.trim (Text.trim p) = Text.trim p := by
        by_cases h : Text.trim p = []
        . rw [h]
          rfl
        . exact (Text.solid_trim h).trim_eq
      refine ⟨htrim, fun hne => ?_⟩
      rw [splitArguments_of_outerCommas_eq_zero _ (by rwa [htrim]), htrim]
      rw [outerCommas_trim]
      exact hps.outerCommas_eq_zero p hp

/-- A closing parenthesis too many opens nothing, and one too few leaves the rest inside. -/
example : splitArguments ") , a,(b, c".toList = [")".toList, "a".toList, "(b, c".toList] := by
  decide +kernel

end Registrar.Key
