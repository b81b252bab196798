import Registrar.Proofs.Part

/-!
This module contains what the scanners of key expressions make of texts with parentheses. A balanced
text inside parentheses is passed over as a whole, whatever commas and arrows it has. A sealed text,
all of whose commas stand inside its own parentheses, stays in one piece when it is split at commas.
-/

namespace Registrar

namespace Text

theorem dropWhile_append_of_blank {b : List Char} (hb : isBlankText b) (s : List Char) :
    (b ++ s).dropWhile isBlank = s.dropWhile isBlank := by
  induction b with
  | nil => rfl
  | cons c b ih =>
    obtain ⟨hc, hb⟩ := Bool.and_eq_true_iff.1 hb
    rw [List.cons_append, List.dropWhile_cons, if_pos hc]
    exact ih hb

theorem trimEnd_append_of_blank {a : List Char} (ha : isBlankText a) (s : List Char) :
    trimEnd (s ++ a) = trimEnd s := by
  unfold trimEnd
  rw [List.reverse_append, dropWhile_append_of_blank]
  unfold isBlankText at ha ⊢
  rw [List.all_reverse]
  exact ha

theorem trim_of_blank {s : List Char} (hs : isBlankText s) : trim s = [] := by
  have h : trimStart s = [] := by
    rw [trimStart, ← List.append_nil s, dropWhile_append_of_blank hs]
    rfl
  rw [trim, h]
  rfl

/-- A text that is not empty and has no blanks at its ends. -/
structure Solid (s : List Char) : Prop where
  first : ∃ c r, s = c :: r ∧ isBlank c = false
  last : ∃ r c, s = r ++ [c] ∧ isBlank c = false

namespace Solid

variable {s a b : List Char}

theorem of_ends (hf : (s.head?.any fun c => !isBlank c) = true)
    (hl : (s.getLast?.any fun c => !isBlank c) = true) : Solid s := by
  constructor
  . obtain ⟨c, hc, hb⟩ := (Option.any_eq_true _ _).1 hf
    obtain ⟨r, rfl⟩ := List.head?_eq_some_iff.1 hc
    exact ⟨c, r, rfl, by simpa using hb⟩
  . obtain ⟨c, hc, hb⟩ := (Option.any_eq_true _ _).1 hl
    obtain ⟨r, rfl⟩ := List.getLast?_eq_some_iff.1 hc
    exact ⟨r, c, rfl, by simpa using hb⟩

theorem ne_nil (hs : Solid s) : s ≠ [] := by
  obtain ⟨c, r, rfl, -⟩ := hs.first
  exact List.cons_ne_nil c r

theorem trimStart_append (hs : Solid s) (a : List Char) : trimStart (s ++ a) = s ++ a := by
  obtain ⟨c, r, rfl, hc⟩ := hs.first
  unfold trimStart
  rw [List.cons_append, List.dropWhile_cons, hc]
  rfl

theorem trimEnd_append (hs : Solid s) (a : List Char) : trimEnd (a ++ s) = a ++ s := by
  obtain ⟨r, c, rfl, hc⟩ := hs.last
  unfold trimEnd
  rw [← List.append_assoc, List.reverse_append, List.reverse_singleton, List.singleton_append]
  rw [List.dropWhile_cons, hc]
  simp

theorem trim_between (hs : Solid s) (hb : isBlankText b) (ha : isBlankText a) :
    trim (b ++ (s ++ a)) = s := by
  unfold trim
  rw [trimStart, dropWhile_append_of_blank hb]
  rw [← trimStart, hs.trimStart_append, trimEnd_append_of_blank ha]
  exact hs.trimEnd_append []

theorem trim_append (hs : Solid s) (ha : isBlankText a) : trim (s ++ a) = s :=
  hs.trim_between (b := []) rfl ha

theorem trim_blank_append (hs : Solid s) (hb : isBlankText b) : trim (b ++ s) = s := by
  have h := hs.trim_between hb (a := []) rfl
  rw [List.append_nil] at h
  exact h

theorem trim_eq (hs : Solid s) : trim s = s :=
  hs.trim_blank_append (b := []) rfl

/-- What stands between the ends of a text may be anything. -/
theorem append (ha : Solid a) (hb : Solid b) (m : List Char) : Solid (a ++ (m ++ b)) where
  first := by
    obtain ⟨c, r, rfl, hc⟩ := ha.first
    exact ⟨c, r ++ (m ++ b), rfl, hc⟩
  last := by
    obtain ⟨r, c, rfl, hc⟩ := hb.last
    exact ⟨a ++ (m ++ r), c, by simp, hc⟩

end Solid

theorem cut?_append {sep : Char} {a : List Char} (ha : sep ∉ a) (b : List Char) :
    cut? sep (a ++ sep :: b) = some (a, b) := by
  induction a with
  | nil => simp [cut?]
  | cons c a ih =>
    rw [List.mem_cons, not_or] at ha
    rw [List.cons_append, cut?, if_neg (Ne.symm ha.1), ih ha.2]
    rfl

theorem cut?_eq_none {sep : Char} {s : List Char} (hs : sep ∉ s) : cut? sep s = none := by
  induction s with
  | nil => rfl
  | cons c s ih =>
    rw [List.mem_cons, not_or] at hs
    rw [cut?, if_neg (Ne.symm hs.1), ih hs.2]
    rfl

end Text

namespace Key

/-- A text in which every parenthesis has its counterpart. -/
inductive Balanced : List Char → Prop where
  | nil : Balanced []
  | plain {c : Char} {s : List Char} (hc : c ≠ '(' ∧ c ≠ ')') (hs : Balanced s) :
      Balanced (c :: s)
  | nested {a b : List Char} (ha : Balanced a) (hb : Balanced b) :
      Balanced ('(' :: (a ++ ')' :: b))

/-- A balanced text whose commas all stand inside parentheses. -/
inductive Sealed : List Char → Prop where
  | nil : Sealed []
  | plain {c : Char} {s : List Char} (hc : c ≠ '(' ∧ c ≠ ')' ∧ c ≠ ',') (hs : Sealed s) :
      Sealed (c :: s)
  | nested {a b : List Char} (ha : Balanced a) (hb : Sealed b) :
      Sealed ('(' :: (a ++ ')' :: b))

variable {a b s w : List Char}

theorem Balanced.append (ha : Balanced a) (hb : Balanced b) : Balanced (a ++ b) := by
  induction ha with
  | nil => exact hb
  | plain hc _ ih => exact .plain hc ih
  | nested ha _ _ ih =>
    rw [List.cons_append, List.append_assoc, List.cons_append]
    exact .nested ha ih

theorem Sealed.append (ha : Sealed a) (hb : Sealed b) : Sealed (a ++ b) := by
  induction ha with
  | nil => exact hb
  | plain hc _ ih => exact .plain hc ih
  | nested ha _ ih =>
    rw [List.cons_append, List.append_assoc, List.cons_append]
    exact .nested ha ih

theorem Sealed.balanced (hs : Sealed s) : Balanced s := by
  induction hs with
  | nil => exact .nil
  | plain hc _ ih => exact .plain ⟨hc.1, hc.2.1⟩ ih
  | nested ha _ ih => exact .nested ha ih

theorem balanced_intercalate {ps : List (List Char)} (hp : ∀ p ∈ ps, Balanced p) :
    Balanced (List.intercalate [','] ps) := by
  induction ps with
  | nil => exact .nil
  | cons p ps ih =>
    rw [List.forall_mem_cons] at hp
    cases ps with
    | nil =>
      rw [List.intercalate_singleton]
      exact hp.1
    | cons q ps =>
      rw [List.intercalate_cons_cons]
      apply Balanced.append _ (ih hp.2)
      exact hp.1.append (.plain (by decide) .nil)

/-- A text that has neither parentheses nor commas. -/
theorem sealed_of_not_mem (ho : '(' ∉ s) (hc : ')' ∉ s) (hm : ',' ∉ s) : Sealed s := by
  induction s with
  | nil => exact .nil
  | cons c s ih =>
    rw [List.mem_cons, not_or] at ho hc hm
    exact .plain ⟨Ne.symm ho.1, Ne.symm hc.1, Ne.symm hm.1⟩ (ih ho.2 hc.2 hm.2)

theorem cutArrow?_append_of_balanced (ha : Balanced a) (depth : Nat) (b : List Char) :
    cutArrow? (depth + 1) (a ++ b) =
      (cutArrow? (depth + 1) b).map fun (x, y) => (a ++ x, y) := by
  induction ha generalizing depth b with
  | nil => simp
  | plain hc _ ih =>
    rw [List.cons_append, cutArrow?, if_neg hc.1, if_neg hc.2, if_neg (Nat.succ_ne_zero depth), ih]
    simp [Function.comp_def]
  | nested _ _ iha ihb =>
    -- the text inside is one level deeper, and what follows it is on this level again
    rw [List.cons_append, cutArrow?, if_pos rfl, List.append_assoc, iha]
    rw [List.cons_append, cutArrow?, if_neg (by decide), if_pos rfl, Nat.add_sub_cancel, ihb]
    simp [Function.comp_def]

theorem cutCommas_append_of_balanced (ha : Balanced a) (depth : Nat) (b : List Char) :
    cutCommas (depth + 1) (a ++ b) =
      (a ++ (cutCommas (depth + 1) b).1, (cutCommas (depth + 1) b).2) := by
  induction ha generalizing depth b with
  | nil => rfl
  | plain hc _ ih =>
    rw [List.cons_append, cutCommas, if_neg hc.1, if_neg hc.2, if_neg (by simp), ih]
    rfl
  | nested _ _ iha ihb =>
    rw [List.cons_append, cutCommas, if_pos rfl, List.append_assoc, iha]
    rw [List.cons_append, cutCommas, if_neg (by decide), if_pos rfl, Nat.add_sub_cancel, ihb]
    simp

theorem cutCommas_append_of_sealed (ha : Sealed a) (b : List Char) :
    cutCommas 0 (a ++ b) = (a ++ (cutCommas 0 b).1, (cutCommas 0 b).2) := by
  induction ha with
  | nil => rfl
  | plain hc _ ih =>
    rw [List.cons_append, cutCommas, if_neg hc.1, if_neg hc.2.1, if_neg (by simp [hc.2.2]), ih]
    rfl
  | nested ha _ ih =>
    rw [List.cons_append, cutCommas, if_pos rfl, List.append_assoc, cutCommas_append_of_balanced ha]
    rw [List.cons_append, cutCommas, if_neg (by decide), if_pos rfl, Nat.add_sub_cancel, ih]
    simp

theorem cutCommas_intercalate {p : List Char} {ps : List (List Char)}
    (hp : ∀ q ∈ p :: ps, Sealed q) : cutCommas 0 (List.intercalate [','] (p :: ps)) = (p, ps) := by
  induction ps generalizing p with
  | nil =>
    rw [List.intercalate_singleton, ← List.append_nil p]
    rw [cutCommas_append_of_sealed (hp p List.mem_cons_self)]
    simp [cutCommas]
  | cons q ps ih =>
    have hrest := ih fun r hr => hp r (List.mem_cons_of_mem p hr)
    rw [List.intercalate_cons_cons, List.append_assoc]
    rw [cutCommas_append_of_sealed (hp p List.mem_cons_self), List.singleton_append]
    rw [cutCommas, if_neg (by decide), if_neg (by decide), if_pos ⟨rfl, rfl⟩, hrest]
    simp

/-- Sealed pieces are the arguments that they are joined to. -/
theorem splitArguments_intercalate {ps : List (List Char)} (hp : ∀ p ∈ ps, Sealed p)
    (hne : ∀ p ∈ ps, Text.trim p ≠ []) :
    splitArguments (List.intercalate [','] ps) = ps.map Text.trim := by
  cases ps with
  | nil => rfl
  | cons p ps =>
    unfold splitArguments
    rw [cutCommas_intercalate hp]
    dsimp only
    rw [if_neg]
    intro heq
    rw [List.map_cons, List.cons.injEq] at heq
    exact hne p List.mem_cons_self heq.1

/-- An arrow that begins behind a text without one does not begin in it. -/
theorem stripStart?_arrow_cons {c : Char} (hw : ¬ "->".toList <:+: c :: w)
    (hb : b.head? ≠ some '>') : Text.stripStart? "->".toList (c :: (w ++ b)) = none := by
  cases hs : Text.stripStart? "->".toList (c :: (w ++ b)) with
  | none => rfl
  | some r =>
    have heq : c :: (w ++ b) = '-' :: '>' :: r := Text.stripStart?_eq_some hs
    rw [List.cons.injEq] at heq
    obtain ⟨rfl, heq⟩ := heq
    cases w with
    | nil =>
      rw [List.nil_append] at heq
      rw [heq] at hb
      exact absurd rfl hb
    | cons d w =>
      rw [List.cons_append, List.cons.injEq] at heq
      rw [heq.1] at hw
      exact absurd ⟨[], w, rfl⟩ hw

theorem cutWord?_append (hw : ¬ "->".toList <:+: w) (hb : b.head? ≠ some '>') :
    Text.cutWord? "->".toList (w ++ b) =
      (Text.cutWord? "->".toList b).map fun (x, y) => (w ++ x, y) := by
  induction w with
  | nil => simp
  | cons c w ih =>
    have hrest : ¬ "->".toList <:+: w := fun h => hw (h.trans (List.suffix_cons c w).isInfix)
    rw [List.cons_append, Text.cutWord?, stripStart?_arrow_cons hw hb, ih hrest]
    simp [Function.comp_def]

theorem cutArrow?_append (hw : ¬ "->".toList <:+: w) (ho : '(' ∉ w) (hc : ')' ∉ w)
    (hb : b.head? ≠ some '>') :
    cutArrow? 0 (w ++ b) = (cutArrow? 0 b).map fun (x, y) => (w ++ x, y) := by
  induction w with
  | nil => simp
  | cons c w ih =>
    have hrest : ¬ "->".toList <:+: w := fun h => hw (h.trans (List.suffix_cons c w).isInfix)
    rw [List.mem_cons, not_or] at ho hc
    rw [List.cons_append, cutArrow?, if_neg (Ne.symm ho.1), if_neg (Ne.symm hc.1), if_pos rfl]
    rw [stripStart?_arrow_cons hw hb, ih hrest ho.2 hc.2]
    simp [Function.comp_def]

end Key

end Registrar
