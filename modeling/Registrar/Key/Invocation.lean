import Registrar.Key

/-!
This module contains invocations, the payloads `callee(argument, ...)` of the sources that call
something, and shows that every part of an expression is shorter than the expression, so that
resolving the parts comes to an end.
-/

namespace Registrar

/-- What is called, and the texts of its arguments. -/
structure Invocation where
  callee : String
  arguments : List String := []
deriving Repr, DecidableEq, Inhabited

/-- Read a payload. One without parentheses around arguments is a callee as a whole. -/
def Invocation.read (payload : String) : Invocation :=
  match Key.invocation? payload.toList with
  | some (callee, arguments) =>
    ⟨String.ofList callee, (Key.splitArguments arguments).map String.ofList⟩
  | none => ⟨String.ofList (Text.trim payload.toList), []⟩

namespace Key

theorem length_of_cutArrow? {depth : Nat} {s a b : List Char} (h : cutArrow? depth s = some (a, b)) :
    a.length + b.length ≤ s.length := by
  induction s generalizing depth a with
  | nil => simp [cutArrow?] at h
  | cons c r ih =>
    have step {d : Nat} {a : List Char}
        (h : (cutArrow? d r).map (fun p => (c :: p.1, p.2)) = some (a, b)) :
        a.length + b.length ≤ (c :: r).length := by
      obtain ⟨⟨a', b'⟩, hr, heq⟩ := Option.map_eq_some_iff.1 h
      obtain ⟨rfl, rfl⟩ : c :: a' = a ∧ b' = b := by simpa using heq
      have := ih hr
      simp only [List.length_cons]
      omega
    rw [cutArrow?] at h
    split at h
    . exact step h
    . split at h
      . exact step h
      . split at h
        . next b' hb =>
            obtain ⟨rfl, rfl⟩ : [] = a ∧ b' = b := by simpa using h
            split at hb
            . have := Text.length_of_stripStart? hb
              simp only [List.length_nil]
              omega
            . simp at hb
        . next => exact step h

theorem length_le_of_mem_cutCommas {depth : Nat} {s p : List Char}
    (h : p ∈ (cutCommas depth s).1 :: (cutCommas depth s).2) : p.length ≤ s.length := by
  induction s generalizing depth p with
  | nil => simp_all [cutCommas]
  | cons c r ih =>
    rw [cutCommas] at h
    have front {d : Nat}
        (h : p ∈ (c :: (cutCommas d r).1) :: (cutCommas d r).2) :
        p.length ≤ (c :: r).length := by
      simp only [List.length_cons]
      rcases List.mem_cons.1 h with rfl | h
      . have := ih (List.mem_cons_self (a := (cutCommas d r).1) (l := (cutCommas d r).2))
        simp only [List.length_cons]
        omega
      . have := ih (List.mem_cons_of_mem (cutCommas d r).1 h)
        omega
    split at h
    . exact front h
    . split at h
      . exact front h
      . split at h
        . rcases List.mem_cons.1 h with rfl | h
          . simp
          . have := ih h
            simp only [List.length_cons]
            omega
        . exact front h

theorem length_le_of_mem_splitArguments {s p : List Char} (h : p ∈ splitArguments s) :
    p.length ≤ s.length := by
  rw [splitArguments] at h
  simp only at h
  split at h
  . simp at h
  . obtain ⟨q, hq, rfl⟩ := List.mem_map.1 h
    have := length_le_of_mem_cutCommas hq
    have := Text.length_trim_le q
    omega

theorem length_of_invocation? {s callee arguments : List Char}
    (h : invocation? s = some (callee, arguments)) :
    callee.length + arguments.length + 2 ≤ s.length := by
  obtain ⟨⟨a, b⟩, hcut, h⟩ := Option.bind_eq_some_iff.1 h
  obtain ⟨t, hstrip, h⟩ := Option.bind_eq_some_iff.1 h
  obtain ⟨rfl, rfl⟩ : Text.trim a = callee ∧ t = arguments := by simpa using h
  have h₁ := Text.length_of_cut? hcut
  have h₂ := Text.length_of_stripLast? hstrip
  have h₃ := Text.length_trimEnd_le b
  have h₄ := Text.length_trim_le a
  omega

theorem length_of_splitSource_go {core : List Char} (sources : List KeySource) :
    (splitSource.go core sources).1.marker.length + (splitSource.go core sources).2.length ≤
      core.length := by
  induction sources with
  | nil => exact Nat.le_of_eq (Nat.zero_add _)
  | cons source r ih =>
    rw [splitSource.go]
    split
    . next payload h =>
        have := Text.length_of_stripStart? h
        simp only
        omega
    . next => exact ih

theorem length_of_splitSource (core : List Char) :
    (splitSource core).1.marker.length + (splitSource core).2.length ≤ core.length :=
  length_of_splitSource_go KeySource.named

theorem length_of_cutTransform? {s a b : List Char} (h : cutTransform? s = some (a, b)) :
    a.length ≤ s.length := by
  rw [cutTransform?] at h
  split at h
  . have := length_of_cutArrow? h
    omega
  . have := Text.length_of_cutWord? h
    omega

end Key

namespace Invocation

theorem length_callee_le (payload : String) : (read payload).callee.length ≤ payload.length := by
  rw [read, ← String.length_toList (s := payload)]
  split
  . next callee arguments h =>
      have := Key.length_of_invocation? h
      rw [String.length_ofList]
      omega
  . next => simpa using Text.length_trim_le payload.toList

theorem length_lt_of_mem_arguments {payload a : String} (h : a ∈ (read payload).arguments) :
    a.length < payload.length := by
  rw [read] at h
  rw [← String.length_toList (s := payload)]
  split at h
  . next callee arguments hi =>
      obtain ⟨p, hp, rfl⟩ := List.mem_map.1 h
      have := Key.length_le_of_mem_splitArguments hp
      have := Key.length_of_invocation? hi
      rw [String.length_ofList]
      omega
  . next => simp at h

end Invocation

/-- The payload of an expression is not longer than the expression, and shorter if a source is
named. -/
theorem KeyExpression.length_of_read? {key : String} {e : KeyExpression} (h : read? key = some e) :
    e.source.marker.length + e.payload.length ≤ key.length := by
  have core (core : List Char) (hc : core.length ≤ key.toList.length) :
      (Key.splitSource core).1.marker.length +
        (String.ofList (Key.splitSource core).2).length ≤ key.length := by
    have := Key.length_of_splitSource core
    rw [String.length_ofList, ← String.length_toList (s := key)]
    omega
  rw [read?] at h
  cases ht : Key.cutTransform? key.toList with
  | none =>
    rw [ht] at h
    obtain ⟨-, rfl⟩ : _ ∧ _ = e := by simpa using h
    exact core _ (Text.length_trim_le _)
  | some parts =>
    rw [ht] at h
    obtain ⟨-, rfl⟩ : _ ∧ _ = e := by simpa using h
    exact core _ (Nat.le_trans (Text.length_trim_le _) (Key.length_of_cutTransform? ht))

end Registrar
