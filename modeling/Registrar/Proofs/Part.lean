import Registrar.Builtin
import Registrar.Spec.Basic

/-!
This module contains what the parts of a text and of a key expression are made of: no character
stands in a part that does not stand in the whole. A callee names a delegate by a point, so that an
expression without a point has no part that names one. An expression begins with its source, and its
first character tells the functions and the names of what is remembered on its own from the rest.
-/

namespace Registrar

namespace Text

theorem trimStart_subset (s : List Char) : trimStart s ⊆ s :=
  (List.dropWhile_sublist isBlank).subset

theorem trimEnd_subset (s : List Char) : trimEnd s ⊆ s := by
  intro c hc
  unfold trimEnd at hc
  rw [List.mem_reverse] at hc
  apply List.mem_reverse.1
  exact (List.dropWhile_sublist isBlank).subset hc

theorem trim_subset (s : List Char) : trim s ⊆ s := by
  intro c hc
  apply trimStart_subset
  apply trimEnd_subset
  exact hc

def front (s : List Char) : Option Char :=
  (trimStart s).head?

theorem trimStart_append {a : List Char} (h : trimStart a ≠ []) (b : List Char) :
    trimStart (a ++ b) = trimStart a ++ b := by
  unfold trimStart at *
  rw [List.dropWhile_append, if_neg]
  rw [List.isEmpty_iff]
  exact h

/-- The blanks behind a text end it. -/
theorem exists_trimStart_eq (s : List Char) : ∃ b, trimStart s = trim s ++ b := by
  obtain ⟨b, hb⟩ := List.dropWhile_suffix (l := (trimStart s).reverse) isBlank
  refine ⟨b.reverse, ?_⟩
  rw [← List.reverse_inj, ← hb, List.reverse_append, List.reverse_reverse]
  unfold trim trimEnd
  rw [List.reverse_reverse]

theorem front_append {a : List Char} {c : Char} (h : front a = some c) (b : List Char) :
    front (a ++ b) = some c := by
  unfold front at *
  obtain ⟨r, hr⟩ := List.head?_eq_some_iff.1 h
  rw [trimStart_append, hr]
  . rfl
  . rw [hr]
    exact List.cons_ne_nil c r

theorem cut?_eq_some {sep : Char} {s a b : List Char} (h : cut? sep s = some (a, b)) :
    s = a ++ sep :: b ∧ sep ∉ a := by
  induction s generalizing a with
  | nil => simp [cut?] at h
  | cons c r ih =>
    unfold cut? at h
    split at h
    . next hc =>
      obtain ⟨rfl, rfl⟩ : [] = a ∧ r = b := by simpa using h
      simp [hc]
    . next hc =>
      obtain ⟨⟨a', b'⟩, hr, heq⟩ := Option.map_eq_some_iff.1 h
      obtain ⟨rfl, rfl⟩ : c :: a' = a ∧ b' = b := by simpa using heq
      obtain ⟨rfl, hsep⟩ := ih hr
      simp [hsep, Ne.symm hc]

theorem stripStart?_eq_some {w s r : List Char} (h : stripStart? w s = some r) : s = w ++ r := by
  induction w generalizing s with
  | nil => simpa [stripStart?] using h
  | cons c ws ih =>
    cases s with
    | nil => simp [stripStart?] at h
    | cons d t =>
      unfold stripStart? at h
      split at h
      . next hc =>
        rw [ih h, hc]
        rfl
      . simp at h

theorem stripStart?_append (w r : List Char) : stripStart? w (w ++ r) = some r := by
  induction w with
  | nil => rfl
  | cons c ws ih =>
    rw [List.cons_append, stripStart?, if_pos rfl]
    exact ih

theorem stripLast?_subset {c : Char} {s r : List Char} (h : stripLast? c s = some r) : r ⊆ s := by
  unfold stripLast? at h
  split at h
  . obtain rfl : s.dropLast = r := by simpa using h
    exact (List.dropLast_sublist s).subset
  . simp at h

theorem cutWord?_eq_some {w s a b : List Char} (h : cutWord? w s = some (a, b)) :
    s = a ++ (w ++ b) := by
  induction s generalizing a with
  | nil =>
    obtain ⟨r, hr, heq⟩ := Option.map_eq_some_iff.1 h
    obtain ⟨rfl, rfl⟩ : [] = a ∧ r = b := by simpa using heq
    show _ = w ++ r
    exact stripStart?_eq_some hr
  | cons c t ih =>
    unfold cutWord? at h
    split at h
    . next r hr =>
      obtain ⟨rfl, rfl⟩ : [] = a ∧ r = b := by simpa using h
      show _ = w ++ r
      exact stripStart?_eq_some hr
    . obtain ⟨⟨a', b'⟩, ht, heq⟩ := Option.map_eq_some_iff.1 h
      obtain ⟨rfl, rfl⟩ : c :: a' = a ∧ b' = b := by simpa using heq
      rw [ih ht]
      rfl

end Text

namespace Key

theorem cutArrow?_eq_some {depth : Nat} {s a b : List Char}
    (h : cutArrow? depth s = some (a, b)) : s = a ++ ("->".toList ++ b) := by
  induction s generalizing depth a with
  | nil => simp [cutArrow?] at h
  | cons c r ih =>
    have step {d : Nat} {a : List Char}
        (h : (cutArrow? d r).map (fun p => (c :: p.1, p.2)) = some (a, b)) :
        c :: r = a ++ ("->".toList ++ b) := by
      obtain ⟨⟨a', b'⟩, hr, heq⟩ := Option.map_eq_some_iff.1 h
      obtain ⟨rfl, rfl⟩ : c :: a' = a ∧ b' = b := by simpa using heq
      rw [ih hr]
      rfl
    unfold cutArrow? at h
    split at h
    . exact step h
    . split at h
      . exact step h
      . split at h
        . next b' hb =>
          obtain ⟨rfl, rfl⟩ : [] = a ∧ b' = b := by simpa using h
          split at hb
          . rw [List.nil_append]
            exact Text.stripStart?_eq_some hb
          . cases hb
        . exact step h

theorem subset_of_mem_cutCommas {depth : Nat} {s p : List Char}
    (h : p ∈ (cutCommas depth s).1 :: (cutCommas depth s).2) : p ⊆ s := by
  induction s generalizing depth p with
  | nil => simp_all [cutCommas]
  | cons c r ih =>
    have front {d : Nat} (h : p ∈ (c :: (cutCommas d r).1) :: (cutCommas d r).2) : p ⊆ c :: r := by
      cases List.mem_cons.1 h with
      | inl h =>
        rw [h]
        exact List.cons_subset_cons c (ih List.mem_cons_self)
      | inr h => exact List.subset_cons_of_subset c (ih (List.mem_cons_of_mem _ h))
    unfold cutCommas at h
    split at h
    . exact front h
    . split at h
      . exact front h
      . split at h
        . cases List.mem_cons.1 h with
          | inl h => simp [h]
          | inr h => exact List.subset_cons_of_subset c (ih h)
        . exact front h

theorem subset_of_mem_splitArguments {s p : List Char} (h : p ∈ splitArguments s) : p ⊆ s := by
  unfold splitArguments at h
  dsimp only at h
  split at h
  . simp at h
  . obtain ⟨q, hq, rfl⟩ := List.mem_map.1 h
    exact List.Subset.trans (Text.trim_subset q) (subset_of_mem_cutCommas hq)

theorem invocation?_subset {s callee arguments : List Char}
    (h : invocation? s = some (callee, arguments)) : callee ⊆ s ∧ arguments ⊆ s := by
  obtain ⟨⟨a, b⟩, hcut, h⟩ := Option.bind_eq_some_iff.1 h
  obtain ⟨t, hstrip, h⟩ := Option.bind_eq_some_iff.1 h
  obtain ⟨rfl, rfl⟩ : Text.trim a = callee ∧ t = arguments := by simpa using h
  obtain ⟨rfl, -⟩ := Text.cut?_eq_some hcut
  constructor
  . intro c hc
    have := Text.trim_subset a hc
    simp [this]
  . intro c hc
    have := Text.trimEnd_subset b (Text.stripLast?_subset hstrip hc)
    simp [this]

theorem splitSource_go_eq (core : List Char) (sources : List KeySource) :
    core = (splitSource.go core sources).1.marker ++ (splitSource.go core sources).2 := by
  induction sources with
  | nil => rfl
  | cons source r ih =>
    unfold splitSource.go
    split
    . next payload h => exact Text.stripStart?_eq_some h
    . exact ih

theorem splitSource_eq (core : List Char) :
    core = (splitSource core).1.marker ++ (splitSource core).2 := by
  exact splitSource_go_eq core KeySource.named

/-- What stands before the transform of an expression is the beginning of it. -/
theorem cutTransform?_eq_some {s a b : List Char} (h : cutTransform? s = some (a, b)) :
    s = a ++ ("->".toList ++ b) := by
  unfold cutTransform? at h
  split at h
  . exact cutArrow?_eq_some h
  . exact Text.cutWord?_eq_some h

end Key

namespace KeyExpression

/-- An expression begins, but for blanks, with its source and its payload. -/
theorem exists_of_read? {key : String} {e : KeyExpression} (h : read? key = some e) :
    ∃ core rest, key.toList = core ++ rest ∧
      Text.trim core = e.source.marker ++ e.payload.toList := by
  unfold read? at h
  dsimp only at h
  cases ht : Key.cutTransform? key.toList with
  | none =>
    rw [ht] at h
    obtain ⟨-, rfl⟩ : _ ∧ _ = e := by simpa using h
    refine ⟨key.toList, [], (List.append_nil _).symm, ?_⟩
    simpa using Key.splitSource_eq (Text.trim key.toList)
  | some parts =>
    rw [ht] at h
    obtain ⟨-, rfl⟩ : _ ∧ _ = e := by simpa using h
    refine ⟨parts.1, "->".toList ++ parts.2, Key.cutTransform?_eq_some ht, ?_⟩
    simpa using Key.splitSource_eq (Text.trim parts.1)

theorem payload_subset {key : String} {e : KeyExpression} (h : read? key = some e) :
    e.payload.toList ⊆ key.toList := by
  obtain ⟨core, rest, hkey, hcore⟩ := exists_of_read? h
  intro c hc
  rw [hkey]
  apply List.mem_append_left
  apply Text.trim_subset
  rw [hcore]
  exact List.mem_append_right _ hc

/-- Where a source is named, an expression begins with its marker, but for blanks. -/
theorem trimStart_eq {key : String} {e : KeyExpression} (h : read? key = some e)
    (hn : e.source ≠ .bare) : ∃ b, Text.trimStart key.toList = e.source.marker ++ b := by
  obtain ⟨core, rest, hkey, hcore⟩ := exists_of_read? h
  obtain ⟨b, hb⟩ := Text.exists_trimStart_eq core
  rw [hcore, List.append_assoc] at hb
  refine ⟨e.payload.toList ++ b ++ rest, ?_⟩
  rw [hkey, Text.trimStart_append, hb]
  . simp only [List.append_assoc]
  . rw [hb]
    cases hs : e.source with
    | bare => exact absurd hs hn
    | _ => exact List.cons_ne_nil _ _

theorem front_eq {key : String} {e : KeyExpression} (h : read? key = some e)
    (hn : e.source ≠ .bare) : Text.front key.toList = e.source.marker.head? := by
  obtain ⟨b, hb⟩ := trimStart_eq h hn
  unfold Text.front
  rw [hb]
  cases hs : e.source with
  | bare => exact absurd hs hn
  | _ => rfl

/-- An expression begins with no text that begins with something else than its marker. -/
theorem ne_append {key w : String} {e : KeyExpression} (h : read? key = some e)
    (hn : e.source ≠ .bare) (hw : Text.trimStart w.toList = w.toList)
    (hm : ¬ e.source.marker <+: w.toList) (hm' : ¬ w.toList <+: e.source.marker) (x : String) :
    key ≠ w ++ x := by
  intro heq
  obtain ⟨b, hb⟩ := trimStart_eq h hn
  have hnil : Text.trimStart w.toList ≠ [] := by
    rw [hw]
    intro hnil
    rw [hnil] at hm'
    exact hm' List.nil_prefix
  rw [heq, String.toList_append, Text.trimStart_append hnil, hw] at hb
  have hprefixes := List.prefix_or_prefix_of_prefix (List.prefix_append w.toList x.toList)
    (hb ▸ List.prefix_append e.source.marker b)
  exact hprefixes.elim hm' hm

end KeyExpression

/-- No expression whose value is remembered begins like the text. -/
def Key.Apart (q : String) : Prop :=
  Text.front q.toList ≠ some 'c' ∧ Text.front q.toList ≠ some 'p'

theorem Key.Apart.ne_append {q key : String} {e : KeyExpression} (hq : Apart q)
    (he : KeyExpression.read? key = some e) (hc : e.isCacheable) (hn : e.source ≠ .bare)
    (x : String) : q ≠ key ++ x := by
  intro heq
  have hfront := KeyExpression.front_eq he hn
  have hkey {c : Char} (h : e.source.marker.head? = some c) : Text.front q.toList = some c := by
    rw [heq, String.toList_append]
    apply Text.front_append
    rw [hfront, h]
  cases hs : e.source with
  | bare => exact hn hs
  | func => simp [KeyExpression.isCacheable, hs] at hc
  | passwd => exact hq.2 (hkey (by rw [hs]; rfl))
  -- the markers of all other sources begin with the same letter
  | _ => exact hq.1 (hkey (by rw [hs]; rfl))

namespace Invocation

theorem callee_subset (payload : String) : (read payload).callee.toList ⊆ payload.toList := by
  unfold read
  split
  . next h => simpa using (Key.invocation?_subset h).1
  . simpa using Text.trim_subset payload.toList

theorem subset_of_mem_arguments {payload a : String} (h : a ∈ (read payload).arguments) :
    a.toList ⊆ payload.toList := by
  unfold read at h
  split at h
  . next hi =>
    obtain ⟨p, hp, rfl⟩ := List.mem_map.1 h
    rw [String.toList_ofList]
    exact List.Subset.trans (Key.subset_of_mem_splitArguments hp) (Key.invocation?_subset hi).2
  . simp at h

end Invocation

namespace BuiltinCall

theorem parameter?_subset {text name key : String} (h : parameter? text = some (name, key)) :
    key.toList ⊆ text.toList := by
  unfold parameter? at h
  split at h
  . simp at h
  . next a b hcut =>
    dsimp only at h
    split at h
    . simp at h
    . obtain ⟨-, rfl⟩ : _ ∧ String.ofList (Text.trim b) = key := by simpa using h
      rw [String.toList_ofList, (Text.cut?_eq_some hcut).1]
      intro c hc
      have := Text.trim_subset b hc
      simp [this]

theorem enter_subset {s : List Char} {texts : List String} {made parameters : List (String × String)}
    (ht : ∀ t ∈ texts, t.toList ⊆ s) (hm : ∀ p ∈ made, p.2.toList ⊆ s)
    (h : enter made texts = .ok parameters) : ∀ p ∈ parameters, p.2.toList ⊆ s := by
  induction texts generalizing made with
  | nil =>
    obtain rfl : made = parameters := by simpa [enter] using h
    exact hm
  | cons text r ih =>
    unfold enter at h
    split at h
    . simp at h
    . next name key hp =>
      apply ih (fun t h => ht t (List.mem_cons_of_mem _ h)) _ h
      intro p hmem
      cases Assoc.mem_insert hmem with
      | inl heq =>
        rw [heq]
        exact List.Subset.trans (parameter?_subset hp) (ht text List.mem_cons_self)
      | inr hmem => exact hm p hmem

theorem parameter_subset {payload name key : String} {c : BuiltinCall} (hc : read payload = .ok c)
    (h : c.parameter name = some key) : key.toList ⊆ payload.toList := by
  unfold read at hc
  dsimp only at hc
  split at hc
  . simp at hc
  . next builtin _ =>
    cases he : enter [] (Invocation.read payload).arguments with
    | error e => simp [he, Except.map] at hc
    | ok parameters =>
      obtain rfl : (⟨builtin, parameters⟩ : BuiltinCall) = c := by simpa [he, Except.map] using hc
      apply enter_subset (fun _ h => Invocation.subset_of_mem_arguments h) (by simp) he (name, key)
      exact Assoc.mem_of_find?_eq_some h

end BuiltinCall

theorem Operation.splitCallee?_eq_some {callee delegate method : String}
    (h : splitCallee? callee = some (delegate, method)) :
    '.' ∈ callee.toList ∧ '.' ∉ delegate.toList := by
  obtain ⟨⟨a, b⟩, hcut, heq⟩ := Option.map_eq_some_iff.1 h
  obtain ⟨rfl, -⟩ : String.ofList a = delegate ∧ String.ofList b = method := by simpa using heq
  obtain ⟨heq, hpoint⟩ := Text.cut?_eq_some hcut
  rw [heq, String.toList_ofList]
  simp [hpoint]

end Registrar
