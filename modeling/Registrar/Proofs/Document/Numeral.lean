import Registrar.Proofs.Document.Text
import Registrar.Proofs.Fitting

/-!
This module contains the ways to write a number in a document, and the proof that they are the ways
that are read.
-/

namespace Registrar.Json

/-- Digits and nothing else, at least one of them. -/
def IsDigits (s : List Char) : Prop :=
  s ≠ [] ∧ ∀ c ∈ s, c.isDigit

/-- Digits that do not begin with a zero, unless there is just this one. -/
def IsWhole (s : List Char) : Prop :=
  IsDigits s ∧ ∀ r, s = '0' :: r → r = []

namespace Literal

/-- The ways to write an exponent, which may be missing. -/
inductive SpellsExponent : Option (Bool × List Char) → List Char → Prop
  | none : SpellsExponent none []
  | unsigned {letter : Char} {digits : List Char} (hletter : letter = 'e' ∨ letter = 'E')
    (h : IsDigits digits) : SpellsExponent (some (false, digits)) (letter :: digits)
  | plus {letter : Char} {digits : List Char} (hletter : letter = 'e' ∨ letter = 'E')
    (h : IsDigits digits) : SpellsExponent (some (false, digits)) (letter :: '+' :: digits)
  | minus {letter : Char} {digits : List Char} (hletter : letter = 'e' ∨ letter = 'E')
    (h : IsDigits digits) : SpellsExponent (some (true, digits)) (letter :: '-' :: digits)

/-- The ways to write what stands behind the sign of a number. -/
inductive SpellsMagnitude : Literal → List Char → Prop
  | whole {negative : Bool} {whole t : List Char} {exponent : Option (Bool × List Char)}
    (h : IsWhole whole) (he : SpellsExponent exponent t) :
    SpellsMagnitude { negative, whole, exponent } (whole ++ t)
  | fraction {negative : Bool} {whole fraction t : List Char}
    {exponent : Option (Bool × List Char)} (h : IsWhole whole) (hf : IsDigits fraction)
    (he : SpellsExponent exponent t) :
    SpellsMagnitude { negative, whole, fraction, hasFraction := true, exponent }
      (whole ++ '.' :: (fraction ++ t))

/-- The ways to write a number. -/
inductive Spells : Literal → List Char → Prop
  | positive {l : Literal} {s : List Char} (hl : l.negative = false) (h : l.SpellsMagnitude s) :
    Spells l s
  | negative {l : Literal} {s : List Char} (hl : l.negative = true) (h : l.SpellsMagnitude s) :
    Spells l ('-' :: s)

end Literal

namespace Reader

open Literal

theorem span_digits {s r : List Char} (hs : ∀ c ∈ s, c.isDigit)
    (hr : ∀ c t, r = c :: t → c.isDigit = false) :
    (s ++ r).takeWhile Char.isDigit = s ∧ (s ++ r).dropWhile Char.isDigit = r := by
  rw [List.takeWhile_append_of_pos hs, List.dropWhile_append_of_pos hs]
  cases r with
  | nil => simp
  | cons c t => simp [hr c t rfl]

theorem readWhole_append {s r : List Char} (h : IsWhole s)
    (hr : ∀ c t, r = c :: t → c.isDigit = false) : readWhole (s ++ r) = .ok (s, r) := by
  obtain ⟨htake, hdrop⟩ := span_digits h.1.2 hr
  unfold readWhole
  rw [htake, hdrop]
  dsimp only
  split
  . exact absurd rfl h.1.1
  . next d _ => cases h.2 _ rfl
  . rfl

theorem readFraction_append {l : Literal} {s r : List Char} (h : IsDigits s)
    (hr : ∀ c t, r = c :: t → c.isDigit = false) :
    readFraction l (s ++ r) = .ok ({ l with fraction := s, hasFraction := true }, r) := by
  obtain ⟨htake, hdrop⟩ := span_digits h.2 hr
  unfold readFraction
  rw [htake, hdrop]
  exact if_neg (by simpa using h.1)

theorem not_isDigit_of_letter {letter : Char} (h : letter = 'e' ∨ letter = 'E') :
    letter.isDigit = false := by
  cases h with
  | inl h =>
    subst h
    decide
  | inr h =>
    subst h
    decide

theorem not_isDigit_of_spellsExponent {exponent : Option (Bool × List Char)} {t : List Char}
    (h : SpellsExponent exponent t) : ∀ c r, t = c :: r → c.isDigit = false := by
  rintro c r rfl
  cases h with
  | unsigned hletter => exact not_isDigit_of_letter hletter
  | plus hletter => exact not_isDigit_of_letter hletter
  | minus hletter => exact not_isDigit_of_letter hletter

/-- Read a point and the digits behind it, if there is one. -/
def readPoint (l : Literal) : List Char → Except Stop (Literal × List Char)
  | '.' :: r => readFraction l r
  | r => .ok (l, r)

/-- Read the letter of an exponent and what stands behind it, if there is one. -/
def readPower (l : Literal) : List Char → Except Stop (Literal × List Char)
  | 'e' :: r => readExponent l r
  | 'E' :: r => readExponent l r
  | r => .ok (l, r)

/-- Read a number behind its sign. -/
def readMagnitude (negative : Bool) (s : List Char) : Except Stop (Number × List Char) := do
  let (digits, r) ← readWhole s
  let (l, r) ← readPoint { negative, whole := digits } r
  let (l, r) ← readPower l r
  return (.ofLiteral l, r)

section Magnitude

variable {α : Type} (l : Literal) (r : List Char) (f : Literal × List Char → Except Stop α)

theorem readPoint_bind :
    readPoint l r >>= f =
      match r with
      | '.' :: r => readFraction l r >>= f
      | r => .ok (l, r) >>= f := by
  unfold readPoint
  split <;> rfl

theorem readPower_bind :
    readPower l r >>= f =
      match r with
      | 'e' :: r => readExponent l r >>= f
      | 'E' :: r => readExponent l r >>= f
      | r => .ok (l, r) >>= f := by
  unfold readPower
  split <;> rfl

/-- What is read of a number behind its sign, as it is written in the reader. -/
theorem readMagnitude_eq (negative : Bool) (s : List Char) :
    readMagnitude negative s = (do
      let (digits, r) ← readWhole s
      let l : Literal := { negative, whole := digits }
      let (l, r) ←
        match r with
        | '.' :: r => readFraction l r
        | r => .ok (l, r)
      let (l, r) ←
        match r with
        | 'e' :: r => readExponent l r
        | 'E' :: r => readExponent l r
        | r => .ok (l, r)
      return (.ofLiteral l, r)) := by
  unfold readMagnitude
  simp only [readPoint_bind, readPower_bind]

end Magnitude

theorem readNumber_minus (s : List Char) : readNumber ('-' :: s) = readMagnitude true s :=
  (readMagnitude_eq true s).symm

theorem readNumber_plain {s : List Char} (h : ∀ r, s ≠ '-' :: r) :
    readNumber s = readMagnitude false s := by
  unfold readNumber
  split
  . next negative r heq =>
      split at heq
      . exact absurd rfl (h _)
      . cases heq
        exact (readMagnitude_eq false s).symm

section Exponent

variable {l : Literal} {s t : List Char}

theorem readExponent_signed (h : IsDigits s) (negative : Bool) :
    readExponent l ((if negative then '-' else '+') :: s) =
      .ok ({ l with exponent := some (negative, s) }, []) := by
  obtain ⟨htake, hdrop⟩ := span_digits (r := []) h.2 (by simp)
  rw [List.append_nil] at htake hdrop
  unfold readExponent
  cases negative with
  | false =>
    simp only [Bool.false_eq_true, if_false, htake, hdrop]
    exact if_neg (by simpa using h.1)
  | true =>
    simp only [if_true, htake, hdrop]
    exact if_neg (by simpa using h.1)

theorem readExponent_unsigned (h : IsDigits s) :
    readExponent l s = .ok ({ l with exponent := some (false, s) }, []) := by
  have hplus : readExponent l s = readExponent l ('+' :: s) := by
    unfold readExponent
    split
    . next negative r heq =>
        split at heq
        . exact absurd (h.2 '+' List.mem_cons_self) (by decide)
        . exact absurd (h.2 '-' List.mem_cons_self) (by decide)
        . cases heq
          rfl
  rw [hplus]
  exact readExponent_signed h false

theorem readPower_of_spells {exponent : Option (Bool × List Char)} (h : SpellsExponent exponent t)
    (hl : l.exponent = none) : readPower l t = .ok ({ l with exponent }, []) := by
  cases h with
  | none =>
    obtain ⟨negative, whole, fraction, hasFraction, exponent⟩ := l
    cases hl
    rfl
  | unsigned hletter hdigits =>
    obtain rfl | rfl := hletter
    . exact readExponent_unsigned hdigits
    . exact readExponent_unsigned hdigits
  | plus hletter hdigits =>
    obtain rfl | rfl := hletter
    . exact readExponent_signed hdigits false
    . exact readExponent_signed hdigits false
  | minus hletter hdigits =>
    obtain rfl | rfl := hletter
    . exact readExponent_signed hdigits true
    . exact readExponent_signed hdigits true

end Exponent

theorem readPoint_of_spells {l : Literal} {exponent : Option (Bool × List Char)} {t : List Char}
    (h : SpellsExponent exponent t) : readPoint l t = .ok (l, t) := by
  unfold readPoint
  split
  . cases h with
    | unsigned hletter => simp at hletter
    | plus hletter => simp at hletter
    | minus hletter => simp at hletter
  . rfl

theorem readMagnitude_of_spells {l : Literal} {s : List Char} (h : l.SpellsMagnitude s) :
    readMagnitude l.negative s = .ok (.ofLiteral l, []) := by
  unfold readMagnitude
  cases h with
  | whole h he =>
    rw [readWhole_append h (not_isDigit_of_spellsExponent he)]
    simp only [bind, Except.bind]
    rw [readPoint_of_spells he]
    dsimp only
    rw [readPower_of_spells he rfl]
    rfl
  | @fraction _ _ fraction t _ h hf he =>
    have hpoint : ∀ c r, '.' :: (fraction ++ t) = c :: r → c.isDigit = false := by
      rintro c r heq
      cases heq
      decide
    rw [readWhole_append h hpoint]
    simp only [bind, Except.bind, readPoint]
    rw [readFraction_append hf (not_isDigit_of_spellsExponent he)]
    dsimp only
    rw [readPower_of_spells he rfl]
    rfl

theorem exists_eq_digit_cons {l : Literal} {s : List Char} (h : l.SpellsMagnitude s) :
    ∃ c r, s = c :: r ∧ c.isDigit := by
  cases h with
  | @whole _ whole _ _ h he =>
    obtain ⟨c, r, rfl⟩ := List.exists_cons_of_ne_nil h.1.1
    exact ⟨c, _, rfl, h.1.2 c List.mem_cons_self⟩
  | @fraction _ whole _ _ _ h hf he =>
    obtain ⟨c, r, rfl⟩ := List.exists_cons_of_ne_nil h.1.1
    exact ⟨c, _, rfl, h.1.2 c List.mem_cons_self⟩

theorem readNumber_of_spells {l : Literal} {s : List Char} (h : l.Spells s) :
    readNumber s = .ok (.ofLiteral l, []) := by
  cases h with
  | positive hl h =>
    obtain ⟨c, r, rfl, hc⟩ := exists_eq_digit_cons h
    rw [readNumber_plain, ← hl]
    . exact readMagnitude_of_spells h
    . rintro r heq
      cases heq
      revert hc
      decide
  | negative hl h =>
    rw [readNumber_minus, ← hl]
    exact readMagnitude_of_spells h

section Converse

variable {l l' : Literal} {s r : List Char}

theorem isDigits_takeWhile (h : s.takeWhile Char.isDigit ≠ []) :
    IsDigits (s.takeWhile Char.isDigit) :=
  ⟨h, List.all_eq_true.1 List.all_takeWhile⟩

theorem stopAt_ne_ok {α : Type} {atCharacter atEnd : Flaw} {a : α} :
    stopAt atCharacter atEnd s ≠ .ok a := by
  unfold stopAt
  split
  . exact nofun
  . exact nofun

theorem of_readWhole {digits : List Char} (h : readWhole s = .ok (digits, r)) :
    IsWhole digits ∧ s = digits ++ r := by
  unfold readWhole at h
  dsimp only at h
  split at h
  . exact absurd h stopAt_ne_ok
  . cases h
  . next d hne hzero =>
    cases h
    refine ⟨⟨isDigits_takeWhile hne, ?_⟩, List.takeWhile_append_dropWhile.symm⟩
    intro r hr
    cases r with
    | nil => rfl
    | cons c r => exact absurd hr (hzero c r)

theorem of_readFraction (h : readFraction l s = .ok (l', r)) :
    ∃ digits, IsDigits digits ∧ s = digits ++ r ∧
      l' = { l with fraction := digits, hasFraction := true } := by
  unfold readFraction at h
  dsimp only at h
  split at h
  . exact absurd h stopAt_ne_ok
  . next hne =>
    cases h
    exact ⟨_, isDigits_takeWhile (by simpa using hne), List.takeWhile_append_dropWhile.symm, rfl⟩

theorem of_readExponent {letter : Char} (hletter : letter = 'e' ∨ letter = 'E')
    (h : readExponent l s = .ok (l', r)) :
    ∃ exponent t, SpellsExponent exponent (letter :: t) ∧ s = t ++ r ∧
      l' = { l with exponent } := by
  unfold readExponent at h
  split at h
  . next negative digits heq =>
  dsimp only at h
  split at h
  . exact absurd h stopAt_ne_ok
  . next hne =>
    have hdigits : IsDigits (digits.takeWhile Char.isDigit) :=
      isDigits_takeWhile (by simpa using hne)
    have happend := List.takeWhile_append_dropWhile (p := Char.isDigit) (l := digits)
    cases h
    split at heq
    . cases heq
      exact ⟨_, _, .plus hletter hdigits, congrArg _ happend.symm, rfl⟩
    . cases heq
      exact ⟨_, _, .minus hletter hdigits, congrArg _ happend.symm, rfl⟩
    . cases heq
      exact ⟨_, _, .unsigned hletter hdigits, happend.symm, rfl⟩

theorem of_readPower (hl : l.exponent = none) (h : readPower l s = .ok (l', r)) :
    ∃ exponent t, SpellsExponent exponent t ∧ s = t ++ r ∧ l' = { l with exponent } := by
  unfold readPower at h
  split at h
  . obtain ⟨exponent, t, ht, rfl, rfl⟩ := of_readExponent (.inl rfl) h
    exact ⟨exponent, _, ht, rfl, rfl⟩
  . obtain ⟨exponent, t, ht, rfl, rfl⟩ := of_readExponent (.inr rfl) h
    exact ⟨exponent, _, ht, rfl, rfl⟩
  . cases h
    refine ⟨none, [], .none, rfl, ?_⟩
    rw [← hl]

theorem of_readMagnitude {negative : Bool} {n : Number}
    (h : readMagnitude negative s = .ok (n, r)) :
    ∃ l t, l.negative = negative ∧ l.SpellsMagnitude t ∧ s = t ++ r ∧ n = .ofLiteral l := by
  unfold readMagnitude at h
  obtain ⟨⟨digits, r₁⟩, hwhole, h⟩ := bind_eq_ok_iff.1 h
  obtain ⟨⟨l₁, r₂⟩, hpoint, h⟩ := bind_eq_ok_iff.1 h
  obtain ⟨⟨l₂, r₃⟩, hpower, h⟩ := bind_eq_ok_iff.1 h
  cases h
  obtain ⟨hdigits, rfl⟩ := of_readWhole hwhole
  unfold readPoint at hpoint
  split at hpoint
  . obtain ⟨fraction, hfraction, rfl, rfl⟩ := of_readFraction hpoint
    obtain ⟨exponent, t, ht, rfl, rfl⟩ := of_readPower rfl hpower
    exact ⟨_, _, rfl, .fraction hdigits hfraction ht, by simp, rfl⟩
  . cases hpoint
    obtain ⟨exponent, t, ht, rfl, rfl⟩ := of_readPower rfl hpower
    exact ⟨_, _, rfl, .whole hdigits ht, by simp, rfl⟩

/-- What is read as a number is written as one. -/
theorem of_readNumber {n : Number} (h : readNumber s = .ok (n, r)) :
    ∃ l t, l.Spells t ∧ s = t ++ r ∧ n = .ofLiteral l := by
  by_cases hminus : ∃ t, s = '-' :: t
  . obtain ⟨t, rfl⟩ := hminus
    rw [readNumber_minus] at h
    obtain ⟨l, t, hl, ht, rfl, rfl⟩ := of_readMagnitude h
    exact ⟨l, _, .negative hl ht, rfl, rfl⟩
  . rw [readNumber_plain (not_exists.1 hminus)] at h
    obtain ⟨l, t, hl, ht, rfl, rfl⟩ := of_readMagnitude h
    exact ⟨l, _, .positive hl ht, rfl, rfl⟩

end Converse

theorem readValue_number {c : Char} (hc : c = '-' ∨ c.isDigit) (fuel : Nat) (r : List Char) :
    readValue (fuel + 1) (c :: r) = (readNumber (c :: r)).map fun (n, r) => (.number n, r) := by
  have hne {d : Char} (hd : d ≠ '-') (hdigit : d.isDigit = false) : c ≠ d := by
    rintro rfl
    rw [hdigit] at hc
    simp [hd] at hc
  have hspace : isSpace c = false := by
    simp [isSpace, hne (d := ' ') (by decide) (by decide), hne (d := '\n') (by decide) (by decide),
      hne (d := '\r') (by decide) (by decide), hne (d := '\t') (by decide) (by decide)]
  unfold readValue
  rw [skip_cons hspace]
  split
  . next heq => cases heq
  . next heq => exact absurd (List.cons.inj heq).1 (hne (by decide) (by decide))
  . next heq => exact absurd (List.cons.inj heq).1 (hne (by decide) (by decide))
  . next heq => exact absurd (List.cons.inj heq).1 (hne (by decide) (by decide))
  . next heq => exact absurd (List.cons.inj heq).1 (hne (by decide) (by decide))
  . next heq => exact absurd (List.cons.inj heq).1 (hne (by decide) (by decide))
  . next heq => exact absurd (List.cons.inj heq).1 (hne (by decide) (by decide))
  . next heq =>
    cases heq
    rw [if_pos (by simpa using hc)]

end Reader

/-- What is written as a number is read as one. -/
theorem read_of_spells {l : Literal} {s : List Char} (h : l.Spells s) :
    read (String.ofList s) = .ok (.number (.ofLiteral l)) := by
  obtain ⟨c, r, hs, hc⟩ : ∃ c r, s = c :: r ∧ (c = '-' ∨ c.isDigit) := by
    cases h with
    | positive _ h =>
      obtain ⟨c, r, hs, hc⟩ := Reader.exists_eq_digit_cons h
      exact ⟨c, r, hs, .inr hc⟩
    | negative => exact ⟨'-', _, rfl, .inl rfl⟩
  have hvalue := Reader.readValue_number hc (2 * (c :: r).length + 1) r
  rw [← hs, Reader.readNumber_of_spells h] at hvalue
  unfold read Reader.readWholeText
  rw [String.toList_ofList, hvalue]
  rfl

end Registrar.Json
