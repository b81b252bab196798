import Registrar.Proofs.Number
import Registrar.Proofs.Resolution

/-!
This module contains the proof that a value which has been converted to a kind is left as it is by a
second conversion to it. Parameters are converted twice, once when they are loaded and once when they
are encoded; therefore, they are encoded as if the first conversion had not been made.
-/

namespace Registrar

namespace Integer

variable {bits : Nat} {text : List Char}

theorem isNarrow_of_le (hb : 256 ≤ bits) : isNarrow bits = false := by
  simp only [isNarrow, Bool.or_eq_false_iff, decide_eq_false_iff_not]
  omega

/-- No word exceeds a width from that of a word on, so that all of these widths are read alike. -/
theorem readUnsigned_of_le (hb : 256 ≤ bits) : readUnsigned bits text = readUnsigned 256 text := by
  have hpow : 2 ^ 256 ≤ 2 ^ bits := Nat.pow_le_pow_right (by decide) hb
  unfold readUnsigned
  rw [isNarrow_of_le hb, isNarrow_of_le (Nat.le_refl 256)]
  split
  . rfl
  . dsimp only
    cases hread : readDigits (2 ^ 256 - 1) .beyondUnsignedWord 0 text with
    | error fault => rfl
    | ok n =>
      have hle := ((readDigits_eq_ok_iff (Nat.zero_le _)).1 hread).2.2
      have hlt : n < 2 ^ 256 := by omega
      show (if n < 2 ^ bits then _ else _) = if n < 2 ^ 256 then _ else _
      rw [if_pos hlt, if_pos (Nat.lt_of_lt_of_le hlt hpow)]

theorem readSigned_of_le (hb : 256 ≤ bits) : readSigned bits text = readSigned 256 text := by
  unfold readSigned
  rw [isNarrow_of_le hb, isNarrow_of_le (Nat.le_refl 256)]
  dsimp only
  cases hread : readWide text with
  | error fault => rfl
  | ok i =>
    have hfits := (readWide_eq_ok_iff.1 hread).2
    show (if fitsSigned bits i then _ else _) = if fitsSigned 256 i then _ else _
    rw [if_pos hfits, if_pos (fitsSigned_mono hb hfits)]

end Integer

namespace Value

variable {bits : Nat} {kind : Kind} {type : AbiType} {components : List Param} {v w : Value}

theorem convert_uint_word {w : Word} (hw : w.toNat < 2 ^ bits) :
    convert (.uint bits) (.uint w) = .ok (.uint w) := by
  cases Nat.le_total bits 256 with
  | inl hb => exact convert_uint hb hw
  | inr hb =>
    have hword : convert (.uint 256) (.uint w) = .ok (.uint w) :=
      convert_uint (Nat.le_refl 256) w.isLt
    rw [convert_number_eq rfl, mapError_eq_ok_iff] at hword ⊢
    unfold ofText at hword ⊢
    dsimp only at hword ⊢
    rw [Integer.readUnsigned_of_le hb]
    exact hword

theorem convert_int_word {w : Word} (hw : Integer.fitsSigned bits w.toInt) :
    convert (.int bits) (.int w) = .ok (.int w) := by
  cases Nat.le_total bits 256 with
  | inl hb => exact convert_int hb hw
  | inr hb =>
    have hword : convert (.int 256) (.int w) = .ok (.int w) :=
      convert_int (Nat.le_refl 256) (Integer.fitsSigned_toInt w)
    rw [convert_number_eq rfl, mapError_eq_ok_iff] at hword ⊢
    unfold ofText at hword ⊢
    dsimp only at hword ⊢
    rw [Integer.readSigned_of_le hb]
    exact hword

/-- What a text has been read as is of the sort that the kind has, and a number lies in the range of the
kind; such a value is read from its own text again, if it is not left as it is. -/
theorem convert_of_convert (h : convert kind v = .ok w) : convert kind w = .ok w := by
  cases convert_eq_ok h with
  | inl hsame =>
    rw [hsame.1] at h
    exact h
  | inr hread =>
    obtain ⟨text, hread⟩ := hread
    cases kind with
    | bool =>
      obtain ⟨b, -, rfl⟩ := exists_of_map_eq_ok hread
      exact convert_bool b
    | int bits =>
      obtain ⟨i, -, rfl⟩ := exists_of_map_eq_ok hread
      exact convert_int_word (fitsSigned_of_convert h)
    | uint bits =>
      obtain ⟨n, -, rfl⟩ := exists_of_map_eq_ok hread
      exact convert_uint_word (lt_of_convert h)
    | string =>
      cases hread
      exact convert_string text
    | address =>
      obtain ⟨a, -, rfl⟩ := exists_of_map_eq_ok hread
      exact convert_address a

theorem encodeAs_primitive (hk : type.kind? = some kind) :
    encodeAs type components v = v.convert kind >>= encodePrimitive type := by
  cases type with
  | bool | int | uint | string | address =>
    cases hk
    rw [encodeAs]
  | _ => cases hk

theorem encodeAs_convert (hk : type.kind? = some kind) (h : convert kind v = .ok w) :
    encodeAs type components w = encodeAs type components v := by
  rw [encodeAs_primitive hk, encodeAs_primitive hk, h, convert_of_convert h]

end Value

namespace Session

open Engine

variable {kind : Kind} {s s' : Session} {t : Trace}

/-- An argument is encoded as what its expression resolves to, which is converted only on the way. -/
theorem runs_argument_primitive_ok_iff {p : Param} {type : AbiType} {key : String} {a : AbiValue}
    (hp : p.resolve = some type) (hk : type.kind? = some kind) :
    Runs (argument loadParameter p key) s t (.ok a) s' ↔
      ∃ v w t₁, t = t₁ ++ [Event.loaded key w] ∧
        Runs (fetch key (fun k _ => load k) true) s t₁ (.ok v) s' ∧ ¬ v.isEmpty ∧
        v.convert kind = .ok w ∧ v.encodeAs type p.components = .ok a := by
  rw [runs_argument_ok_iff]
  constructor
  . rintro ⟨type', w, hp', hload, ha⟩
    rw [hp] at hp'
    cases hp'
    rw [hk] at hload
    obtain ⟨v, t₁, rfl, hfetch, hv⟩ := runs_load_ok_iff.1 hload
    cases hv with
    | inl hempty => cases hempty.2.1
    | inr hv =>
      refine ⟨v, w, t₁, rfl, hfetch, hv.1, hv.2, ?_⟩
      rw [← Value.encodeAs_convert hk hv.2]
      exact ha
  . rintro ⟨v, w, t₁, rfl, hfetch, hne, hw, ha⟩
    refine ⟨type, w, hp, ?_, ?_⟩
    . rw [hk]
      exact runs_load_ok_iff.2 ⟨v, t₁, rfl, hfetch, .inr ⟨hne, hw⟩⟩
    . rw [Value.encodeAs_convert hk hw]
      exact ha

end Session

namespace Value

open Session Engine

/-- Converting twice is converting once, and what has been converted is encoded, for a type of the
kind, as what it was converted from; so is every parameter of such a type. -/
theorem convert_idempotent (kind : Kind) :
    (∀ v w, convert kind v = .ok w →
      convert kind w = .ok w ∧
      ∀ (type : AbiType) (components : List Param), type.kind? = some kind →
        encodeAs type components w = encodeAs type components v) ∧
    ∀ (p : Param) (type : AbiType) (key : String) (s : Session) (t : Trace) (a : AbiValue)
        (s' : Session), p.resolve = some type → type.kind? = some kind →
      (Runs (argument loadParameter p key) s t (.ok a) s' ↔
        ∃ v w t₁, t = t₁ ++ [Event.loaded key w] ∧
          Runs (fetch key (fun k _ => load k) true) s t₁ (.ok v) s' ∧ ¬ v.isEmpty ∧
          convert kind v = .ok w ∧ encodeAs type p.components v = .ok a) := by
  constructor
  . intro v w h
    exact ⟨convert_of_convert h, fun type components hk => encodeAs_convert hk h⟩
  . intro p type key s t a s' hp hk
    exact runs_argument_primitive_ok_iff hp hk

/-- A text with zeros in front, which is not the text of the number that it is converted to. -/
theorem convert_idempotent_padded :
    let v := Value.string "007"
    let w := Value.uint 7
    let s : Session := { spec := default, cache := ⟨[("config:x", v)]⟩ }
    convert (.uint 8) v = .ok w ∧ convert (.uint 8) w = .ok w ∧
      encodeAs (.uint 8) [] w = encodeAs (.uint 8) [] v ∧
      Runs (argument loadParameter ⟨"x", "uint8", []⟩ "config:x") s [Event.loaded "config:x" w]
        (.ok (.uint 7 8)) s := by
  intro v w s
  have hconvert : convert (.uint 8) v = .ok w := rfl
  obtain ⟨hagain, hencode⟩ := (convert_idempotent (.uint 8)).1 v w hconvert
  refine ⟨hconvert, hagain, hencode (.uint 8) [] rfl, ?_⟩
  have hp : (Param.mk "x" "uint8" []).resolve = some (.uint 8) := rfl
  apply ((convert_idempotent (.uint 8)).2 _ _ "config:x" s _ _ s hp rfl).2
  refine ⟨v, w, [], rfl, ?_, by decide, hconvert, ?_⟩
  . exact (runs_fetch_some_iff rfl).2 ⟨rfl, rfl, rfl⟩
  . rw [encodeAs_primitive rfl, hconvert]
    rfl

end Value

end Registrar
