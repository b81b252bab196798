import Registrar.Proofs.Grammar.Word

/-!
This module contains the proof that a key expression is read if and only if neither what stands
before the arrow that parts it nor what stands behind it is blank, and that the expression that is
read is written as a text from which it is read again. The first arrow of a text parts it; of a text
that calls something, the first arrow outside parentheses.
-/

namespace Registrar

namespace Text

variable {a b s w x : List Char}

theorem trimStart_blank_append (hb : isBlankText b) (s : List Char) :
    trimStart (b ++ s) = trimStart s :=
  dropWhile_append_of_blank hb s

theorem isBlankText_of_trimStart (h : trimStart s = []) : isBlankText s := by
  have heq : s.takeWhile isBlank = s := by
    have := List.takeWhile_append_dropWhile (p := isBlank) (l := s)
    rw [← trimStart, h, List.append_nil] at this
    exact this
  unfold isBlankText
  rw [← heq]
  exact List.all_takeWhile

theorem isBlankText_append (ha : isBlankText a) (hb : isBlankText b) : isBlankText (a ++ b) := by
  unfold isBlankText at *
  rw [List.all_append, ha, hb]
  rfl

/-- A text is what is left of it between blanks. -/
theorem exists_blanks (s : List Char) :
    ∃ b a, isBlankText b ∧ isBlankText a ∧ s = b ++ (trim s ++ a) := by
  have hend (s : List Char) : ∃ a, isBlankText a ∧ s = trimEnd s ++ a := by
    refine ⟨(s.reverse.takeWhile isBlank).reverse, ?_, ?_⟩
    . unfold isBlankText
      rw [List.all_reverse]
      exact List.all_takeWhile
    . unfold trimEnd
      rw [← List.reverse_append, List.takeWhile_append_dropWhile, List.reverse_reverse]
  obtain ⟨a, ha, htrim⟩ := hend (trimStart s)
  refine ⟨s.takeWhile isBlank, a, List.all_takeWhile, ha, ?_⟩
  unfold trim
  rw [← htrim]
  exact List.takeWhile_append_dropWhile.symm

theorem trim_append_blank (ha : isBlankText a) (s : List Char) : trim (s ++ a) = trim s := by
  by_cases hs : trimStart s = []
  . have hblank := isBlankText_of_trimStart hs
    rw [trim_of_blank hblank, trim_of_blank (isBlankText_append hblank ha)]
  . unfold trim
    rw [trimStart_append hs, trimEnd_append_of_blank ha]

theorem trim_blank_append (hb : isBlankText b) (s : List Char) : trim (b ++ s) = trim s := by
  unfold trim
  rw [trimStart_blank_append hb]

theorem trim_eq_nil_iff : trim s = [] ↔ isBlankText s := by
  constructor
  . intro h
    obtain ⟨b, a, hb, ha, heq⟩ := exists_blanks s
    rw [heq, h]
    exact isBlankText_append hb ha
  . exact trim_of_blank

theorem solid_trim (h : trim s ≠ []) : Solid (trim s) := by
  have hfront {c : Char} {r l : List Char} (heq : l.dropWhile isBlank = c :: r) :
      isBlank c = false := by
    have := List.head?_dropWhile_not isBlank l
    rw [heq] at this
    exact this
  constructor
  . obtain ⟨a, ha⟩ := exists_trimStart_eq s
    obtain ⟨c, r, hcons⟩ := List.exists_cons_of_ne_nil h
    rw [hcons] at ha
    exact ⟨c, r, hcons, hfront ha⟩
  . have hne : (trimStart s).reverse.dropWhile isBlank ≠ [] := fun hnil => h (by
      rw [trim, trimEnd, hnil]
      rfl)
    obtain ⟨c, r, hcons⟩ := List.exists_cons_of_ne_nil hne
    refine ⟨r.reverse, c, ?_, hfront hcons⟩
    rw [trim, trimEnd, hcons, List.reverse_cons]

/-- A word begins a longer text only if it begins the text, where the word does not have the
character that follows. -/
theorem prefix_append_iff (h : ∀ c ∈ x.head?, c ∉ w) : w <+: s ++ x ↔ w <+: s := by
  constructor
  . intro hw
    cases List.prefix_or_prefix_of_prefix hw (List.prefix_append s x) with
    | inl hs => exact hs
    | inr hs =>
      obtain ⟨m, rfl⟩ := hs
      cases m with
      | nil => simp
      | cons c m =>
        have hx : c :: m <+: x := (List.prefix_append_right_inj s).1 hw
        obtain ⟨r, rfl⟩ := hx
        exact absurd (by simp) (h c rfl)
  . intro hs
    exact hs.trans (List.prefix_append s x)

end Text

namespace Key

/-- The depth in parentheses behind a text that begins at depth `n`. -/
def depthFrom (n : Nat) (s : List Char) : Nat :=
  s.foldl (fun n c => if c = '(' then n + 1 else if c = ')' then n - 1 else n) n

/-- That a text, but for blanks, begins with a source that calls something. -/
def Calling (text : List Char) : Prop :=
  KeySource.func.marker <+: Text.trimStart text ∨ KeySource.call.marker <+: Text.trimStart text

/-- An arrow between two parts of a text, outside parentheses if the text calls something. -/
structure Parted (text a b : List Char) : Prop where
  eq : text = a ++ ("->".toList ++ b)
  outside : Calling text → depthFrom 0 a = 0

/-- The first arrow that parts a text. -/
structure Separated (text a b : List Char) : Prop extends Parted text a b where
  first : ∀ a' b', Parted text a' b' → a.length ≤ a'.length

/-- A text without an arrow behind a beginning that has the property. -/
def Free (P : List Char → Prop) (s : List Char) : Prop :=
  ∀ a b, s = a ++ ("->".toList ++ b) → ¬ P a

/-- What a scanner finds that looks for an arrow behind a beginning that has the property. -/
inductive Scans (P : List Char → Prop) (s : List Char) : Option (List Char × List Char) → Prop where
  | found {a b : List Char} (heq : s = a ++ ("->".toList ++ b)) (ha : P a) (hfree : Free P a) :
      Scans P s (some (a, b))
  | missing (hfree : Free P s) : Scans P s none

variable {P Q : List Char → Prop} {s a b a' b' : List Char} {c : Char}
  {r r' : Option (List Char × List Char)}

/-- Arrows do not overlap. -/
theorem Free.length_le (hfree : Free P a)
    (heq : a ++ ("->".toList ++ b) = a' ++ ("->".toList ++ b')) (ha' : P a') :
    a.length ≤ a'.length := by
  cases List.append_eq_append_iff.1 heq with
  | inl h =>
    obtain ⟨m, rfl, -⟩ := h
    simp
  | inr h =>
    obtain ⟨m, rfl, hm⟩ := h
    match m with
    | [] => simp
    | [c] => simp at hm
    | c :: d :: m =>
      simp at hm
      obtain ⟨rfl, rfl, -⟩ := hm
      exact absurd ha' (hfree a' m rfl)

theorem Free.congr (h : ∀ a, P a ↔ Q a) (hs : Free P s) : Free Q s :=
  fun a b heq ha => hs a b heq ((h a).2 ha)

namespace Scans

theorem congr (h : ∀ a, P a ↔ Q a) (hs : Scans P s r) : Scans Q s r := by
  cases hs with
  | found heq ha hfree => exact .found heq ((h _).1 ha) (hfree.congr h)
  | missing hfree => exact .missing (hfree.congr h)

theorem unique (h : Scans P s r) (h' : Scans P s r') : r = r' := by
  cases h with
  | found heq ha hfree =>
    cases h' with
    | found heq' ha' hfree' =>
      rw [heq] at heq'
      have hlength := Nat.le_antisymm (hfree.length_le heq' ha') (hfree'.length_le heq'.symm ha)
      obtain ⟨rfl, hrest⟩ := List.append_inj heq' hlength
      rw [List.append_cancel_left hrest]
    | missing hfree' => exact absurd ha (hfree' _ _ heq)
  | missing hfree =>
    cases h' with
    | found heq' ha' => exact absurd ha' (hfree _ _ heq')
    | missing => rfl

theorem nil : Scans P [] none := by
  apply Scans.missing
  intro a b heq
  simp at heq

/-- No arrow begins here, and the scanner goes on behind the character. -/
theorem cons (hc : P [] → Text.stripStart? "->".toList (c :: s) = none)
    (hs : Scans (fun a => P (c :: a)) s r) :
    Scans P (c :: s) (r.map fun (a, b) => (c :: a, b)) := by
  have hfree {t : List Char} (ht : t <+: s) (hfree : Free (fun a => P (c :: a)) t) :
      Free P (c :: t) := by
    intro a b heq ha
    cases a with
    | nil =>
      obtain ⟨m, rfl⟩ := ht
      have hnone := hc ha
      rw [← List.cons_append, heq, List.nil_append, List.append_assoc,
        Text.stripStart?_append] at hnone
      cases hnone
    | cons d a =>
      obtain ⟨rfl, htail⟩ := List.cons.inj heq
      exact hfree a b htail ha
  cases hs with
  | found heq ha hfree' =>
    apply Scans.found (by rw [heq]; rfl) ha
    apply hfree _ hfree'
    rw [heq]
    exact List.prefix_append _ _
  | missing hfree' => exact .missing (hfree List.prefix_rfl hfree')

theorem here (hs : Text.stripStart? "->".toList s = some b) (hP : P []) :
    Scans P s (some ([], b)) := by
  apply Scans.found _ hP
  . intro a b heq
    simp at heq
  . rw [List.nil_append]
    exact Text.stripStart?_eq_some hs

end Scans

theorem scans_cutWord? (s : List Char) :
    Scans (fun _ => True) s (Text.cutWord? "->".toList s) := by
  induction s with
  | nil => exact .nil
  | cons c s ih =>
    unfold Text.cutWord?
    split
    . next b hb => exact .here hb trivial
    . next hb => exact .cons (fun _ => hb) ih

theorem scans_cutArrow? (n : Nat) (s : List Char) :
    Scans (fun a => depthFrom n a = 0) s (cutArrow? n s) := by
  induction s generalizing n with
  | nil => exact .nil
  | cons c s ih =>
    unfold cutArrow?
    split
    . next hc =>
      rw [hc]
      exact .cons (fun _ => rfl) (ih (n + 1))
    . next hopen =>
      split
      . next hc =>
        rw [hc]
        exact .cons (fun _ => rfl) (ih (n - 1))
      . next hclose =>
        split
        . next b hb =>
          split at hb
          . next hn => exact .here hb hn
          . cases hb
        . next hb =>
          apply Scans.cons
          . intro hn
            rw [if_pos (show n = 0 from hn)] at hb
            exact hb
          . apply (ih n).congr
            intro a
            rw [depthFrom, depthFrom, List.foldl_cons, if_neg hopen, if_neg hclose]

theorem stripStart?_isSome_iff {w s : List Char} :
    (Text.stripStart? w s).isSome ↔ w <+: s := by
  constructor
  . intro h
    obtain ⟨r, hr⟩ := Option.isSome_iff_exists.1 h
    exact ⟨r, (Text.stripStart?_eq_some hr).symm⟩
  . rintro ⟨r, rfl⟩
    rw [Text.stripStart?_append]
    rfl

theorem isNested_iff {text : List Char} : isNested text ↔ Calling text := by
  unfold isNested Calling
  dsimp only
  rw [Bool.or_eq_true, stripStart?_isSome_iff, stripStart?_isSome_iff]

/-- That the end of the text stands outside parentheses, if this counts. -/
def Outside (n : Prop) (a : List Char) : Prop := n → depthFrom 0 a = 0

theorem scans_cutTransform? (text : List Char) :
    Scans (Outside (Calling text)) text (cutTransform? text) := by
  unfold cutTransform?
  split
  . next h =>
    apply (scans_cutArrow? 0 text).congr
    intro a
    exact (imp_iff_right (isNested_iff.1 h)).symm
  . next h =>
    apply (scans_cutWord? text).congr
    intro a
    exact ⟨fun _ hn => absurd (isNested_iff.2 hn) h, fun _ => trivial⟩

/-- The transform of an expression is what stands behind the arrow that parts it. -/
theorem cutTransform?_eq_some_iff {text : List Char} :
    cutTransform? text = some (a, b) ↔ Separated text a b := by
  have hscans := scans_cutTransform? text
  constructor
  . intro h
    rw [h] at hscans
    cases hscans with
    | found heq ha hfree =>
      refine ⟨⟨heq, ha⟩, fun a' b' h' => ?_⟩
      exact hfree.length_le (heq.symm.trans h'.eq) h'.outside
  . intro h
    apply hscans.unique
    apply Scans.found h.eq h.outside
    rintro a' b' rfl ha'
    have hlength := h.first a' (b' ++ ("->".toList ++ b)) ⟨by simp [h.eq], ha'⟩
    rw [List.length_append, List.length_append, show "->".toList.length = 2 from rfl] at hlength
    omega

theorem cutTransform?_eq_none_iff {text : List Char} :
    cutTransform? text = none ↔ ∀ a b, ¬ Parted text a b := by
  have hscans := scans_cutTransform? text
  constructor
  . intro h a b hparted
    rw [h] at hscans
    cases hscans with
    | missing hfree => exact hfree a b hparted.eq hparted.outside
  . intro h
    apply hscans.unique
    exact .missing fun a b heq ha => h a b ⟨heq, ha⟩

/-! Blanks are neither parentheses nor parts of an arrow or of the name of a source. -/

theorem not_mem_of_blank {d : Char} (hd : Text.isBlank d = false) (hb : Text.isBlankText b) :
    d ∉ b :=
  Blanks.not_mem hd ⟨b, hb⟩

theorem depthFrom_append (n : Nat) (a b : List Char) :
    depthFrom n (a ++ b) = depthFrom (depthFrom n a) b :=
  List.foldl_append

theorem depthFrom_blank (n : Nat) (hb : Text.isBlankText b) : depthFrom n b = n := by
  have hopen : '(' ∉ b := not_mem_of_blank (by decide) hb
  have hclose : ')' ∉ b := not_mem_of_blank (by decide) hb
  clear hb
  induction b with
  | nil => rfl
  | cons c b ih =>
    rw [List.mem_cons, not_or] at hopen hclose
    rw [depthFrom, List.foldl_cons, if_neg (Ne.symm hopen.1), if_neg (Ne.symm hclose.1)]
    exact ih hopen.2 hclose.2

theorem depthFrom_between (hb : Text.isBlankText b) (ha : Text.isBlankText a) (s : List Char) :
    depthFrom 0 (b ++ (s ++ a)) = depthFrom 0 s := by
  rw [depthFrom_append, depthFrom_blank 0 hb, depthFrom_append, depthFrom_blank _ ha]

theorem outside_between {n : Prop} (hb : Text.isBlankText b) (ha : Text.isBlankText a)
    (s : List Char) : Outside n (b ++ (s ++ a)) ↔ Outside n s := by
  unfold Outside
  rw [depthFrom_between hb ha]

theorem outside_blank_append {n : Prop} (hb : Text.isBlankText b) (s : List Char) :
    Outside n (b ++ s) ↔ Outside n s := by
  have h := outside_between (n := n) hb (a := []) rfl s
  rw [List.append_nil] at h
  exact h

theorem Free.of_between {n : Prop} (hb : Text.isBlankText b)
    (h : Free (Outside n) (b ++ (s ++ a))) : Free (Outside n) s := by
  rintro x y rfl hx
  apply h (b ++ x) (y ++ a) (by simp)
  exact (outside_blank_append hb x).2 hx

theorem Free.blank_append {n : Prop} (hb : Text.isBlankText b) (h : Free (Outside n) s) :
    Free (Outside n) (b ++ s) := by
  induction b with
  | nil => exact h
  | cons c b ih =>
    obtain ⟨hc, hb⟩ := Bool.and_eq_true_iff.1 hb
    intro x y heq hx
    cases x with
    | nil =>
      have hdash : c = '-' := (List.cons.inj heq).1
      rw [hdash] at hc
      exact absurd hc (by decide)
    | cons d x =>
      obtain ⟨rfl, htail⟩ := List.cons.inj heq
      apply ih hb x y htail
      exact (outside_blank_append (b := [c]) (by simp [Text.isBlankText, hc]) x).1 hx

theorem Free.append_blank (ha : Text.isBlankText a) (h : Free P s) : Free P (s ++ a) := by
  induction a generalizing s with
  | nil =>
    rw [List.append_nil]
    exact h
  | cons c a ih =>
    obtain ⟨hc, ha⟩ := Bool.and_eq_true_iff.1 ha
    rw [← List.singleton_append, ← List.append_assoc]
    apply ih ha
    intro x y heq hx
    cases List.eq_nil_or_concat y with
    | inl hy =>
      have hlast := congrArg List.getLast? heq
      simp [hy] at hlast
      rw [hlast] at hc
      exact absurd hc (by decide)
    | inr hy =>
      obtain ⟨y, d, rfl⟩ := hy
      rw [List.concat_eq_append, ← List.append_assoc, ← List.append_assoc] at heq
      have htext := (List.append_inj' heq rfl).1
      rw [List.append_assoc] at htext
      exact h x y htext hx

/-- What goes on with no character of the name of a source. -/
def Detached (s : List Char) : Prop :=
  ∀ c ∈ s.head?, ∀ source : KeySource, c ∉ source.marker

theorem detached_arrow (b : List Char) : Detached ("->".toList ++ b) := by
  intro c hc source
  cases hc
  exact not_mem_marker source (by decide)

theorem detached_of_blank (hb : Text.isBlankText b) : Detached b := by
  intro c hc source hmem
  obtain ⟨r, rfl⟩ := List.head?_eq_some_iff.1 hc
  have hblank : Text.isBlank c := (Bool.and_eq_true_iff.1 hb).1
  have hmarker : source.marker.all fun d => !Text.isBlank d := by cases source <;> decide +kernel
  have hsolid := List.all_eq_true.1 hmarker c hmem
  rw [hblank] at hsolid
  cases hsolid

theorem calling_append {x : List Char} (hs : Text.trimStart s ≠ []) (hx : Detached x) :
    Calling (s ++ x) ↔ Calling s := by
  unfold Calling
  rw [Text.trimStart_append hs]
  rw [Text.prefix_append_iff fun c hc => hx c hc _, Text.prefix_append_iff fun c hc => hx c hc _]

theorem trimStart_ne_nil (hs : Text.trim s ≠ []) : Text.trimStart s ≠ [] :=
  fun h => hs (Text.trim_eq_nil_iff.2 (Text.isBlankText_of_trimStart h))

theorem calling_trim (s : List Char) : Calling (Text.trim s) ↔ Calling s := by
  obtain ⟨b, a, hb, ha, heq⟩ := Text.exists_blanks s
  have hstart : Calling s ↔ Calling (Text.trim s ++ a) := by
    conv => lhs; rw [heq]
    unfold Calling
    rw [Text.trimStart_blank_append hb]
  rw [hstart]
  by_cases hs : Text.trim s = []
  . rw [hs, List.nil_append]
    unfold Calling
    have hblank : Text.trimStart a = [] := by
      have h := Text.trimStart_blank_append ha []
      rw [List.append_nil] at h
      exact h
    rw [hblank]
    rfl
  . apply (calling_append _ (detached_of_blank ha)).symm
    rw [← List.append_nil (Text.trim s), (Text.solid_trim hs).trimStart_append, List.append_nil]
    exact hs

/-- Blanks around a text do not change where it is parted. -/
theorem cutTransform?_between (hb : Text.isBlankText b) (ha : Text.isBlankText a)
    (s : List Char) :
    cutTransform? (b ++ (s ++ a)) = (cutTransform? s).map fun (x, y) => (b ++ x, y ++ a) := by
  have hcalling : Calling (b ++ (s ++ a)) ↔ Calling s := by
    rw [← calling_trim, Text.trim_blank_append hb, Text.trim_append_blank ha, calling_trim]
  apply (scans_cutTransform? _).unique
  rw [propext hcalling]
  have hscans := scans_cutTransform? s
  generalize cutTransform? s = parts at hscans ⊢
  cases hscans with
  | @found x y heq hx hfree =>
    have hparts : b ++ (s ++ a) = (b ++ x) ++ ("->".toList ++ (y ++ a)) := by
      rw [heq]
      simp only [List.append_assoc]
    exact .found hparts ((outside_blank_append hb x).2 hx) (hfree.blank_append hb)
  | missing hfree => exact .missing ((hfree.append_blank ha).blank_append hb)

theorem cutTransform?_trim_eq_none (h : cutTransform? s = none) :
    cutTransform? (Text.trim s) = none := by
  obtain ⟨b, a, hb, ha, heq⟩ := Text.exists_blanks s
  rw [heq, cutTransform?_between hb ha, Option.map_eq_none_iff] at h
  exact h

/-- The parts of a text are still parted without the blanks around them. -/
theorem cutTransform?_trim_parts (h : cutTransform? s = some (a, b)) (ha : Text.trim a ≠ []) :
    cutTransform? (Text.trim a ++ ("->".toList ++ Text.trim b)) =
      some (Text.trim a, Text.trim b) := by
  -- The text calls something if and only if what is before the arrow does.
  have hcalling : Calling (Text.trim a ++ ("->".toList ++ Text.trim b)) ↔ Calling s := by
    rw [cutTransform?_eq_some h]
    rw [calling_append (trimStart_ne_nil ha) (detached_arrow b)]
    rw [calling_append _ (detached_arrow _), calling_trim]
    apply trimStart_ne_nil
    rw [(Text.solid_trim ha).trim_eq]
    exact ha
  have hscans := scans_cutTransform? s
  rw [h] at hscans
  apply (scans_cutTransform? _).unique
  rw [propext hcalling]
  cases hscans with
  | found heq hout hfree =>
    obtain ⟨x, y, hx, hy, htrim⟩ := Text.exists_blanks a
    rw [htrim] at hout hfree
    exact .found rfl ((outside_between hx hy _).1 hout) (hfree.of_between hx)

end Key

namespace KeyExpression

open Key

variable {key : String} {a b : List Char}

/-- The expression of what stands before the arrow and behind it, without blanks around them. -/
def ofParts (core : List Char) (transform : Option (List Char)) : KeyExpression :=
  ⟨(splitSource core).1, String.ofList (splitSource core).2, transform.map String.ofList⟩

theorem read?_of_cut (h : cutTransform? key.toList = some (a, b)) :
    read? key =
      if Text.trim a = [] ∨ Text.trim b = [] then none
      else some (ofParts (Text.trim a) (some (Text.trim b))) := by
  unfold read?
  dsimp only
  rw [h]
  simp [ofParts]

theorem read?_of_whole (h : cutTransform? key.toList = none) :
    read? key =
      if Text.trim key.toList = [] then none else some (ofParts (Text.trim key.toList) none) := by
  unfold read?
  dsimp only
  rw [h]
  simp [ofParts]

theorem toList_text_ofParts (core : List Char) (transform : Option (List Char)) :
    (ofParts core transform).text.toList =
      core ++ match transform with
        | none => []
        | some t => "->".toList ++ t := by
  unfold ofParts text
  cases transform with
  | none => simp [← splitSource_eq]
  | some t => simp [← splitSource_eq]

/-- Blanks around an expression do not change what is read. -/
theorem read?_between {x y : String} (hx : Text.isBlankText x.toList)
    (hy : Text.isBlankText y.toList) (key : String) : read? (x ++ key ++ y) = read? key := by
  have htext : (x ++ key ++ y).toList = x.toList ++ (key.toList ++ y.toList) := by simp
  have hcut' := cutTransform?_between hx hy key.toList
  rw [← htext] at hcut'
  cases hcut : cutTransform? key.toList with
  | none =>
    rw [hcut] at hcut'
    rw [read?_of_whole hcut, read?_of_whole hcut', htext, Text.trim_blank_append hx,
      Text.trim_append_blank hy]
  | some parts =>
    rw [hcut] at hcut'
    rw [read?_of_cut hcut, read?_of_cut hcut', Text.trim_blank_append hx,
      Text.trim_append_blank hy]

/-- An expression that is read is read again from its text. -/
theorem read?_text {e : KeyExpression} (h : read? key = some e) : read? e.text = some e := by
  cases hcut : cutTransform? key.toList with
  | none =>
    rw [read?_of_whole hcut] at h
    split at h
    . cases h
    . next hcore =>
      cases h
      have htext := toList_text_ofParts (Text.trim key.toList) none
      rw [List.append_nil] at htext
      have hcut' := cutTransform?_trim_eq_none hcut
      rw [← htext] at hcut'
      rw [read?_of_whole hcut', htext, (Text.solid_trim hcore).trim_eq, if_neg hcore]
  | some parts =>
    rw [read?_of_cut hcut] at h
    split at h
    . cases h
    . next hparts =>
      cases h
      rw [not_or] at hparts
      have htext := toList_text_ofParts (Text.trim parts.1) (some (Text.trim parts.2))
      dsimp only at htext
      have hcut' := cutTransform?_trim_parts hcut hparts.1
      rw [← htext] at hcut'
      rw [read?_of_cut hcut', (Text.solid_trim hparts.1).trim_eq,
        (Text.solid_trim hparts.2).trim_eq, if_neg (not_or.2 hparts)]

/-- An expression is read if and only if neither what stands before the first arrow that parts it
nor what stands behind it is blank, or, without such an arrow, if it is not blank. What is read is
read again from its text. -/
theorem read?_isSome_iff_and_read?_text (key : String) :
    ((read? key).isSome ↔
      (∃ a b, Separated key.toList a b ∧ ¬ Text.isBlankText a ∧ ¬ Text.isBlankText b) ∨
      (∀ a b, ¬ Parted key.toList a b) ∧ ¬ Text.isBlankText key.toList) ∧
    ∀ e, read? key = some e → read? e.text = some e := by
  refine ⟨?_, fun e => read?_text⟩
  cases hcut : cutTransform? key.toList with
  | none =>
    have hwhole := cutTransform?_eq_none_iff.1 hcut
    rw [read?_of_whole hcut]
    simp only [Text.trim_eq_nil_iff]
    constructor
    . intro h
      apply Or.inr
      refine ⟨hwhole, fun hblank => ?_⟩
      simp [hblank] at h
    . rintro (⟨a, b, hab, -⟩ | ⟨-, hblank⟩)
      . exact absurd hab.toParted (hwhole a b)
      . rw [if_neg hblank]
        rfl
  | some parts =>
    obtain ⟨a, b⟩ := parts
    have hab := cutTransform?_eq_some_iff.1 hcut
    rw [read?_of_cut hcut]
    simp only [Text.trim_eq_nil_iff]
    constructor
    . intro h
      have hparts : ¬ (Text.isBlankText a ∨ Text.isBlankText b) := by
        intro hblank
        rw [if_pos hblank] at h
        cases h
      rw [not_or] at hparts
      exact .inl ⟨a, b, hab, hparts⟩
    . rintro (⟨a', b', hab', hparts⟩ | ⟨hwhole, -⟩)
      . rw [← cutTransform?_eq_some_iff, hcut] at hab'
        cases hab'
        rw [if_neg (not_or.2 hparts)]
        rfl
      . exact absurd hab.toParted (hwhole a b)

/-- The arrow of an inner expression does not part the one around it, and the blanks around the
parts are gone when it is written. -/
theorem read?_text_calling :
    read? " func:f(x = a->b) -> t" = some ⟨.func, "f(x = a->b)", some "t"⟩ ∧
    read? "func:f(x = a->b)->t" = some ⟨.func, "f(x = a->b)", some "t"⟩ := by
  have h : read? " func:f(x = a->b) -> t" = some ⟨.func, "f(x = a->b)", some "t"⟩ := by
    decide +kernel
  have htext : text ⟨.func, "f(x = a->b)", some "t"⟩ = "func:f(x = a->b)->t" := by
    decide +kernel
  have hagain := (read?_isSome_iff_and_read?_text " func:f(x = a->b) -> t").2 _ h
  rw [htext] at hagain
  exact ⟨h, hagain⟩

end KeyExpression

end Registrar
