/-!
This module contains the white space of Unicode and the operations that strip it from the ends of
a text. A text that is being taken apart is a list of characters.
-/

namespace Registrar.Text

/-- The characters with the Unicode property `White_Space`. -/
def isBlank (c : Char) : Bool :=
  let n := c.toNat
  (0x9 ≤ n && n ≤ 0xD) || n == 0x20 || n == 0x85 || n == 0xA0 || n == 0x1680 ||
    (0x2000 ≤ n && n ≤ 0x200A) || n == 0x2028 || n == 0x2029 || n == 0x202F || n == 0x205F ||
    n == 0x3000

def trimStart (s : List Char) : List Char :=
  s.dropWhile isBlank

def trimEnd (s : List Char) : List Char :=
  (s.reverse.dropWhile isBlank).reverse

def trim (s : List Char) : List Char :=
  trimEnd (trimStart s)

def isBlankText (s : List Char) : Bool :=
  s.all isBlank

theorem isBlankText_nil : isBlankText [] :=
  rfl

theorem isBlankText_space : isBlankText [' '] :=
  rfl

theorem length_dropWhile_le (p : Char → Bool) (s : List Char) :
    (s.dropWhile p).length ≤ s.length := by
  induction s with
  | nil => simp
  | cons c r ih =>
    rw [List.dropWhile_cons]
    split
    . simp only [List.length_cons]
      omega
    . exact Nat.le_refl _

theorem length_trimStart_le (s : List Char) : (trimStart s).length ≤ s.length :=
  length_dropWhile_le _ _

theorem length_trimEnd_le (s : List Char) : (trimEnd s).length ≤ s.length := by
  have := length_dropWhile_le isBlank s.reverse
  simpa [trimEnd] using this

theorem length_trim_le (s : List Char) : (trim s).length ≤ s.length :=
  Nat.le_trans (length_trimEnd_le _) (length_trimStart_le _)

end Registrar.Text
