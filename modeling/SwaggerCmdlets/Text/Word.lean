import SwaggerCmdlets.Unicode.WordData

/-! # Words — which characters words are made of

    A word character is alphabetic, a mark, a decimal digit, a connector such as
    the underscore, or a joiner.  An identifier is narrower: ASCII letters,
    digits and underscores, not starting with a digit. -/

namespace SwaggerCmdlets.Text

open Unicode

/-- The table of word characters above 7F. -/
def wordTable : List (List Nat) := rows wordRows

/-- An ASCII letter or an underscore. -/
def isIdentStart (c : Char) : Bool :=
  let n := c.toNat
  (0x41 ≤ n && n ≤ 0x5A) || (0x61 ≤ n && n ≤ 0x7A) || n == 0x5F

/-- An ASCII letter, a digit or an underscore. -/
def isIdentRest (c : Char) : Bool :=
  isIdentStart c || (0x30 ≤ c.toNat && c.toNat ≤ 0x39)

/-- Whether a word may hold the character.  In ASCII that is what an identifier
    may hold. -/
def isWord (c : Char) : Bool :=
  if c.toNat < 0x80 then isIdentRest c else inRanges wordTable c.toNat

/-- Whether a text is an identifier. -/
def isIdent : List Char → Bool
  | [] => false
  | c :: cs => isIdentStart c && cs.all isIdentRest

theorem isWord_of_isIdentRest {c : Char} (h : isIdentRest c = true) :
    isWord c = true := by
  have hn : c.toNat < 0x80 := by
    simp only [isIdentRest, isIdentStart, Bool.or_eq_true, Bool.and_eq_true,
      decide_eq_true_eq, beq_iff_eq] at h
    omega
  rw [isWord, if_pos hn, h]

end SwaggerCmdlets.Text
