/-!
# Blank characters

`isBlank` is the White_Space property of Unicode, and `trim` removes blank characters from both
ends of a text.
-/

namespace ClusterPlan.Text

/-- The characters with the White_Space property. -/
def isBlank (c : Char) : Bool :=
  let n := c.toNat
  (9 ≤ n && n ≤ 13) || n == 0x20 || n == 0x85 || n == 0xA0 || n == 0x1680 ||
    (0x2000 ≤ n && n ≤ 0x200A) || n == 0x2028 || n == 0x2029 || n == 0x202F || n == 0x205F ||
    n == 0x3000

/-- A text without the blank characters at its end. -/
def trimEnd (cs : List Char) : List Char :=
  (cs.reverse.dropWhile isBlank).reverse

/-- A text without the blank characters at its ends. -/
def trim (cs : List Char) : List Char :=
  trimEnd (cs.dropWhile isBlank)

/-- A text that neither begins nor ends with a blank is trimmed already. -/
theorem trim_eq_self {c d : Char} {cs : List Char} (hhead : cs.head? = some c)
    (hlast : cs.getLast? = some d) (hc : isBlank c = false) (hd : isBlank d = false) :
    trim cs = cs := by
  obtain ⟨xs, rfl⟩ := List.head?_eq_some_iff.1 hhead
  obtain ⟨ys, hys⟩ := List.getLast?_eq_some_iff.1 hlast
  rw [trim, List.dropWhile_cons_of_neg (by simp [hc]), hys, trimEnd, List.reverse_append,
    List.reverse_singleton, List.singleton_append, List.dropWhile_cons_of_neg (by simp [hd]),
    List.reverse_cons, List.reverse_reverse]

end ClusterPlan.Text
