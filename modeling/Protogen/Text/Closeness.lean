/-!
# Close texts

Two texts are as close as the characters that they share: the longest run of characters in both,
and what the parts before it and the parts behind it share.

* `longestRun` finds the run, `sharedCount` counts the characters.
* `isClose` asks for three shared characters in every ten of both texts.
* `closest` picks the closest of some candidates.
-/

set_option autoImplicit false

namespace Protogen.Text

/-- How many characters two texts have in common at their beginnings. -/
def commonStart : List Char → List Char → Nat
  | a :: as, b :: bs => if a = b then commonStart as bs + 1 else 0
  | _, _ => 0

/-- A run of characters in two texts: where it begins in each, and its length. -/
structure Run where
  left : Nat
  right : Nat
  length : Nat
  deriving DecidableEq, Repr

/-- The longest run that two texts share; the one that begins first, if there are several. -/
def longestRun (as bs : List Char) : Run :=
  (List.range as.length).foldl (fun best i =>
    (List.range bs.length).foldl (fun best j =>
      let n := commonStart (as.drop i) (bs.drop j)
      if best.length < n then ⟨i, j, n⟩ else best) best) ⟨0, 0, 0⟩

/-- How many characters two texts share, looking at most `fuel` runs deep. -/
def sharedWithin : Nat → List Char → List Char → Nat
  | 0, _, _ => 0
  | fuel + 1, as, bs =>
    let run := longestRun as bs
    if run.length = 0 then 0
    else run.length + sharedWithin fuel (as.take run.left) (bs.take run.right) +
      sharedWithin fuel (as.drop (run.left + run.length)) (bs.drop (run.right + run.length))

/-- How many characters two texts share. -/
def sharedCount (as bs : List Char) : Nat := sharedWithin as.length as bs

/-- Whether three tenths of a number of characters are shared. -/
def isEnough (shared total : Nat) : Bool := 3 * total ≤ 10 * shared

/-- Whether two texts are close; if one is much longer than the other, they are not. -/
def isClose (a b : String) : Bool :=
  let total := a.length + b.length
  isEnough (min a.length b.length) total && isEnough (sharedCount a.toList b.toList) total

/-- Whether a candidate is at least as close to a text as another one; of two equally close ones
the one that is later in the alphabet is. -/
def isCloser (text a b : String) : Bool :=
  let left := sharedCount a.toList text.toList * (b.length + text.length)
  let right := sharedCount b.toList text.toList * (a.length + text.length)
  right < left || (left == right && !(a < b))

/-- The closest candidates to a text, at most `limit` of them, in alphabetical order. -/
def closest (limit : Nat) (candidates : List String) (text : String) : List String :=
  let close := (candidates.filter (isClose · text)).mergeSort (isCloser text)
  (close.take limit).mergeSort fun a b => !(b < a)

end Protogen.Text
