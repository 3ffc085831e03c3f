import TransferProof.Text

/-!
# Similarity of texts

Two texts are as similar as they have code points in common, in the following sense: the longest run
that stands in both counts, and so do those found in the same way on either side of it. Of several
longest runs the one that begins first in the first text is taken, and of these the one that begins
first in the second.
-/

namespace TransferProof.Text

/-- A run of code points that stands in two texts: its length, and where it begins in each. -/
structure CommonRun where
  length : Nat
  left : Nat
  right : Nat
  deriving DecidableEq, Repr

def sharedFront : Text → Text → Nat
  | x :: a, y :: b => if x = y then sharedFront a b + 1 else 0
  | _, _ => 0

/-- The longest run at the front of the first text that stands in the second, which has been passed
up to `right`; `best` is the longest run so far. -/
def longestAtFront (left : Nat) (a : Text) (best : CommonRun) (right : Nat) : Text → CommonRun
  | [] => best
  | y :: b =>
    let length := sharedFront a (y :: b)
    let best := if best.length < length then ⟨length, left, right⟩ else best
    longestAtFront left a best (right + 1) b

/-- The longest run of two texts, the first of which has been passed up to `left`. -/
def longestFrom (left : Nat) (best : CommonRun) (b : Text) : Text → CommonRun
  | [] => best
  | x :: a => longestFrom (left + 1) (longestAtFront left (x :: a) best 0 b) b a

def longestRun (a b : Text) : CommonRun := longestFrom 0 ⟨0, 0, 0⟩ b a

/-- Code points in common, when runs are looked for in at most `n` nested parts. -/
def commonWithin : Nat → Text → Text → Nat
  | 0, _, _ => 0
  | n + 1, a, b =>
    let run := longestRun a b
    if run.length = 0 then 0
    else commonWithin n (a.take run.left) (b.take run.right) + run.length
      + commonWithin n (a.drop (run.left + run.length)) (b.drop (run.right + run.length))

/-- Code points in common. Each run leaves shorter parts of the first text. -/
def common (a b : Text) : Nat := commonWithin a.length a b

/-- At least three fifths of the code points of both texts are common ones. -/
def isSimilar (a b : Text) : Bool := 3 * (a.length + b.length) ≤ 10 * common a b

/-- The first of two candidates is to be named before the second: it is more similar to the text, or
as similar and later in the order of texts. -/
def isCloser (t : Text) (a b : Text) : Bool :=
  let ofA := common a t * (b.length + t.length)
  let ofB := common b t * (a.length + t.length)
  ofB < ofA || (ofA == ofB && le b a)

def mostSimilar (count : Nat) (t : Text) (candidates : List Text) : List Text :=
  ((candidates.filter fun c => isSimilar c t).mergeSort (isCloser t)).take count

end TransferProof.Text
