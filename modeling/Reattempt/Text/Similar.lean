/-!
# Similar words

How alike two words are is told by their matching runs: the longest run that they have in common,
and then the longest ones on its left and on its right.
-/
set_option autoImplicit false

namespace Reattempt.Text

def commonStart : List Char → List Char → Nat
  | a :: rest, b :: others => if a = b then commonStart rest others + 1 else 0
  | _, _ => 0

structure CommonRun where
  first : Nat
  second : Nat
  length : Nat

/-- The longest run in common; the earliest of several. -/
def longestRun (a b : List Char) : CommonRun :=
  let starts := (List.range a.length).flatMap fun i => (List.range b.length).map fun j => (i, j)
  starts.foldl (fun best (i, j) =>
    let length := commonStart (a.drop i) (b.drop j)
    if best.length < length then ⟨i, j, length⟩ else best) ⟨0, 0, 0⟩

def matchingFrom : Nat → List Char → List Char → Nat
  | 0, _, _ => 0
  | fuel + 1, a, b =>
      let run := longestRun a b
      if run.length = 0 then 0
      else
        matchingFrom fuel (a.take run.first) (b.take run.second) + run.length +
          matchingFrom fuel (a.drop (run.first + run.length)) (b.drop (run.second + run.length))

def matching (a b : List Char) : Nat := matchingFrom (a.length + 1) a b

/-- Whether two words have at least three fifths of their characters in matching runs. -/
def isSimilar (a b : String) : Bool :=
  decide (6 * (a.length + b.length) ≤ 20 * matching a.toList b.toList)

def similarTo (word : String) (words : List String) : List String :=
  words.filter fun other => isSimilar other word

end Reattempt.Text
