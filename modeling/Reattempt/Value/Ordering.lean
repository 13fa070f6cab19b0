import Reattempt.Value.Equality
/-!
# Order of values

Numbers are ordered by worth, text by code points, bytes by value, durations by length, lists and
tuples by their first differing items. Other pairs have no order, and asking for it is an error.
-/
set_option autoImplicit false

namespace Reattempt.Value

def unordered (a b : Value) : Failure :=
  .typeError (Text.between Text.singleQuote ">" ++ " not supported between instances of " ++
    Text.between Text.singleQuote a.kindName ++ " and " ++
    Text.between Text.singleQuote b.kindName)

def aboveBy {α : Type} (below : α → α → Bool) : List α → List α → Bool
  | [], _ => false
  | _ :: _, [] => true
  | x :: xs, y :: ys => if below y x then true else if below x y then false else aboveBy below xs ys

def aboveLeaf (a b : Value) : Except Failure Bool :=
  match a.numeric?, b.numeric? with
  | some m, some n => .ok (m.compare? n == some .gt)
  | _, _ =>
      match a, b with
      | .text x, .text y =>
          .ok (aboveBy (fun c d => decide (c.toNat < d.toNat)) x.toList y.toList)
      | .bytes x, .bytes y => .ok (aboveBy (fun c d => decide (c < d)) x y)
      | .duration x, .duration y => .ok (decide (y < x))
      | _, _ => .error (unordered a b)

mutual
def above : Value → Value → Except Failure Bool
  | .list items, .list others => aboveItems items others
  | .tuple items, .tuple others => aboveItems items others
  | a, b => aboveLeaf a b
termination_by structural value => value

def aboveItems : List Value → List Value → Except Failure Bool
  | [], _ => .ok false
  | _ :: _, [] => .ok true
  | item :: items, other :: others =>
      if isSame item other then aboveItems items others else above item other
termination_by structural items => items
end

end Reattempt.Value
