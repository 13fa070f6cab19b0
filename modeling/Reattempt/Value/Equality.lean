import Reattempt.Value
/-!
# Equality of values

Numbers and truth values are equal if they are worth the same, and times if they are the same
moment. Lists and tuples are compared item by item and differ from each other, mappings entry by
entry without regard to order. A raised failure equals nothing but itself. What is not a number does
not equal even itself, but what is found in a list, a tuple or a mapping is the same if it is the
same object. So equality depends on which values are one object.
-/
set_option autoImplicit false

namespace Reattempt

/-- Which values are one and the same object wherever they are met, of those that nothing else makes
equal. -/
class Objects where
  oneNaN : Bool
  isOne : Failure → Bool

/-- Every value is an object of its own. -/
instance Objects.apart : Objects := ⟨false, fun _ => false⟩

/-- Values that nothing tells apart are one object. -/
@[reducible] def Objects.alike : Objects := ⟨true, fun _ => true⟩

namespace Value

/-- Whether two values are known to be one object. -/
def isOne (objects : Objects) : Value → Value → Bool
  | .float x, .float y => objects.oneNaN && x.isNaN && x == y
  | .failure x, .failure y => objects.isOne x && x == y
  | _, _ => false

def equalLeaf (objects : Objects) (a b : Value) : Bool :=
  match a.numeric?, b.numeric? with
  | some m, some n => m.compare? n == some .eq
  | _, _ =>
      match a, b with
      | .null, .null => true
      | .text x, .text y => x == y
      | .brokenText x, .brokenText y => x == y
      | .bytes x, .bytes y => x == y
      | .duration x, .duration y => x == y
      | .date _ x, .date _ y => x == y
      | .className x, .className y => x == y
      | .failure _, .failure _ => isOne objects a b
      | _, _ => false

mutual
def equalBy (objects : Objects) : Value → Value → Bool
  | .list items, .list others => equalItems objects items others
  | .tuple items, .tuple others => equalItems objects items others
  | .mapping entries, .mapping others =>
      entries.length == others.length && entriesAmong objects entries others
  | a, b => equalLeaf objects a b
termination_by structural value => value

def equalItems (objects : Objects) : List Value → List Value → Bool
  | [], [] => true
  | item :: items, other :: others =>
      (isOne objects item other || equalBy objects item other) && equalItems objects items others
  | _, _ => false
termination_by structural items => items

def entriesAmong (objects : Objects) :
    List (Value × Value) → List (Value × Value) → Bool
  | [], _ => true
  | entry :: entries, others =>
      entryAmong objects entry others && entriesAmong objects entries others
termination_by structural entries => entries

def entryAmong (objects : Objects) : Value × Value → List (Value × Value) → Bool
  | (key, value), others => others.any fun other =>
      (isOne objects key other.1 || equalBy objects key other.1) &&
        (isOne objects value other.2 || equalBy objects value other.2)
termination_by structural entry => entry
end

def equal [objects : Objects] (a b : Value) : Bool := equalBy objects a b

/-- Whether two values are the same as keys or items: one object, or equal. -/
def isSame [objects : Objects] (a b : Value) : Bool := isOne objects a b || equalBy objects a b

end Value
end Reattempt
