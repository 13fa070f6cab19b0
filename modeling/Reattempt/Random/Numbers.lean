import Reattempt.Random.Twister
/-!
# Generators in use

The generators that a run can be given: numbers known in advance, or a seeded twister.
-/
set_option autoImplicit false

namespace Reattempt

inductive Numbers where
  | scripted (script : Scripted)
  | seeded (twister : Twister)

instance : Generator Numbers where
  next
    | .scripted script =>
        let (number, script) := Generator.next script
        (number, .scripted script)
    | .seeded twister =>
        let (number, twister) := Generator.next twister
        (number, .seeded twister)

def Numbers.ofScripts (scripts : Array (Array Binary64)) (index : Nat) : Numbers :=
  .scripted { numbers := scripts[index % scripts.size]?.getD #[] }

def Numbers.ofSeeds (seeds : Array Int) (index : Nat) : Numbers :=
  .seeded (Twister.ofSeed (seeds[index % seeds.size]?.getD 0))

end Reattempt
