import RegisterMachine.Loose.Record

/-!
# Loose registries

A registry is loose when primitives may have been added under keys that are no
texts. Such keys go by equality, so 1 and a truth value are one key.
-/

set_option autoImplicit false

namespace RegisterMachine

namespace Loose

/-- A registry with the primitives whose keys are no texts. -/
structure Registry where
  named : RegisterMachine.Registry := .standard
  others : List (Value × Primitive) := []
  deriving Inhabited

namespace Registry

/-- The primitive of a key. -/
def find? (g : Registry) (key : Value) : Option Primitive :=
  match key with
  | .text name => g.named.find? name
  | key => (g.others.find? fun (other, _) => other.isSameKey key).map (·.2)

/-- The keys, if they can be put in order: a text has no order with anything else. -/
def keys (g : Registry) : Except Misuse (List String) :=
  match g.others with
  | [] => .ok g.named.keys
  | (key, _) :: _ => .error (.compared .less key.kind .text)

/-- Adds a primitive under a new key. -/
def register (g : Registry) (key : Value) (primitive : Primitive) : Except Error Registry := do
  if g.named.frozen then throw (.registration .frozen)
  match ← key.key.mapError .misuse with
  | .text name =>
    let named ← (g.named.register name primitive).mapError .registration
    return { g with named }
  | key =>
    if (g.find? key).isSome then throw (.registration (.duplicate (← written key)))
    return { g with others := g.others ++ [(key, primitive)] }

end Registry

end Loose

end RegisterMachine
