import Accessors.Property.Resolution

/-!
# The accessors of a type

A type lists its accessors once; names and look-ups are computed from that list.

* `propertyNames`: the names of all accessors that have one, failures reported.
* `find`: the first accessor that reads a given property.
-/

namespace Accessors.Property

/-- The properties read by a list of accessors, in order. Accessors without a property name are
left out, and reported. -/
def propertyNames (accessors : List Accessor) : Traced (List PropertyName) :=
  let results := accessors.map fun a => resolve (.accessor a)
  ⟨results.filterMap (·.value), results.flatMap (·.events)⟩

/-- The accessor reads the property. -/
def reads (property : String) (result : Except ResolveError PropertyName) : Bool :=
  match result with
  | .ok n => n.text == property
  | .error _ => false

/-- The first accessor that reads a property. The search stops there, and so do the reports. -/
def find (property : String) : List Accessor → Traced (Option Accessor)
  | [] => ⟨none, []⟩
  | a :: rest =>
    let result := tryResolve (.accessor a)
    if reads property result.value then ⟨some a, result.events⟩
    else
      let later := find property rest
      ⟨later.value, result.events ++ later.events⟩

end Accessors.Property
